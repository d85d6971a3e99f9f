import DesignGraph.Attachment.Credentials
import DesignGraph.Files.FileTree
import DesignGraph.Files.PathText
import DesignGraph.Json.Reader

/-!
# The host configuration

The file in which a host keeps the servers it uses: an object with a map of entries,
each with a map of settings. Other tools own that file, so what else it holds is skipped
without being judged.
-/

namespace DesignGraph.Attachment

open Files Json

abbrev HostConfig := List (String × Settings)

/-- The member of a name among members where it may stand once. -/
def soleMember (name : String) (found : Option Tree) :
    List (Literal × Tree) → Except Json.Fault (Option Tree)
  | [] => .ok found
  | (key, item) :: rest => do
    if (← key.text) ≠ name then soleMember name found rest
    else if found.isSome then .error (.repeatedField name)
    else soleMember name (some item) rest

/-- The only field of a structure, written as an object or as a list of the fields.
Fields of other names are skipped. -/
def soleField (name : String) : Tree → Except Json.Fault (Option Tree)
  | .array [] => .ok none
  | .array [item] => .ok (some item)
  | .object members => soleMember name none members
  | _ => .error (.notA "an object")

/-- The members of a map, each read in the same way; of a repeated key the last counts. -/
def readMap {α : Type} (read : Tree → Except Json.Fault α) :
    Tree → Except Json.Fault (List (String × α))
  | .object members =>
    members.foldlM (fun found (key, item) => do
      return putMember (← key.text) (← read item) found) []
  | _ => .error (.notA "a map")

/-- The settings of an entry. Their map is inside three others. -/
def readEntry (tree : Tree) : Except Json.Fault Settings := do
  match ← soleField "env" tree with
  | some settings => readMap (Tree.toValue (deepest - 4)) settings
  | none => return []

/-- The host configuration that a text spells. -/
def HostConfig.read (text : String) : Except Json.Fault HostConfig := do
  match ← soleField "mcpServers" (← Tree.ofText text.toList) with
  | some servers => readMap readEntry servers
  | none => return []

/-- The credentials of a server of the configuration. -/
def HostConfig.credentials (config : HostConfig) (server : String) :
    Except ConfigFault Credentials :=
  match member? server config with
  | some settings => Credentials.ofSettings settings
  | none => .error (.unknownServer server (config.map Prod.fst))

/-- The credentials of a server in the text of a configuration. -/
def readCredentials (text server : String) : Except Failure Credentials :=
  match HostConfig.read text with
  | .error fault => .error (.configUnusable (.invalid fault))
  | .ok config => (config.credentials server).mapError .configUnusable

/-- The credentials of a server in a configuration file. -/
def loadCredentials (files : FileTree) (path server : String) : Except Failure Credentials :=
  match files.readText path with
  | .error fault => .error (.configUnusable (.cannotRead path fault))
  | .ok text => readCredentials text server

/-- The configuration file below a home directory. -/
def configPath (home : String) : String := joinPath home ".claude.json"

end DesignGraph.Attachment
