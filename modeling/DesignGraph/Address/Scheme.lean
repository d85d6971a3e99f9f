/-!
# Schemes

The scheme of an address says how the rest of it is read. Most schemes leave that to
whoever uses them.
-/

namespace DesignGraph.Address

/-- How addresses of a scheme are read. -/
inductive SchemeKind where
  /-- Files, of this computer or of a server. -/
  | files
  /-- Servers, asked at the service of this number where the address gives none. -/
  | servers (service : Nat)
  | free
  deriving DecidableEq, Repr

namespace SchemeKind

/-- Schemes of servers, and the numbers of their own services. -/
def serverSchemes : List (String × Nat) :=
  [("http", 80), ("https", 443), ("ws", 80), ("wss", 443), ("ftp", 21)]

def of (scheme : List Char) : SchemeKind :=
  if scheme = "file".toList then .files
  else
    match serverSchemes.find? fun entry => entry.1.toList == scheme with
    | some (_, service) => .servers service
    | none => .free

/-- The scheme has rules for names, takes a backslash for a slash and always has a path. -/
def isSpecial : SchemeKind → Bool
  | .free => false
  | _ => true

/-- The number of the scheme's own service. -/
def service? : SchemeKind → Option Nat
  | .servers service => some service
  | _ => none

/-- The character stands between the parts of a path. -/
def isSlash (kind : SchemeKind) (c : Char) : Bool := c == '/' || (kind.isSpecial && c == '\\')

end SchemeKind

/-- The scheme of an address in lower case, and what follows its colon. -/
def splitScheme? (text : List Char) : Option (List Char × List Char) :=
  let scheme := text.takeWhile fun c => c.isAlphanum || c == '+' || c == '-' || c == '.'
  match scheme, text.drop scheme.length with
  | c :: _, ':' :: rest => if c.isAlpha then some (scheme.map Char.toLower, rest) else none
  | _, _ => none

end DesignGraph.Address
