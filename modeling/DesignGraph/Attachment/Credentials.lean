import DesignGraph.Failure
import DesignGraph.Json.Writer
import DesignGraph.Text.Quoted
import DesignGraph.Text.Trim

/-!
# Credentials

The address of the wiki, the name and token of its user, and whether the server has to
prove who it is, from the settings of a server entry. Settings are JSON values: a string
counts without the blanks around it, anything else but null by its JSON text.
-/

namespace DesignGraph.Attachment

open Text Json

/-- What is needed to attach a file. -/
structure Credentials where
  baseUrl : String
  username : String
  token : String
  verifyTls : Bool
  deriving DecidableEq, Repr

abbrev Settings := List (String × Value)

def urlKey : String := "CONFLUENCE_URL"

/-- The key of the site's address, below which the wiki is. -/
def siteUrlKey : String := "JIRA_URL"

def usernameKey : String := "CONFLUENCE_USERNAME"

def tokenKey : String := "CONFLUENCE_API_TOKEN"

/-- The key that switches off the proof of the server. -/
def verifyKey : String := "CONFLUENCE_SSL_VERIFY"

/-- The text of a setting; none when it is missing, null or blank. -/
def settingText? (settings : Settings) (key : String) : Option String :=
  let text := match member? key settings with
    | some (.string s) => some (trimmed s)
    | some .null => none
    | some other => some other.line
    | none => none
  text.filter (· ≠ "")

def dropSlashes (text : String) : String :=
  String.ofList (dropEndWhile (· == '/') text.toList)

/-- The server has to prove who it is, unless the setting is false. -/
def verifiesTls (setting : Option Value) : Bool :=
  match setting with
  | some (.bool b) => b
  | some (.string s) => !sameIgnoringCase (trim s.toList) "false".toList
  | _ => true

/-- The address of the wiki: its own setting, or the one of the site. -/
def wikiUrl? (settings : Settings) : Option String :=
  match settingText? settings urlKey with
  | some url => some url
  | none => (settingText? settings siteUrlKey).map fun site => dropSlashes site ++ "/wiki"

/-- The credentials in the settings; the keys that are missing if there are any. -/
def Credentials.ofSettings (settings : Settings) : Except ConfigFault Credentials :=
  let url := wikiUrl? settings
  let username := settingText? settings usernameKey
  let token := settingText? settings tokenKey
  match url, username, token with
  | some url, some username, some token =>
    .ok ⟨dropSlashes url, username, token, verifiesTls (member? verifyKey settings)⟩
  | _, _, _ =>
    .error (.missing
      (([(urlKey, url), (usernameKey, username), (tokenKey, token)].filter fun entry =>
        entry.2.isNone).map Prod.fst))

/-- The credentials in words, for logs; the token is not shown. -/
def Credentials.describe (c : Credentials) : String :=
  "Credentials \x7b base_url: " ++ quoted c.baseUrl ++ ", username: " ++ quoted c.username ++
    ", api_token: " ++ quoted "<redacted>" ++ ", verify_tls: " ++ toString c.verifyTls ++ " \x7d"

end DesignGraph.Attachment
