import DesignGraph.Address.Host
import DesignGraph.Address.Path
import DesignGraph.Text.Trim

/-!
# Addresses

An address is read from text and kept in its normal form: the scheme in lower case, the
host in the normal form of its kind, dots in the path worked out, and every character
that may not stand in its part written as percent signs and hexadecimal digits. Only
addresses with a host can be asked, and only by the two schemes of the web.
-/

namespace DesignGraph.Address

open Text

/-- Who is asked, and as whom. -/
structure Endpoint where
  /-- The name of a user; mostly empty. -/
  user : List Char := []
  password : Option (List Char) := none
  host : Host
  /-- The number of the service, where it is not the scheme's own. -/
  service : Option Nat := none
  deriving DecidableEq, Repr

/-- What stands between the scheme and the path. -/
inductive Authority where
  | absent
  /-- Two slashes with nothing after them. -/
  | empty
  | named (endpoint : Endpoint)
  deriving DecidableEq, Repr

/-- An address in normal form. -/
structure Url where
  scheme : List Char
  authority : Authority
  path : List Char
  query : Option (List Char)
  fragment : Option (List Char)
  deriving DecidableEq, Repr

namespace Endpoint

/-- The name and password of the user with an at sign after them, if there are any. -/
def loginText (endpoint : Endpoint) : List Char :=
  match endpoint.user, endpoint.password with
  | [], none => []
  | user, none => user ++ ['@']
  | user, some password => user ++ ':' :: password ++ ['@']

/-- The host and the number of the service. -/
def place (endpoint : Endpoint) : List Char :=
  endpoint.host.text ++ (endpoint.service.map fun number => ':' :: decimal number).getD []

/-- A user is named whose name can be read, or a password is given that can be read. -/
def hasReadableLogin (endpoint : Endpoint) : Bool :=
  match ofUtf8? (percentDecode endpoint.user) with
  | some user =>
    !user.isEmpty || (endpoint.password.bind fun text => ofUtf8? (percentDecode text)).isSome
  | none => false

/-- The endpoint without the name and password of a user, if they can be read. -/
def withoutLogin (endpoint : Endpoint) : Endpoint :=
  if endpoint.hasReadableLogin then { endpoint with user := [], password := none } else endpoint

def lastService : Nat := 65535

/-- The number of the service after its colon, as it is shown, and what follows it. An
empty number and the scheme's own number are not shown. -/
def readService? (kind : SchemeKind) (text : List Char) : Option (Option Nat × List Char) :=
  match text with
  | ':' :: text =>
    let digits := text.takeWhile Char.isDigit
    let rest := text.drop digits.length
    let number := number? 10 digits
    if number.any (lastService < ·) || (rest.head?).any (fun c => !"/\\?#".toList.contains c) then
      none
    else some (if number = kind.service? then none else number, rest)
  | _ => some (none, text)

/-- How many characters the host has: it ends at a colon outside brackets. -/
def hostLength (inBrackets : Bool) : List Char → Nat
  | [] => 0
  | c :: rest =>
    if c = ':' && !inBrackets then 0
    else hostLength (c == '[' || (inBrackets && c != ']')) rest + 1

/-- The name and the password before and after the first colon. An empty password is none. -/
def readLogin (text : List Char) : List Char × Option (List Char) :=
  let user := text.takeWhile (· ≠ ':')
  let password := (text.drop user.length).drop 1
  (percentEncode refusedInLogin user,
    if password.isEmpty then none else some (percentEncode refusedInLogin password))

end Endpoint

namespace Authority

/-- The text between the scheme and the path. -/
def text : Authority → List Char
  | .absent => []
  | .empty => ['/', '/']
  | .named endpoint => '/' :: '/' :: endpoint.loginText ++ endpoint.place

/-- The character ends the text between the scheme and the path. -/
def isEnd (kind : SchemeKind) (c : Char) : Bool := kind.isSlash c || c == '?' || c == '#'

/-- Host and service after the user, and what follows them. -/
def readEndpoint? (kind : SchemeKind) (login : List Char × Option (List Char))
    (text : List Char) : Option (Authority × List Char) := do
  let hostText := text.takeWhile fun c => !isEnd kind c
  let hostText := hostText.take (Endpoint.hostLength false hostText)
  let after := text.drop hostText.length
  if hostText.isEmpty then
    if kind.isSpecial || after.head? = some ':' || login != ([], none) then none
    else some (.empty, after)
  else
    let host ← if kind.isSpecial then Host.read? hostText else Host.readVerbatim? hostText
    let (service, rest) ← Endpoint.readService? kind after
    return (.named { user := login.1, password := login.2, host, service }, rest)

/-- The text after two slashes as far as the path, and what follows it. A user stands
before the last at sign. -/
def read? (kind : SchemeKind) (text : List Char) : Option (Authority × List Char) :=
  let whole := text.takeWhile fun c => !isEnd kind c
  if whole.contains '@' then
    let place := (whole.reverse.takeWhile (· ≠ '@')).reverse
    let login := whole.take (whole.length - place.length - 1)
    let rest := text.drop (login.length + 1)
    if login.isEmpty && (rest.head?).any (isEnd kind) then none
    else readEndpoint? kind (Endpoint.readLogin login) rest
  else readEndpoint? kind ([], none) text

end Authority

namespace Url

/-- The character begins the query or the fragment. -/
def endsPath (c : Char) : Bool := c == '?' || c == '#'

/-- The query in normal form and the fragment, from what follows the path. -/
def queryAndFragment (special : Bool) (text : List Char) :
    Option (List Char) × Option (List Char) :=
  let before := text.takeWhile (· ≠ '#')
  let fragment := match text.drop before.length with
    | _ :: rest => some (percentEncode refusedInFragment rest)
    | [] => none
  match before with
  | _ :: query => (some (percentEncode (refusedInQuery special) query), fragment)
  | [] => (none, fragment)

/-- The address with what follows the path. -/
def build (scheme : List Char) (authority : Authority) (path after : List Char) : Url :=
  let (query, fragment) := queryAndFragment (SchemeKind.of scheme).isSpecial after
  { scheme, authority, path, query, fragment }

/-- The text as far as the query or fragment, and the rest. -/
def splitPath (text : List Char) : List Char × List Char :=
  (text.takeWhile fun c => !endsPath c, text.dropWhile fun c => !endsPath c)

/-- An address with a server, from what follows the slashes. -/
def readWithEndpoint? (scheme : List Char) (text : List Char) : Option Url := do
  let kind := SchemeKind.of scheme
  let (authority, rest) ← Authority.read? kind text
  let (path, after) := splitPath rest
  return build scheme authority (normalPath kind path) after

/-- An address without a server. A path that does not begin with a slash has no parts. -/
def readFree (scheme : List Char) (text : List Char) : Url :=
  let (path, after) := splitPath text
  build scheme .absent
    (if path.head? = some '/' then normalPath .free path else percentEncode refusedAnywhere path)
    after

/-- The server of a file; none is named by no name and by that of this computer. -/
def fileAuthority? (host : List Char) : Option Authority :=
  if host.isEmpty then some .empty
  else
    (Host.read? host).map fun host =>
      if host = .name "localhost".toList then .empty else .named { host }

/-- The address of a file, from what follows the colon. Where two slashes name no server,
the slash of the path is a third one, which the text need not have. -/
def readFile? (scheme : List Char) (text : List Char) : Option Url := do
  let kind := SchemeKind.files
  let hasServer := (text.take 2).length = 2 && (text.take 2).all kind.isSlash
  let after := if hasServer then text.drop 2 else text
  let host := if hasServer then after.takeWhile fun c => !Authority.isEnd kind c else []
  let host := if isDrive host then [] else host
  let authority ← fileAuthority? host
  let (path, rest) := splitPath (after.drop host.length)
  let (path, hasDrive) := filePath (if hasServer && authority = .empty then '/' :: path else path)
  return build scheme (if hasDrive then .empty else authority) path rest

/-- The address that a text spells; none when it is not a whole address. -/
def read? (text : String) : Option Url := do
  let text := (trimWhile (fun c => c.toNat ≤ 0x20) text.toList).filter fun c =>
    c != '\t' && c != '\n' && c != '\r'
  let (scheme, rest) ← splitScheme? text
  match SchemeKind.of scheme with
  | .files => readFile? scheme rest
  | .servers _ => readWithEndpoint? scheme (rest.dropWhile fun c => c == '/' || c == '\\')
  | .free =>
    if rest.take 2 = ['/', '/'] then readWithEndpoint? scheme (rest.drop 2)
    else some (readFree scheme rest)

def endpoint? (url : Url) : Option Endpoint :=
  match url.authority with
  | .named endpoint => some endpoint
  | _ => none

def isWeb (url : Url) : Bool := url.scheme == "http".toList || url.scheme == "https".toList

/-- What the server is asked for: the path and the query. -/
def target (url : Url) : String :=
  String.ofList (url.path ++ (url.query.map ('?' :: ·)).getD [])

/-- The path as it is written. After no server, a path of two slashes gets a dot before it. -/
def pathText (url : Url) : List Char :=
  if url.authority = .absent ∧ url.path.take 2 = ['/', '/'] then '/' :: '.' :: url.path
  else url.path

def text (url : Url) : String :=
  String.ofList
    (url.scheme ++ ':' :: url.authority.text ++ url.pathText ++
      (url.query.map ('?' :: ·)).getD [] ++ (url.fragment.map ('#' :: ·)).getD [])

/-- The address with one more name and value in its query. -/
def addField (url : Url) (name value : String) : Url :=
  let field := formEncode name.toList ++ '=' :: formEncode value.toList
  { url with query := some <| match url.query with
      | some (c :: rest) => c :: rest ++ '&' :: field
      | _ => field }

/-- The address without the name and password of a user, if they can be read. -/
def withoutLogin (url : Url) : Url :=
  match url.authority with
  | .named endpoint => { url with authority := .named endpoint.withoutLogin }
  | _ => url

/-- The longest address that can be asked, in bytes. -/
def longestAsked : Nat := 65534

/-- The address can be asked: it is of the web, its host holds none of the characters
that a request may not show, and it is not too long. -/
def canBeAsked (url : Url) : Bool :=
  url.isWeb &&
    url.endpoint?.any (fun endpoint => !endpoint.place.any fun c =>
      c == '"' || c == '\x60' || c == '\x7b' || c == '\x7d') &&
    url.text.utf8ByteSize ≤ longestAsked

end Url

end DesignGraph.Address
