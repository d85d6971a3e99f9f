import DesignGraph.Address.Url
import DesignGraph.Text.Utf8

/-!
# Requests and replies

What is sent to the server of the wiki and what comes back. A form is sent in parts; a
part names its field and, for a file, the file.
-/

namespace DesignGraph.Attachment

/-- How a server is asked. -/
inductive Method where
  | get
  | post
  deriving DecidableEq, Repr

def Method.name : Method → String
  | .get => "GET"
  | .post => "POST"

/-- One part of a form. -/
structure Part where
  field : String
  fileName : Option String
  content : Text.Bytes
  deriving DecidableEq, Repr

/-- A file name between quotes: quotes, backslashes and line breaks get a backslash. -/
def escapeFileName (name : String) : List Char :=
  name.toList.flatMap fun c =>
    if c = '\\' ∨ c = '"' ∨ c = '\r' ∨ c = '\n' then ['\\', c] else [c]

def Part.disposition (part : Part) : String :=
  "Content-Disposition: form-data; name=\"" ++ part.field ++ "\"" ++
    match part.fileName with
    | some name => "; filename=\"" ++ String.ofList (escapeFileName name) ++ "\""
    | none => ""

/-- What is sent to the server. -/
structure Request where
  method : Method
  url : Address.Url
  authorization : String
  /-- The header that tells the wiki not to check where a form comes from. -/
  atlassianToken : Option String
  parts : Option (List Part)
  /-- The server has to prove who it is. -/
  verifyTls : Bool
  deriving DecidableEq, Repr

/-- What comes back. -/
inductive Reply where
  /-- The server cannot be reached, or closes the connection without an answer. -/
  | noAnswer
  /-- The connection ends before the body does. -/
  | cutShort (status : Nat)
  | answer (status : Nat) (body : String)
  deriving DecidableEq, Repr

def isSuccessStatus (status : Nat) : Bool := 200 ≤ status && status ≤ 299

/-- The statuses of replies that have no body. -/
def isBodiless (status : Nat) : Bool := status == 204 || status == 304

/-- A server replies to a request and remembers what it wants to. -/
abbrev Server (σ : Type) := Request → StateM σ Reply

def base64Digit (n : Nat) : Char :=
  ("ABCDEFGHIJKLMNOPQRSTUVWXYZabcdefghijklmnopqrstuvwxyz0123456789+/".toList[n % 64]?).getD '='

/-- Bytes in base sixty-four, three of them in four digits. -/
def base64 : Text.Bytes → List Char
  | a :: b :: c :: rest =>
    let n := a.toNat * 0x10000 + b.toNat * 0x100 + c.toNat
    base64Digit (n / 0x40000) :: base64Digit (n / 0x1000) :: base64Digit (n / 0x40) ::
      base64Digit n :: base64 rest
  | [a, b] =>
    let n := a.toNat * 0x10000 + b.toNat * 0x100
    [base64Digit (n / 0x40000), base64Digit (n / 0x1000), base64Digit (n / 0x40), '=']
  | [a] =>
    let n := a.toNat * 0x10000
    [base64Digit (n / 0x40000), base64Digit (n / 0x1000), '=', '=']
  | [] => []

/-- The authorization of a user by name and password. -/
def basicAuthorization (username password : String) : String :=
  "Basic " ++ String.ofList (base64 (Text.utf8 (username ++ ":" ++ password)))

end DesignGraph.Attachment
