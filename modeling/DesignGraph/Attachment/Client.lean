import DesignGraph.Attachment.Credentials
import DesignGraph.Attachment.Request
import DesignGraph.Files.FileTree
import DesignGraph.Files.PathText
import DesignGraph.Json.Reader

/-!
# The client of the wiki

A file is attached in two requests: the first asks whether the page has an attachment of
that name, the second makes a new version of it or a new attachment. Nothing is sent
before the file has been read, and the second request is not sent when the first has not
been answered well.
-/

namespace DesignGraph.Attachment

open Address Files

/-- The client's work: requests that change what the server remembers, or a failure. -/
abbrev Exchange (σ : Type) := ExceptT Failure (StateM σ)

def attachmentsUrl (baseUrl pageId : String) : String :=
  dropSlashes baseUrl ++ "/rest/api/content/" ++ pageId ++ "/child/attachment"

/-- The address of the content of an attachment. -/
def attachmentDataUrl (baseUrl pageId attachmentId : String) : String :=
  attachmentsUrl baseUrl pageId ++ "/" ++ attachmentId ++ "/data"

def attachmentComment (name : String) : String := "SDD diagram: " ++ name

/-- At most this many characters of a body are reported. -/
def shownBodyLength : Nat := 300

/-- The beginning of a body, without blanks around it. -/
def clipBody (body : String) : String :=
  let text := Text.trim body.toList
  String.ofList
    (if text.length ≤ shownBodyLength then text
      else text.take shownBodyLength ++ ['.', '.', '.'])

/-- The file name of a path; a path without one names no file. Paths are texts here, so each
name can be read as text. -/
def fileNameOf (path : String) : Except Failure String :=
  match fileName? path with
  | some name => .ok name
  | none => .error (.inputNotFound path)

/-- The identifier of the first result of a look-up. -/
def foundId? (answer : Json.Value) : Option String :=
  match answer.get? "results" with
  | some (.array (first :: _)) =>
    match first.get? "id" with
    | some (.string id) => some id
    | some (.number id) => some (String.ofList id.text)
    | _ => none
  | _ => none

/-- The identifier in the body of a look-up. -/
def readLookup (body : String) : Except Failure (Option String) :=
  match Json.Value.read body with
  | .ok answer => .ok (foundId? answer)
  | .error fault => .error (.remoteCallFailed (.unreadableLookup fault))

/-- The address that can be asked, with the fields of a query. The user of a request is
the client's own. -/
def webUrl (address : String) (fields : List (String × String)) : Except RemoteFault Url :=
  match Url.read? address with
  | none => .error .notAnAddress
  | some url =>
    if url.endpoint?.isNone then .error (.unsupportedAddress url.text)
    else
      let full := fields.foldl (fun url (name, value) => url.addField name value) url.withoutLogin
      if full.canBeAsked then .ok full else .error (.unsupportedAddress full.text)

/-- The body of a success, or the refusal with the beginning of its body. -/
def judgeAnswer (status : Nat) (body : String) : Except RemoteFault String :=
  if isSuccessStatus status then .ok body else .error (.refused status (clipBody body))

/-- What a reply gives: the body of a success, or the reason why there is none. Where the
status says that there is no body, none is waited for. -/
def Reply.body (url : Url) : Reply → Except RemoteFault String
  | .noAnswer => .error (.noAnswer url.text)
  | .cutShort status =>
    if isBodiless status then judgeAnswer status "" else .error .answerCutShort
  | .answer status body => judgeAnswer status (if isBodiless status then "" else body)

/-- A request is sent; the body of its success. -/
def send {σ : Type} (server : Server σ) (request : Request) : Exchange σ String := do
  let reply ← liftM (n := Exchange σ) (server request)
  match reply.body request.url with
  | .ok body => return body
  | .error fault => throw (.remoteCallFailed fault)

def given {σ α : Type} (result : Except Failure α) : Exchange σ α := ExceptT.mk (pure result)

/-- The question whether a page has an attachment of a name. -/
def lookupRequest (credentials : Credentials) (pageId name : String) :
    Except Failure Request := do
  let url ← (webUrl (attachmentsUrl credentials.baseUrl pageId) [("filename", name)]).mapError
    .remoteCallFailed
  return {
    method := .get
    url
    authorization := basicAuthorization credentials.username credentials.token
    atlassianToken := none
    parts := none
    verifyTls := credentials.verifyTls }

def uploadRequest (credentials : Credentials) (address name : String) (content : Text.Bytes) :
    Except Failure Request := do
  let url ← (webUrl address []).mapError .remoteCallFailed
  return {
    method := .post
    url
    authorization := basicAuthorization credentials.username credentials.token
    atlassianToken := some "no-check"
    parts := some [⟨"file", some name, content⟩,
      ⟨"comment", none, Text.utf8 (attachmentComment name)⟩]
    verifyTls := credentials.verifyTls }

/-- The identifier of the attachment of a name, if the page has one. -/
def findAttachment {σ : Type} (server : Server σ) (credentials : Credentials)
    (pageId name : String) : Exchange σ (Option String) := do
  let body ← send server (← given (lookupRequest credentials pageId name))
  given (readLookup body)

/-- The bytes of a file that is to be attached. -/
def readAttachment (files : FileTree) (path : String) : Except Failure Text.Bytes :=
  match files.readBytes path with
  | .ok content => .ok content
  | .error .notFound => .error (.inputNotFound path)
  | .error fault => .error (.io fault)

/-- Where a file is sent: to the attachment that was found, or to all of the page's. -/
def uploadAddress (baseUrl pageId : String) (found : Option String) : String :=
  match found with
  | some id => attachmentDataUrl baseUrl pageId id
  | none => attachmentsUrl baseUrl pageId

/-- A file is attached to a page; its name. -/
def attachFile {σ : Type} (server : Server σ) (credentials : Credentials) (files : FileTree)
    (pageId path : String) : Exchange σ String := do
  let name ← given (fileNameOf path)
  let content ← given (readAttachment files path)
  let found ← findAttachment server credentials pageId name
  let address := uploadAddress credentials.baseUrl pageId found
  let _ ← send server (← given (uploadRequest credentials address name content))
  return name

end DesignGraph.Attachment
