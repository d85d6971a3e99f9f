import DesignGraph.Attachment.Client
import DesignGraph.Proofs.Attachment.Upload
import DesignGraph.Proofs.Json.Members

/-!
# What the client asks the server of the wiki

The server is recorded: each request is noted with its reply, and nothing else about the run
changes. Attaching a file then takes one of a few courses, and each of them tells what the
client had come to: nothing is sent before the file is read, the page is asked first, and
the file is sent once if the reply says where to.
-/
namespace DesignGraph.Attachment

open Address Files

/-- A request, and what came back. -/
structure Exchanged where
  request : Request
  reply : Reply
  deriving DecidableEq, Repr

/-- The server with a record of what it was asked beside what it remembers itself. -/
def Server.recorded {σ : Type} (server : Server σ) : Server (σ × List Exchanged) :=
  fun request (state, before) =>
    let (reply, state) := server request state
    (reply, state, before ++ [⟨request, reply⟩])

/-- A server that replies what it is told to, in order. -/
def scripted : Server (List Reply)
  | _, [] => (.noAnswer, [])
  | _, reply :: rest => (reply, rest)

/-! ## What a reply says -/

/-- The first of the results that the answer lists has this identifier: a text, or a number as
it is written. -/
def IsFirstId (answer : Json.Value) (id : String) : Prop :=
  ∃ members first rest, answer = .object members ∧
    members.lookup "results" = some (.array (.object first :: rest)) ∧
    (first.lookup "id" = some (.string id) ∨
      (∃ n, first.lookup "id" = some (.number (.integer n)) ∧ id = toString n) ∨
      ∃ x, first.lookup "id" = some (.number (.binary x)) ∧
        id = String.ofList (Json.Number.binaryText x))

/-- The identifier that the client finds. -/
theorem foundId?_eq_some_iff {answer : Json.Value} {id : String} :
    foundId? answer = some id ↔ IsFirstId answer id := by
  constructor
  · intro h
    rw [foundId?] at h
    split at h
    · rename_i first rest hresults
      obtain ⟨members, rfl, hlookup⟩ := Json.Value.get?_eq_some_iff.mp hresults
      split at h
      · rename_i text htext
        obtain ⟨fields, rfl, hid⟩ := Json.Value.get?_eq_some_iff.mp htext
        obtain rfl := Option.some.inj h
        exact ⟨members, fields, rest, rfl, hlookup, .inl hid⟩
      · rename_i number hnumber
        obtain ⟨fields, rfl, hid⟩ := Json.Value.get?_eq_some_iff.mp hnumber
        obtain rfl := Option.some.inj h
        cases number with
        | integer n =>
          exact ⟨members, fields, rest, rfl, hlookup,
            .inr (.inl ⟨n, hid, Json.Number.ofList_text_integer n⟩)⟩
        | binary x => exact ⟨members, fields, rest, rfl, hlookup, .inr (.inr ⟨x, hid, rfl⟩)⟩
      · cases h
    · cases h
  · rintro ⟨members, first, rest, rfl, hlookup, hid⟩
    have hresults := Json.Value.get?_eq_some_iff.mpr ⟨members, rfl, hlookup⟩
    rcases hid with hid | ⟨n, hid, rfl⟩ | ⟨x, hid, rfl⟩
    · simp only [foundId?, hresults, Json.Value.get?_eq_some_iff.mpr ⟨first, rfl, hid⟩]
    · simp only [foundId?, hresults, Json.Value.get?_eq_some_iff.mpr ⟨first, rfl, hid⟩,
        Json.Number.ofList_text_integer]
    · simp only [foundId?, hresults, Json.Value.get?_eq_some_iff.mpr ⟨first, rfl, hid⟩]
      rfl

namespace Reply

/-- The body of a success, if it can be read to its end. A reply of status 204 has no body, so
it is read as one with an empty body even if the connection ends early. -/
def success? : Reply → Option String
  | .noAnswer => none
  | .cutShort status => if status = 204 then some "" else none
  | .answer status body =>
    if 200 ≤ status ∧ status ≤ 299 then some (if status = 204 then "" else body) else none

/-- The reply is the answer to a look-up, and this is what it says was found: the identifier of
its first result, if there is one. -/
def Tells (reply : Reply) (found : Option String) : Prop :=
  ∃ body answer, reply.success? = some body ∧ Json.Value.read body = .ok answer ∧
    ∀ id, found = some id ↔ IsFirstId answer id

theorem judgeAnswer_eq_ok_iff {status : Nat} {text body : String} :
    judgeAnswer status text = .ok body ↔ (200 ≤ status ∧ status ≤ 299) ∧ text = body := by
  rw [judgeAnswer, isSuccessStatus]
  by_cases h : 200 ≤ status ∧ status ≤ 299
  · simp [h]
  · rw [if_neg (by simpa using h)]
    exact iff_of_false (by simp) fun hok => h hok.1

/-- Of the statuses without a body, one is a success. -/
theorem isBodiless_of_success {status : Nat} (h : 200 ≤ status ∧ status ≤ 299) :
    isBodiless status = decide (status = 204) := by
  have hne : status ≠ 304 := by omega
  rw [isBodiless, beq_eq_false_iff_ne.mpr hne, Bool.or_false]
  rfl

/-- A reply has a body for the client if it is a success that can be read. -/
theorem body_eq_ok_iff {reply : Reply} (url : Url) {body : String} :
    reply.body url = .ok body ↔ reply.success? = some body := by
  cases reply with
  | noAnswer => simp [Reply.body, success?]
  | cutShort status =>
    rw [Reply.body, success?]
    cases hbodiless : isBodiless status with
    | false =>
      have hne : status ≠ 204 := by
        rintro rfl
        cases hbodiless
      simp [hne]
    | true =>
      rw [if_pos rfl, judgeAnswer_eq_ok_iff]
      simp only [isBodiless, Bool.or_eq_true, beq_iff_eq] at hbodiless
      rcases hbodiless with rfl | rfl <;> simp
  | answer status text =>
    rw [Reply.body, success?, judgeAnswer_eq_ok_iff]
    by_cases h : 200 ≤ status ∧ status ≤ 299
    · rw [isBodiless_of_success h, if_pos h]
      simp [h]
    · simp [h]

theorem readLookup_eq_ok_iff {body : String} {found : Option String} :
    readLookup body = .ok found ↔ ∃ answer, Json.Value.read body = .ok answer ∧
      ∀ id, found = some id ↔ IsFirstId answer id := by
  simp only [← foundId?_eq_some_iff]
  rw [readLookup]
  cases hread : Json.Value.read body with
  | error fault => simp
  | ok answer =>
    simp only [Except.ok.injEq, exists_eq_left']
    constructor
    · rintro rfl id
      rfl
    · exact fun h => (Option.ext h).symm

theorem tells_iff {reply : Reply} {found : Option String} :
    reply.Tells found ↔ ∃ body, reply.success? = some body ∧ readLookup body = .ok found := by
  simp only [Tells, readLookup_eq_ok_iff]
  constructor
  · rintro ⟨body, answer, hbody, hread⟩
    exact ⟨body, hbody, answer, hread⟩
  · rintro ⟨body, hbody, answer, hread⟩
    exact ⟨body, answer, hbody, hread⟩

/-- What the client takes from the answer to a look-up. -/
def found (url : Url) (reply : Reply) : Except Failure (Option String) :=
  (reply.body url).mapError .remoteCallFailed >>= readLookup

/-- What the client takes from the answer to a file of this name that it sent. -/
def taken (url : Url) (name : String) (reply : Reply) : Except Failure String :=
  ((reply.body url).mapError .remoteCallFailed).map fun _ => name

theorem found_eq_ok_iff {reply : Reply} {url : Url} {found : Option String} :
    reply.found url = .ok found ↔ reply.Tells found := by
  rw [Reply.found, tells_iff]
  simp only [← body_eq_ok_iff url]
  cases reply.body url with
  | error fault => simp [Except.mapError, bind, Except.bind]
  | ok body => simp [Except.mapError, bind, Except.bind]

theorem taken_eq_ok_iff {reply : Reply} {url : Url} {name other : String} :
    reply.taken url name = .ok other ↔ name = other ∧ reply.success?.isSome = true := by
  rw [taken, Option.isSome_iff_exists]
  simp only [← body_eq_ok_iff url]
  cases reply.body url with
  | error fault => simp [Except.mapError, Except.map]
  | ok body => simp [Except.mapError, Except.map]

theorem Tells.unique {reply : Reply} {found other : Option String} (h : reply.Tells found)
    (hother : reply.Tells other) : found = other := by
  obtain ⟨body, hbody, hread⟩ := tells_iff.mp h
  obtain ⟨text, htext, hreadText⟩ := tells_iff.mp hother
  rw [hbody] at htext
  obtain rfl := Option.some.inj htext
  rw [hread] at hreadText
  exact Except.ok.inj hreadText

end Reply

/-! ## One step of the client -/

section Steps

variable {σ α β : Type}

theorem bind_apply (x : Exchange σ α) (f : α → Exchange σ β) (state : σ) :
    (x >>= f) state = match x state with
      | (.ok a, state) => f a state
      | (.error failure, state) => (.error failure, state) := by
  change (match x state with | (a, s) => (ExceptT.bindCont f a) s) = _
  rcases x state with ⟨a | a, s⟩ <;> rfl

theorem given_apply (result : Except Failure α) (state : σ) :
    (given result : Exchange σ α) state = (result, state) := rfl

/-- A request changes what the server remembers, and its reply is judged. -/
theorem send_apply (server : Server σ) (request : Request) (state : σ) :
    send server request state =
      (((server request state).1.body request.url).mapError .remoteCallFailed,
        (server request state).2) := by
  have hlift : (liftM (server request) : Exchange σ Reply) state =
      (.ok (server request state).1, (server request state).2) := rfl
  rw [send, bind_apply, hlift]
  dsimp only
  cases (server request state).1.body request.url <;> rfl

theorem recorded_request (server : Server σ) (request : Request) (state : σ)
    (before : List Exchanged) :
    server.recorded request (state, before) =
      ((server request state).1, (server request state).2,
        before ++ [⟨request, (server request state).1⟩]) := rfl

end Steps

/-! ## The client, step by step -/

section Client

variable {σ : Type} {server : Server σ} {credentials : Credentials} {files : FileTree}
  {pageId path name : String} {content : Text.Bytes} {state left : σ} {found : Option String}
  {failure : Failure}

theorem attachFile_of_nameless (hname : fileNameOf path = .error failure) :
    attachFile server credentials files pageId path state = (.error failure, state) := by
  rw [attachFile, bind_apply, given_apply, hname]

theorem attachFile_of_unread (hname : fileNameOf path = .ok name)
    (hcontent : readAttachment files path = .error failure) :
    attachFile server credentials files pageId path state = (.error failure, state) := by
  rw [attachFile, bind_apply, given_apply, hname]
  simp only [bind_apply, given_apply, hcontent]

theorem attachFile_of_lost (hname : fileNameOf path = .ok name)
    (hcontent : readAttachment files path = .ok content)
    (hfind : findAttachment server credentials pageId name state = (.error failure, left)) :
    attachFile server credentials files pageId path state = (.error failure, left) := by
  rw [attachFile, bind_apply, given_apply, hname]
  simp only [bind_apply, given_apply, hcontent, hfind]

theorem attachFile_of_unsent (hname : fileNameOf path = .ok name)
    (hcontent : readAttachment files path = .ok content)
    (hfind : findAttachment server credentials pageId name state = (.ok found, left))
    (hpost : uploadRequest credentials (uploadAddress credentials.baseUrl pageId found) name
      content = .error failure) :
    attachFile server credentials files pageId path state = (.error failure, left) := by
  rw [attachFile, bind_apply, given_apply, hname]
  simp only [bind_apply, given_apply, hcontent, hfind, hpost]

/-- The file is sent, and its name is the result if the reply is a success. -/
theorem attachFile_of_sent {post : Request} (hname : fileNameOf path = .ok name)
    (hcontent : readAttachment files path = .ok content)
    (hfind : findAttachment server credentials pageId name state = (.ok found, left))
    (hpost : uploadRequest credentials (uploadAddress credentials.baseUrl pageId found) name
      content = .ok post) :
    attachFile server credentials files pageId path state =
      ((server post left).1.taken post.url name, (server post left).2) := by
  rw [attachFile, bind_apply, given_apply, hname]
  simp only [bind_apply, given_apply, hcontent, hfind, hpost, send_apply, Reply.taken]
  cases (server post left).1.body post.url <;> rfl

theorem findAttachment_of_unasked
    (hask : lookupRequest credentials pageId name = .error failure) :
    findAttachment server credentials pageId name state = (.error failure, state) := by
  rw [findAttachment, bind_apply, given_apply, hask]

/-- The page is asked, and what the reply says was found is the result. -/
theorem findAttachment_of_asked (server : Server σ) (state : σ) {ask : Request}
    (hask : lookupRequest credentials pageId name = .ok ask) :
    findAttachment server credentials pageId name state =
      ((server ask state).1.found ask.url, (server ask state).2) := by
  rw [findAttachment, bind_apply, given_apply, hask]
  simp only [bind_apply, send_apply, Reply.found]
  cases (server ask state).1.body ask.url <;> rfl

end Client

/-! ## The courses -/

/-- The file is read, and there is a question for the page. -/
structure Asks (credentials : Credentials) (files : FileTree) (pageId path name : String)
    (content : Text.Bytes) (ask : Request) : Prop where
  named : fileNameOf path = .ok name
  read : readAttachment files path = .ok content
  asked : lookupRequest credentials pageId name = .ok ask

/-- How attaching a file to a page can go: the exchanges that take place, and what comes
of them. -/
inductive Course (credentials : Credentials) (files : FileTree) (pageId path : String) :
    List Exchanged → Except Failure String → Prop
  /-- The file is not read, or the page has no address that can be asked. -/
  | silent {failure : Failure}
    (h : ∀ name content ask, ¬ Asks credentials files pageId path name content ask) :
    Course credentials files pageId path [] (.error failure)
  /-- The reply does not say whether there is such an attachment. -/
  | untold {name : String} {content : Text.Bytes} {ask : Request} {reply : Reply}
    {failure : Failure} (hasks : Asks credentials files pageId path name content ask)
    (hreply : ∀ found, ¬ reply.Tells found) :
    Course credentials files pageId path [⟨ask, reply⟩] (.error failure)
  /-- There is no address that the file can be sent to. -/
  | unsent {name : String} {content : Text.Bytes} {ask : Request} {reply : Reply}
    {found : Option String} {failure : Failure}
    (hasks : Asks credentials files pageId path name content ask) (hreply : reply.Tells found)
    (hpost : uploadRequest credentials (uploadAddress credentials.baseUrl pageId found) name
      content = .error failure) :
    Course credentials files pageId path [⟨ask, reply⟩] (.error failure)
  /-- The file was sent. -/
  | sent {name : String} {content : Text.Bytes} {ask post : Request} {reply answer : Reply}
    {found : Option String} {result : Except Failure String}
    (hasks : Asks credentials files pageId path name content ask) (hreply : reply.Tells found)
    (hpost : uploadRequest credentials (uploadAddress credentials.baseUrl pageId found) name
      content = .ok post)
    (hanswer : ∀ other, result = .ok other ↔ name = other ∧ answer.success?.isSome = true) :
    Course credentials files pageId path [⟨ask, reply⟩, ⟨post, answer⟩] result

section Course

variable {σ : Type} (server : Server σ) (credentials : Credentials) (files : FileTree)
  (pageId path : String) (state : σ) (before : List Exchanged)

/-- Attaching a file takes a course, and the record of the exchanges is all that a recorded
server adds. -/
theorem attachFile_course :
    ∃ exchanges result left, Course credentials files pageId path exchanges result ∧
      attachFile server.recorded credentials files pageId path (state, before) =
        (result, left, before ++ exchanges) ∧
      attachFile server credentials files pageId path state = (result, left) := by
  -- The cases stand in the order in which the client can stop.
  cases hname : fileNameOf path with
  | error failure =>
    refine ⟨[], .error failure, state, .silent ?_, ?_, attachFile_of_nameless hname⟩
    · intro name content ask h
      rw [h.named] at hname
      cases hname
    · rw [attachFile_of_nameless hname, List.append_nil]
  | ok name =>
  cases hcontent : readAttachment files path with
  | error failure =>
    refine ⟨[], .error failure, state, .silent ?_, ?_, attachFile_of_unread hname hcontent⟩
    · intro name content ask h
      rw [h.read] at hcontent
      cases hcontent
    · rw [attachFile_of_unread hname hcontent, List.append_nil]
  | ok content =>
  cases hask : lookupRequest credentials pageId name with
  | error failure =>
    refine ⟨[], .error failure, state, .silent ?_, ?_,
      attachFile_of_lost hname hcontent (findAttachment_of_unasked hask)⟩
    · intro other content ask h
      obtain rfl := Except.ok.inj (hname.symm.trans h.named)
      rw [h.asked] at hask
      cases hask
    · rw [attachFile_of_lost hname hcontent (findAttachment_of_unasked hask), List.append_nil]
  | ok ask =>
  have hasks : Asks credentials files pageId path name content ask := ⟨hname, hcontent, hask⟩
  -- From here on the two servers differ in the record, and in nothing that the client sees.
  obtain ⟨reply, next, hserver⟩ : ∃ reply next, server ask state = (reply, next) := ⟨_, _, rfl⟩
  have hrecorded : server.recorded ask (state, before) =
      (reply, next, before ++ [⟨ask, reply⟩]) := by
    rw [recorded_request, hserver]
  have hplain := findAttachment_of_asked server state hask
  have hnoted := findAttachment_of_asked server.recorded (state, before) hask
  rw [hserver] at hplain
  rw [hrecorded] at hnoted
  cases hfound : reply.found ask.url with
  | error failure =>
    rw [hfound] at hplain hnoted
    refine ⟨[⟨ask, reply⟩], .error failure, next, .untold hasks ?_,
      attachFile_of_lost hname hcontent hnoted, attachFile_of_lost hname hcontent hplain⟩
    intro found hreply
    rw [Reply.found_eq_ok_iff.mpr hreply] at hfound
    cases hfound
  | ok found =>
  have hreply : reply.Tells found := Reply.found_eq_ok_iff.mp hfound
  rw [hfound] at hplain hnoted
  cases hpost : uploadRequest credentials (uploadAddress credentials.baseUrl pageId found) name
      content with
  | error failure =>
    exact ⟨[⟨ask, reply⟩], .error failure, next, .unsent hasks hreply hpost,
      attachFile_of_unsent hname hcontent hnoted hpost,
      attachFile_of_unsent hname hcontent hplain hpost⟩
  | ok post =>
    refine ⟨[⟨ask, reply⟩, ⟨post, (server post next).1⟩],
      (server post next).1.taken post.url name, (server post next).2,
      .sent hasks hreply hpost fun other => Reply.taken_eq_ok_iff, ?_,
      attachFile_of_sent hname hcontent hplain hpost⟩
    rw [attachFile_of_sent hname hcontent hnoted hpost, recorded_request, List.append_assoc]
    rfl

end Course

end DesignGraph.Attachment
