import DesignGraph.Proofs.Attachment.Addresses
import DesignGraph.Proofs.Attachment.Exchanges
import DesignGraph.Proofs.Files.Extension

/-!
# What the report says and what the server took

An attempt to attach a file agrees with what the server was asked and replied: the page is
asked once, the file is sent once where the reply tells where to, and its name is the result
if the server took it. So the files that a report counts as attached are as many as those
that the server took.
-/
namespace DesignGraph.Attachment

open Address Files

/-! ## Files -/

/-- The path has a last part that is no two dots, and this is its text. -/
def NamesFile (path name : String) : Prop := EndsIn path.toList name.toList ∧ name ≠ ".."

theorem fileNameOf_eq_ok_iff {path name : String} :
    fileNameOf path = .ok name ↔ NamesFile path name := by
  have hdots : name.toList ≠ "..".toList ↔ name ≠ ".." := not_congr String.toList_inj
  change name.toList ≠ ['.', '.'] ↔ name ≠ ".." at hdots
  rw [NamesFile, ← hdots, ← fileName?_eq_some_iff, fileNameOf]
  cases fileName? path <;> simp

theorem readAttachment_eq_ok_iff {files : FileTree} {path : String} {content : Text.Bytes} :
    readAttachment files path = .ok content ↔ files.readBytes path = .ok content := by
  rw [readAttachment]
  cases files.readBytes path with
  | ok found => simp
  | error fault => cases fault <;> simp

/-! ## Attempts -/

/-- The request asks the page for its attachment of this name. -/
structure IsLookup (credentials : Credentials) (pageId name : String) (request : Request) :
    Prop where
  method : request.method = .get
  url : GoesBelow credentials.baseUrl (attachmentPath pageId none) [("filename", name)] request.url
  parts : request.parts = none

/-- The request sends a file of this name: to the attachment that was found, or to all of the
page's. -/
structure IsUpload (credentials : Credentials) (pageId : String) (found : Option String)
    (name : String) (content : Text.Bytes) (request : Request) : Prop where
  method : request.method = .post
  url : GoesBelow credentials.baseUrl (attachmentPath pageId found) [] request.url
  parts : request.parts = some [⟨"file", some name, content⟩,
    ⟨"comment", none, Text.utf8 ("SDD diagram: " ++ name)⟩]

namespace Exchanged

def isPost (exchanged : Exchanged) : Bool := exchanged.request.method == .post

/-- The server took the file that was sent. -/
def isTaken (exchanged : Exchanged) : Bool :=
  exchanged.isPost && exchanged.reply.success?.isSome

end Exchanged

theorem IsLookup.isPost_eq_false {credentials : Credentials} {pageId name : String}
    {exchanged : Exchanged} (h : IsLookup credentials pageId name exchanged.request) :
    exchanged.isPost = false := by
  rw [Exchanged.isPost, h.method]
  rfl

theorem IsUpload.isPost {credentials : Credentials} {pageId name : String}
    {found : Option String} {content : Text.Bytes} {exchanged : Exchanged}
    (h : IsUpload credentials pageId found name content exchanged.request) :
    exchanged.isPost = true := by
  rw [Exchanged.isPost, h.method]
  rfl

/-- A call of the client, and the exchanges that took place in it. -/
structure Attempt extends Call where
  exchanges : List Exchanged

namespace Attempt

/-- The first reply says what was found. -/
def IsTold (attempt : Attempt) (found : Option String) : Prop :=
  ∃ first, attempt.exchanges.head? = some first ∧ first.reply.Tells found

/-- What came of an attempt agrees with what the server was asked and replied. -/
structure Agrees (credentials : Credentials) (files : FileTree) (attempt : Attempt) : Prop where
  /-- Nothing is sent before the file is read. -/
  readFirst : attempt.exchanges ≠ [] → ∃ name content,
    NamesFile attempt.path name ∧ files.readBytes attempt.path = .ok content
  /-- A file that is read is asked for, if there is a request for that. -/
  asked : ∀ name content address, NamesFile attempt.path name →
    files.readBytes attempt.path = .ok content →
    IsBelow credentials.baseUrl (attachmentPath attempt.pageId none) address →
    CanAsk address [("filename", name)] → attempt.exchanges ≠ []
  /-- The page is asked first, and once. -/
  askedOnce : ∀ first rest, attempt.exchanges = first :: rest →
    (∃ name, NamesFile attempt.path name ∧
      IsLookup credentials attempt.pageId name first.request) ∧
    ∀ exchanged ∈ rest, exchanged.isPost = true
  /-- The file is sent if and only if the reply tells where to, and there is a request for
  that. -/
  sent_iff : (∃ exchanged ∈ attempt.exchanges, exchanged.isPost = true) ↔
    ∃ found address, attempt.IsTold found ∧
      IsBelow credentials.baseUrl (attachmentPath attempt.pageId found) address ∧
      CanAsk address []
  sentOnce : attempt.exchanges.countP Exchanged.isPost ≤ 1
  /-- What is sent is the file, to the attachment that was found or to all of the page's. -/
  sentFile : ∀ exchanged ∈ attempt.exchanges, exchanged.isPost = true →
    ∃ name content found, NamesFile attempt.path name ∧
      files.readBytes attempt.path = .ok content ∧ attempt.IsTold found ∧
      IsUpload credentials attempt.pageId found name content exchanged.request
  /-- The name of the file is the result if and only if the server took the file. -/
  attached_iff : ∀ name, attempt.result = .ok name ↔
    NamesFile attempt.path name ∧ ∃ exchanged ∈ attempt.exchanges, exchanged.isTaken = true

end Attempt

theorem isLookup_of_lookupRequest {credentials : Credentials} {pageId name : String}
    {request : Request} (h : lookupRequest credentials pageId name = .ok request) :
    IsLookup credentials pageId name request := by
  rw [lookupRequest] at h
  cases hurl : webUrl (attachmentsUrl credentials.baseUrl pageId) [("filename", name)] with
  | error fault =>
    rw [hurl] at h
    cases h
  | ok url =>
    rw [hurl] at h
    cases h
    exact ⟨rfl, @goesBelow_of_webUrl _ _ none _ _ hurl, rfl⟩

theorem exists_lookupRequest {credentials : Credentials} {pageId name : String}
    (h : CanAsk (attachmentsUrl credentials.baseUrl pageId) [("filename", name)]) :
    ∃ request, lookupRequest credentials pageId name = .ok request := by
  obtain ⟨url, hurl⟩ := canAsk_iff_webUrl.mp h
  rw [lookupRequest, hurl]
  exact ⟨_, rfl⟩

theorem uploadRequest_eq_ok {credentials : Credentials} {pageId name : String}
    {found : Option String} {content : Text.Bytes} {request : Request}
    (h : uploadRequest credentials (uploadAddress credentials.baseUrl pageId found) name content =
      .ok request) :
    IsUpload credentials pageId found name content request ∧
      CanAsk (uploadAddress credentials.baseUrl pageId found) [] := by
  rw [uploadRequest] at h
  cases hurl : webUrl (uploadAddress credentials.baseUrl pageId found) [] with
  | error fault =>
    rw [hurl] at h
    cases h
  | ok url =>
    rw [hurl] at h
    cases h
    exact ⟨⟨rfl, goesBelow_of_webUrl hurl, rfl⟩, canAsk_iff_webUrl.mpr ⟨url, hurl⟩⟩

theorem not_canAsk_of_uploadRequest {credentials : Credentials} {address name : String}
    {content : Text.Bytes} {failure : Failure}
    (h : uploadRequest credentials address name content = .error failure) :
    ¬ CanAsk address [] := by
  intro hcan
  obtain ⟨url, hurl⟩ := canAsk_iff_webUrl.mp hcan
  rw [uploadRequest, hurl] at h
  cases h

section Agreement

variable {credentials : Credentials} {files : FileTree} {pageId path name : String}
  {content : Text.Bytes} {ask : Request} {exchanges : List Exchanged}
  {result : Except Failure String}

/-- An attempt agrees that asks the page, sends the file at most once, as the reply tells, and
has its name if that was taken. -/
theorem Asks.agrees (posts : List Exchanged) {reply : Reply}
    (hasks : Asks credentials files pageId path name content ask) (hlength : posts.length ≤ 1)
    (hposts : ∀ exchanged ∈ posts, ∃ found, reply.Tells found ∧
      IsUpload credentials pageId found name content exchanged.request ∧
      CanAsk (uploadAddress credentials.baseUrl pageId found) [])
    (hsent : ∀ found, reply.Tells found →
      CanAsk (uploadAddress credentials.baseUrl pageId found) [] →
      posts ≠ [])
    (hresult : ∀ other, result = .ok other ↔
      name = other ∧ ∃ exchanged ∈ posts, exchanged.isTaken = true) :
    Attempt.Agrees credentials files ⟨⟨pageId, path, result⟩, ⟨ask, reply⟩ :: posts⟩ := by
  have hnamed := fileNameOf_eq_ok_iff.mp hasks.named
  have hread := readAttachment_eq_ok_iff.mp hasks.read
  have hlookup := isLookup_of_lookupRequest hasks.asked
  have hget : (⟨ask, reply⟩ : Exchanged).isPost = false := hlookup.isPost_eq_false
  have hpost : ∀ exchanged ∈ posts, exchanged.isPost = true := by
    intro exchanged hexchanged
    obtain ⟨found, -, hupload, -⟩ := hposts exchanged hexchanged
    exact hupload.isPost
  have hposts_of_mem : ∀ exchanged ∈ (⟨ask, reply⟩ : Exchanged) :: posts,
      exchanged.isPost = true → exchanged ∈ posts := by
    intro exchanged hexchanged hisPost
    rcases List.mem_cons.mp hexchanged with rfl | hmem
    · rw [hget] at hisPost
      cases hisPost
    · exact hmem
  constructor
  case readFirst => exact fun _ => ⟨name, content, hnamed, hread⟩
  case asked => simp
  case askedOnce =>
    rintro first rest heq
    cases heq
    exact ⟨⟨name, hnamed, hlookup⟩, hpost⟩
  case sent_iff =>
    constructor
    · rintro ⟨exchanged, hexchanged, hisPost⟩
      obtain ⟨found, htells, -, hcan⟩ :=
        hposts exchanged (hposts_of_mem exchanged hexchanged hisPost)
      exact ⟨found, _, ⟨_, rfl, htells⟩, isBelow_uploadAddress _ pageId found, hcan⟩
    · rintro ⟨found, address, ⟨first, hfirst, htells⟩, hbelow, hcan⟩
      cases hfirst
      rw [hbelow.eq_uploadAddress] at hcan
      obtain ⟨exchanged, hexchanged⟩ := List.exists_mem_of_ne_nil posts (hsent found htells hcan)
      exact ⟨exchanged, List.mem_cons_of_mem _ hexchanged, hpost exchanged hexchanged⟩
  case sentOnce =>
    change (_ :: posts).countP _ ≤ 1
    rw [List.countP_cons_of_neg (by simp [hget])]
    exact Nat.le_trans List.countP_le_length hlength
  case sentFile =>
    intro exchanged hexchanged hisPost
    obtain ⟨found, htells, hupload, -⟩ :=
      hposts exchanged (hposts_of_mem exchanged hexchanged hisPost)
    exact ⟨name, content, found, hnamed, hread, ⟨_, rfl, htells⟩, hupload⟩
  case attached_iff =>
    intro other
    have hask : ¬ (⟨ask, reply⟩ : Exchanged).isTaken = true := by
      rw [Exchanged.isTaken, hget]
      exact Bool.false_ne_true
    change result = .ok other ↔ NamesFile path other ∧ ∃ exchanged ∈ _ :: posts, _
    rw [hresult, ← fileNameOf_eq_ok_iff, hasks.named, Except.ok.injEq, List.exists_mem_cons_iff,
      or_iff_right hask]

/-- Every course agrees. -/
theorem Course.agrees (h : Course credentials files pageId path exchanges result) :
    Attempt.Agrees credentials files ⟨⟨pageId, path, result⟩, exchanges⟩ := by
  cases h with
  | silent hnone =>
    constructor
    case readFirst => simp
    case asked =>
      intro name content address hname hcontent hbelow hask
      rw [hbelow.eq_uploadAddress] at hask
      obtain ⟨ask, hask⟩ := exists_lookupRequest hask
      exact absurd
        ⟨fileNameOf_eq_ok_iff.mpr hname, readAttachment_eq_ok_iff.mpr hcontent, hask⟩
        (hnone name content ask)
    case askedOnce => simp
    case sent_iff => simp [Attempt.IsTold]
    case sentOnce => simp
    case sentFile => simp
    case attached_iff => simp
  | untold hasks hreply =>
    refine hasks.agrees [] (by simp) (by simp) ?_ (by simp)
    exact fun found htells => absurd htells (hreply found)
  | unsent hasks hreply hpost =>
    refine hasks.agrees [] (by simp) (by simp) ?_ (by simp)
    intro found htells hcan
    obtain rfl := hreply.unique htells
    exact absurd hcan (not_canAsk_of_uploadRequest hpost)
  | sent hasks hreply hpost hanswer =>
    have hupload := uploadRequest_eq_ok hpost
    refine hasks.agrees [_] (by simp) ?_ (by simp) ?_
    · intro exchanged hexchanged
      obtain rfl := List.mem_singleton.mp hexchanged
      exact ⟨_, hreply, hupload⟩
    · intro other
      simp [hanswer, Exchanged.isTaken, Exchanged.isPost, hupload.1.method]

/-- The server took the file of an attempt once or never, and a name is the result if it
did. -/
theorem Attempt.Agrees.countP_isTaken {attempt : Attempt} (h : attempt.Agrees credentials files) :
    attempt.exchanges.countP Exchanged.isTaken = if attempt.succeeded then 1 else 0 := by
  have hle : attempt.exchanges.countP Exchanged.isTaken ≤ 1 :=
    Nat.le_trans (List.countP_mono_left fun exchanged _ htaken =>
      ((Bool.and_eq_true _ _).mp htaken).1) h.sentOnce
  have hpos : 0 < attempt.exchanges.countP Exchanged.isTaken ↔ attempt.succeeded = true := by
    rw [List.countP_pos_iff, Call.succeeded]
    cases hresult : attempt.result with
    | ok name => simp [((h.attached_iff name).mp hresult).2]
    | error failure =>
      refine iff_of_false ?_ Bool.false_ne_true
      rintro ⟨exchanged, hexchanged, htaken⟩
      obtain ⟨name, -, hname, -⟩ := h.readFirst (List.ne_nil_of_mem hexchanged)
      have hattached := (h.attached_iff name).mpr ⟨hname, exchanged, hexchanged, htaken⟩
      rw [hresult] at hattached
      cases hattached
  cases hsucceeded : attempt.succeeded with
  | true =>
    have hone := hpos.mpr hsucceeded
    exact Nat.le_antisymm hle hone
  | false =>
    rw [hsucceeded] at hpos
    simpa using hpos

/-- Over all attempts, as many files are attached as the server took. -/
theorem length_uploaded_eq_countP {attempts : List Attempt}
    (h : ∀ attempt ∈ attempts, attempt.Agrees credentials files) :
    ((attempts.map Attempt.toCall).filterMap Call.uploaded?).length =
      (attempts.flatMap Attempt.exchanges).countP Exchanged.isTaken := by
  rw [List.length_filterMap_eq_countP]
  simp only [Call.uploaded?_isSome]
  induction attempts with
  | nil => rfl
  | cons attempt rest ih =>
    rw [List.map_cons, List.countP_cons, List.flatMap_cons, List.countP_append,
      (h attempt (by simp)).countP_isTaken, ih fun other hother => h other (by simp [hother]),
      Nat.add_comm]

end Agreement

/-! ## A whole run -/

section Run

variable {σ : Type} (server : Server σ) (credentials : Credentials) (files : FileTree)

/-- Attaching a file is an attempt that agrees, and its exchanges are all that a recorded
server adds. -/
theorem attachFile_agrees (pageId path : String) (state : σ) (before : List Exchanged) :
    ∃ result exchanges left,
      Attempt.Agrees credentials files ⟨⟨pageId, path, result⟩, exchanges⟩ ∧
      attachFile server.recorded credentials files pageId path (state, before) =
        (result, left, before ++ exchanges) ∧
      attachFile server credentials files pageId path state = (result, left) := by
  obtain ⟨exchanges, result, left, hcourse, hrecorded, hplain⟩ :=
    attachFile_course server credentials files pageId path state before
  exact ⟨result, exchanges, left, hcourse.agrees, hrecorded, hplain⟩

/-- Files are attached with one attempt each, in order. -/
theorem attachAll_attempts (report : Report) (paths : List String) (state : σ)
    (before : List Exchanged) :
    ∃ (attempts : List Attempt) (left : σ),
      attempts.map (·.asked) = paths.map (report.pageId, ·) ∧
      (∀ attempt ∈ attempts, attempt.Agrees credentials files) ∧
      attachAll (attachFile server.recorded credentials files) report paths (state, before) =
        (report.addAll (attempts.map Attempt.toCall), left,
          before ++ attempts.flatMap Attempt.exchanges) ∧
      attachAll (attachFile server credentials files) report paths state =
        (report.addAll (attempts.map Attempt.toCall), left) := by
  induction paths generalizing report state before with
  | nil =>
    refine ⟨[], state, rfl, by simp, ?_, ?_⟩
    · simp [attachAll_nil, Report.addAll]
    · simp [attachAll_nil, Report.addAll]
  | cons path rest ih =>
    obtain ⟨result, exchanges, next, hagrees, hrecorded, hplain⟩ :=
      attachFile_agrees server credentials files report.pageId path state before
    obtain ⟨attempts, left, hasked, hall, hrecordedAll, hplainAll⟩ :=
      ih (report.add path result) next (before ++ exchanges)
    have hpage : (report.add path result).pageId = report.pageId := by cases result <;> rfl
    refine ⟨⟨⟨report.pageId, path, result⟩, exchanges⟩ :: attempts, left, ?_, ?_, ?_, ?_⟩
    · rw [List.map_cons, List.map_cons, hasked, hpage]
      rfl
    · exact List.forall_mem_cons.mpr ⟨hagrees, hall⟩
    · rw [attachAll_cons, hrecorded, hrecordedAll, List.map_cons, Report.addAll_cons,
        List.flatMap_cons, List.append_assoc]
    · rw [attachAll_cons, hplain, hplainAll, List.map_cons, Report.addAll_cons]

/-- An upload makes one attempt for each path, or none if a path is no file. -/
theorem upload_attempts (pageId : String) (paths : List String) (state : σ) :
    ∃ (result : Except Failure Report) (attempts : List Attempt) (left : σ),
      upload (attachFile server.recorded credentials files) files pageId paths (state, []) =
        (result, left, attempts.flatMap Attempt.exchanges) ∧
      upload (attachFile server credentials files) files pageId paths state = (result, left) ∧
      (∀ attempt ∈ attempts, attempt.Agrees credentials files) ∧
      (∀ failure, result = .error failure → attempts = []) ∧
      ∀ report, result = .ok report →
        attempts.map (·.asked) = paths.map (pageId, ·) ∧
        report.uploaded = (attempts.map Attempt.toCall).filterMap Call.uploaded? := by
  cases hcheck : checkFiles files paths with
  | error failure =>
    refine ⟨.error failure, [], state, ?_, ?_, by simp, fun _ _ => rfl, by simp⟩
    · rw [upload, hcheck]
      rfl
    · rw [upload, hcheck]
      rfl
  | ok _ =>
    obtain ⟨attempts, left, hasked, hall, hrecorded, hplain⟩ :=
      attachAll_attempts server credentials files ⟨pageId, [], []⟩ paths state []
    refine ⟨.ok ((⟨pageId, [], []⟩ : Report).addAll (attempts.map Attempt.toCall)), attempts, left,
      ?_, ?_, hall, by simp, ?_⟩
    · rw [upload, hcheck]
      simp only [bind, StateT.bind, hrecorded]
      rfl
    · rw [upload, hcheck]
      simp only [bind, StateT.bind, hplain]
      rfl
    · rintro report heq
      cases heq
      exact ⟨hasked, rfl⟩

end Run

/-- What the client reports agrees with what the server was asked and replied, whatever the
server replies and remembers.

Attaching one file is an attempt that agrees. A run makes one attempt for each path, all of
which agree; a file is not sent when no reply told what was found, and the report counts as
many files as the server took. If the wiki itself has an address that can be asked, so has all
that comes into this, unless the address is too long; and a plain path is asked for as it is,
behind the one of the wiki. -/
theorem report_agrees_with_server {σ : Type} (server : Server σ) (credentials : Credentials)
    (files : FileTree) (pageId : String) :
    (∀ path state, ∃ result exchanges left,
      attachFile server.recorded credentials files pageId path (state, []) =
        (result, left, exchanges) ∧
      attachFile server credentials files pageId path state = (result, left) ∧
      Attempt.Agrees credentials files ⟨⟨pageId, path, result⟩, exchanges⟩) ∧
    (∀ paths state, ∃ (result : Except Failure Report) (attempts : List Attempt) (left : σ),
      upload (attachFile server.recorded credentials files) files pageId paths (state, []) =
        (result, left, attempts.flatMap Attempt.exchanges) ∧
      upload (attachFile server credentials files) files pageId paths state = (result, left) ∧
      (∀ attempt ∈ attempts, attempt.Agrees credentials files) ∧
      (∀ attempt ∈ attempts, (∀ found, ¬ attempt.IsTold found) →
        ∀ exchanged ∈ attempt.exchanges, exchanged.isPost = false) ∧
      (∀ failure, result = .error failure → attempts = []) ∧
      ∀ report, result = .ok report →
        attempts.map (·.asked) = paths.map (pageId, ·) ∧
        report.uploaded = (attempts.map Attempt.toCall).filterMap Call.uploaded? ∧
        report.uploaded.length =
          (attempts.flatMap Attempt.exchanges).countP Exchanged.isTaken) ∧
    (∀ base site, WithoutSlashes credentials.baseUrl base → IsSite base site →
      ∀ found address, IsBelow credentials.baseUrl (attachmentPath pageId found) address →
        (∀ fields, CanAsk address fields ∨ IsTooLong address fields) ∧
        (site.query = none → site.fragment = none →
          IsPlainPath (attachmentPath pageId found).toList → ∃ front, site.path = front ++ ['/'] ∧
            Url.read? address =
              some { site with path := front ++ (attachmentPath pageId found).toList })) := by
  refine ⟨?_, ?_, ?_⟩
  · intro path state
    obtain ⟨result, exchanges, left, hagrees, hrecorded, hplain⟩ :=
      attachFile_agrees server credentials files pageId path state []
    exact ⟨result, exchanges, left, hrecorded, hplain, hagrees⟩
  · intro paths state
    obtain ⟨result, attempts, left, hrecorded, hplain, hall, hnone, hreport⟩ :=
      upload_attempts server credentials files pageId paths state
    refine ⟨result, attempts, left, hrecorded, hplain, hall, ?_, hnone, ?_⟩
    · intro attempt hattempt huntold exchanged hexchanged
      refine Bool.eq_false_iff.mpr fun hpost => ?_
      obtain ⟨found, -, htold, -⟩ :=
        (hall attempt hattempt).sent_iff.mp ⟨exchanged, hexchanged, hpost⟩
      exact huntold found htold
    · rintro report rfl
      obtain ⟨hasked, huploaded⟩ := hreport report rfl
      refine ⟨hasked, huploaded, ?_⟩
      rw [huploaded]
      exact length_uploaded_eq_countP hall
  · intro base site hbase hsite found address hbelow
    obtain rfl : address = base ++ attachmentPath pageId found := by
      rw [hbelow.eq_uploadAddress, uploadAddress_eq, hbase.eq_dropSlashes]
    refine ⟨hsite.canAsk_attachmentPath pageId found, fun hquery hfragment hplain => ?_⟩
    obtain ⟨front, hpath, hread⟩ := hsite.read?_attachmentPath hquery hfragment
    exact ⟨front, hpath, hread pageId found hplain⟩

def ownWiki : Credentials := ⟨"http://[::1]:8090", "ann", "s3cret", true⟩

def ownSite : Url where
  scheme := "http".toList
  authority := .named { host := .ipv6 ⟨[0, 0, 0, 0, 0, 0, 0, 1], rfl⟩, service := some 8090 }
  path := ['/']
  query := none
  fragment := none

/-- A page that has one of two files. The server fails when it is asked for the other. -/
def pageReplies : List Reply :=
  [.answer 200 "\x7b\"results\": [\x7b\"id\": 7\x7d]\x7d", .answer 200 "\x7b\x7d",
    .answer 500 "down"]

/-- The file that the page has is sent once more, the other one is not sent; with a file
missing, nobody is asked. -/
theorem upload_found_and_untold :
    WithoutSlashes ownWiki.baseUrl ownWiki.baseUrl ∧ IsSite ownWiki.baseUrl ownSite ∧
    (∃ (report : Report) (attempts : List Attempt) (left : List Reply),
      upload (attachFile scripted.recorded ownWiki shelf) shelf "42" ["a.png", "b.png"]
        (pageReplies, []) = (.ok report, left, attempts.flatMap Attempt.exchanges) ∧
      (∀ attempt ∈ attempts, attempt.Agrees ownWiki shelf) ∧
      (attempts.flatMap Attempt.exchanges).map
        (fun exchanged => (exchanged.request.method, exchanged.request.url.text)) =
          [(.get, "http://[::1]:8090/rest/api/content/42/child/attachment?filename=a.png"),
            (.post, "http://[::1]:8090/rest/api/content/42/child/attachment/7/data"),
            (.get, "http://[::1]:8090/rest/api/content/42/child/attachment?filename=b.png")] ∧
      report.uploaded.length = 1) ∧
    (∃ (result : Except Failure Report) (attempt : Attempt) (left : List Reply),
      upload (attachFile scripted.recorded ownWiki shelf) shelf "42" ["b.png"]
        ([.answer 500 "down"], []) = (result, left, attempt.exchanges) ∧
      (∀ found, ¬ attempt.IsTold found) ∧
      ∀ exchanged ∈ attempt.exchanges, exchanged.isPost = false) ∧
    (∃ left, upload (attachFile scripted.recorded ownWiki shelf) shelf "42" ["c.png"]
      (pageReplies, []) = (.error (.inputNotFound "c.png"), left, [])) ∧
    ∃ front, ['/'] = front ++ ['/'] ∧
      Url.read? (ownWiki.baseUrl ++ attachmentPath "42" (some "7")) =
        some { ownSite with path := front ++ (attachmentPath "42" (some "7")).toList } := by
  have hbase : WithoutSlashes ownWiki.baseUrl ownWiki.baseUrl :=
    ⟨by decide, 0, (List.append_nil _).symm⟩
  have hsite : IsSite ownWiki.baseUrl ownSite := ⟨by decide +kernel, by decide +kernel⟩
  have hrun : (fun run : Except Failure Report × List Reply × List Exchanged =>
      (run.1.isOk, run.2.2.map (fun exchanged =>
        (exchanged.request.method, exchanged.request.url.text)), run.2.2.countP Exchanged.isTaken))
        (upload (attachFile scripted.recorded ownWiki shelf) shelf "42" ["a.png", "b.png"]
          (pageReplies, [])) = (true,
            [(.get, "http://[::1]:8090/rest/api/content/42/child/attachment?filename=a.png"),
              (.post, "http://[::1]:8090/rest/api/content/42/child/attachment/7/data"),
              (.get, "http://[::1]:8090/rest/api/content/42/child/attachment?filename=b.png")],
            1) := by
    decide +kernel
  have hdown : (fun run : Except Failure Report × List Reply × List Exchanged =>
      (run.1.isOk, run.2.2.map Exchanged.reply))
        (upload (attachFile scripted.recorded ownWiki shelf) shelf "42" ["b.png"]
          ([.answer 500 "down"], [])) = (true, [.answer 500 "down"]) := by
    decide +kernel
  have hmissing : shelf.isFile "c.png" = false := by decide +kernel
  obtain ⟨-, hruns, haddresses⟩ := report_agrees_with_server scripted ownWiki shelf "42"
  have hplain : IsPlainPath (attachmentPath "42" (some "7")).toList := by
    have hall : (attachmentPath "42" (some "7")).toList.all (fun c => isPlain c || c == '/') =
        true := by decide +kernel
    simpa [IsPlainPath] using hall
  have hpath := (haddresses _ _ hbase hsite (some "7") _ ⟨_, hbase, rfl⟩).2 rfl rfl hplain
  refine ⟨hbase, hsite, ?_, ?_, ?_, hpath⟩
  · obtain ⟨result, attempts, left, hrecorded, -, hall, -, -, hreport⟩ :=
      hruns ["a.png", "b.png"] pageReplies
    simp only [hrecorded, Prod.mk.injEq] at hrun
    obtain ⟨hok, hposts, htaken⟩ := hrun
    cases result with
    | error failure => cases hok
    | ok report =>
      obtain ⟨-, -, hlength⟩ := hreport report rfl
      exact ⟨report, attempts, left, hrecorded, hall, hposts, hlength.trans htaken⟩
  · obtain ⟨result, attempts, left, hrecorded, -, -, huntold, -, hreport⟩ :=
      hruns ["b.png"] [.answer 500 "down"]
    simp only [hrecorded, Prod.mk.injEq] at hdown
    obtain ⟨hok, hreplies⟩ := hdown
    cases result with
    | error failure => cases hok
    | ok report =>
      obtain ⟨hasked, -, -⟩ := hreport report rfl
      obtain ⟨attempt, rfl, -⟩ := List.map_eq_singleton_iff.mp hasked
      rw [List.flatMap_singleton] at hrecorded hreplies
      obtain ⟨exchanged, hexchanged, hreply⟩ := List.map_eq_singleton_iff.mp hreplies
      have hnone : ∀ found, ¬ attempt.IsTold found := by
        rintro found ⟨first, hfirst, body, answer, hbody, -⟩
        rw [hexchanged] at hfirst
        cases hfirst
        rw [hreply] at hbody
        cases hbody
      exact ⟨.ok report, attempt, left, hrecorded, hnone,
        huntold attempt (List.mem_singleton.mpr rfl) hnone⟩
  · obtain ⟨result, attempts, left, hrecorded, -, -, -, hnone, -⟩ := hruns ["c.png"] pageReplies
    have hstop : upload (attachFile scripted.recorded ownWiki shelf) shelf "42" ["c.png"]
        (pageReplies, []) = (.error (.inputNotFound "c.png"), pageReplies, []) :=
      upload_of_missing _ shelf "42" _ (List.forall_mem_nil _) hmissing
    obtain ⟨hresult, -⟩ := Prod.mk.inj (hrecorded.symm.trans hstop)
    rw [hresult, hnone _ hresult] at hrecorded
    exact ⟨left, hrecorded⟩

end DesignGraph.Attachment
