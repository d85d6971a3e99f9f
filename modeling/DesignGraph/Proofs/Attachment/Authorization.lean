import DesignGraph.Proofs.Attachment.Exchanges
import Mathlib.Data.List.Find

/-!
# Runs that differ in authorizations

A server that does not look at authorizations replies alike to requests that differ in
nothing else. Two runs of the client with credentials that differ in their tokens are then
alike in everything but the authorizations that were sent.
-/
namespace DesignGraph.Attachment

open Address Files

def Credentials.withoutToken (credentials : Credentials) : Credentials :=
  { credentials with token := "" }

def Request.withoutAuthorization (request : Request) : Request :=
  { request with authorization := "" }

def Exchanged.withoutAuthorization (exchanged : Exchanged) : Exchanged :=
  { exchanged with request := exchanged.request.withoutAuthorization }

/-- The server replies alike to requests that differ in their authorizations. -/
def Server.IgnoresAuthorization {σ : Type} (server : Server σ) : Prop :=
  ∀ request state, server request state = server request.withoutAuthorization state

theorem scripted_ignoresAuthorization : scripted.IgnoresAuthorization := by
  intro request replies
  cases replies <;> rfl

/-! ## Requests -/

section Requests

variable {c₁ c₂ : Credentials}

/-- Credentials that differ in their tokens have the same base of addresses and the same
proof of the server. -/
theorem Credentials.same_of_withoutToken (h : c₁.withoutToken = c₂.withoutToken) :
    c₁.baseUrl = c₂.baseUrl ∧ c₁.verifyTls = c₂.verifyTls := by
  obtain ⟨hbase, -, -, hverify⟩ := Credentials.mk.inj h
  exact ⟨hbase, hverify⟩

theorem lookupRequest_withoutToken (h : c₁.withoutToken = c₂.withoutToken)
    (pageId name : String) :
    (lookupRequest c₁ pageId name).map Request.withoutAuthorization =
      (lookupRequest c₂ pageId name).map Request.withoutAuthorization := by
  obtain ⟨hbase, hverify⟩ := Credentials.same_of_withoutToken h
  rw [lookupRequest, lookupRequest, hbase, hverify]
  cases webUrl (attachmentsUrl c₂.baseUrl pageId) [("filename", name)] <;>
    simp [Except.mapError, Except.map, bind, Except.bind, pure, Except.pure,
      Request.withoutAuthorization]

theorem uploadRequest_withoutToken (h : c₁.withoutToken = c₂.withoutToken)
    (address name : String) (content : Text.Bytes) :
    (uploadRequest c₁ address name content).map Request.withoutAuthorization =
      (uploadRequest c₂ address name content).map Request.withoutAuthorization := by
  obtain ⟨-, hverify⟩ := Credentials.same_of_withoutToken h
  rw [uploadRequest, uploadRequest, hverify]
  cases webUrl address [] <;>
    simp [Except.mapError, Except.map, bind, Except.bind, pure, Except.pure,
      Request.withoutAuthorization]

end Requests

/-! ## Alike runs -/

section Alike

variable {σ α β : Type}

/-- The server is in the same state, and was asked the same but for authorizations. -/
def SameAsked (s t : σ × List Exchanged) : Prop :=
  s.1 = t.1 ∧
    s.2.map Exchanged.withoutAuthorization = t.2.map Exchanged.withoutAuthorization

/-- From states that are the same but for authorizations, two computations come to the same
result and leave states that are the same but for authorizations. -/
def Alike (x y : σ × List Exchanged → α × σ × List Exchanged) : Prop :=
  ∀ s t, SameAsked s t → (x s).1 = (y t).1 ∧ SameAsked (x s).2 (y t).2

theorem alike_given (result : Except Failure α) :
    Alike (given result : Exchange (σ × List Exchanged) α) (given result) :=
  fun _ _ h => ⟨rfl, h⟩

theorem Alike.bind {x y : Exchange (σ × List Exchanged) α}
    {f g : α → Exchange (σ × List Exchanged) β} (hx : Alike x y)
    (hf : ∀ a, Alike (f a) (g a)) : Alike (x >>= f) (y >>= g) := by
  intro s t h
  obtain ⟨hresult, hstate⟩ := hx s t h
  rw [bind_apply, bind_apply]
  rcases hxs : x s with ⟨a | a, left⟩ <;> rcases hyt : y t with ⟨b | b, other⟩
  all_goals
    rw [hxs, hyt] at hresult hstate
    cases hresult
  · exact ⟨rfl, hstate⟩
  · exact hf a left other hstate

/-- Requests that differ in their authorizations are answered alike. -/
theorem alike_send {server : Server σ} (hserver : server.IgnoresAuthorization)
    {ask other : Request} (h : ask.withoutAuthorization = other.withoutAuthorization) :
    Alike (send server.recorded ask) (send server.recorded other) := by
  rintro ⟨state, before⟩ ⟨-, before'⟩ ⟨rfl, hbefore⟩
  have hurl : ask.url = other.url := congrArg (·.url) h
  have hreply : server ask state = server other state := by
    rw [hserver ask, hserver other, h]
  rw [send_apply, send_apply, recorded_request, recorded_request, hreply, hurl]
  refine ⟨rfl, rfl, ?_⟩
  rw [List.map_append, List.map_append, hbefore]
  simp only [List.map_cons, List.map_nil, Exchanged.withoutAuthorization, h]

/-- What is done with requests that differ in their authorizations is alike, if it is for
every two of them. -/
theorem alike_given_bind {first second : Except Failure Request}
    {f g : Request → Exchange (σ × List Exchanged) β}
    (h : first.map Request.withoutAuthorization = second.map Request.withoutAuthorization)
    (hf : ∀ ask other, ask.withoutAuthorization = other.withoutAuthorization →
      Alike (f ask) (g other)) :
    Alike (given first >>= f) (given second >>= g) := by
  intro s t hst
  rw [bind_apply, bind_apply, given_apply, given_apply]
  rcases first with failure | ask <;> rcases second with failure' | other
  · cases h
    exact ⟨rfl, hst⟩
  · cases h
  · cases h
  · exact hf ask other (Except.ok.inj h) s t hst

end Alike

/-! ## The client -/

section Client

variable {σ : Type} {server : Server σ} {c₁ c₂ : Credentials} {files₁ files₂ : FileTree}

theorem alike_findAttachment (hserver : server.IgnoresAuthorization)
    (h : c₁.withoutToken = c₂.withoutToken) (pageId name : String) :
    Alike (findAttachment server.recorded c₁ pageId name)
      (findAttachment server.recorded c₂ pageId name) := by
  rw [findAttachment, findAttachment]
  refine alike_given_bind (lookupRequest_withoutToken h pageId name) fun ask other hask => ?_
  exact (alike_send hserver hask).bind fun body => alike_given (readLookup body)

/-- Attaching a file that both find is alike with credentials that differ in their tokens. -/
theorem alike_attachFile (hserver : server.IgnoresAuthorization)
    (h : c₁.withoutToken = c₂.withoutToken) {path : String}
    (hread : files₁.readBytes path = files₂.readBytes path) (pageId : String) :
    Alike (attachFile server.recorded c₁ files₁ pageId path)
      (attachFile server.recorded c₂ files₂ pageId path) := by
  have hcontent : readAttachment files₁ path = readAttachment files₂ path := by
    rw [readAttachment, hread, readAttachment]
  rw [attachFile, attachFile, hcontent, (Credentials.same_of_withoutToken h).1]
  refine (alike_given (fileNameOf path)).bind fun name => ?_
  refine (alike_given (readAttachment files₂ path)).bind fun content => ?_
  refine (alike_findAttachment hserver h pageId name).bind fun found => ?_
  refine alike_given_bind (uploadRequest_withoutToken h _ name content) fun post other hpost => ?_
  exact (alike_send hserver hpost).bind fun _ => alike_given (.ok name)

/-- So is attaching all of the files. -/
theorem alike_attachAll (hserver : server.IgnoresAuthorization)
    (h : c₁.withoutToken = c₂.withoutToken) {paths : List String}
    (hread : ∀ path ∈ paths, files₁.readBytes path = files₂.readBytes path) (report : Report) :
    Alike (attachAll (attachFile server.recorded c₁ files₁) report paths)
      (attachAll (attachFile server.recorded c₂ files₂) report paths) := by
  -- The reports stay equal along the paths, so the two runs call for the same page.
  induction paths generalizing report with
  | nil =>
    intro s t hst
    rw [attachAll_nil, attachAll_nil]
    exact ⟨rfl, hst⟩
  | cons path rest ih =>
    intro s t hst
    obtain ⟨hpath, hrest⟩ := List.forall_mem_cons.mp hread
    obtain ⟨hresult, hstate⟩ := alike_attachFile hserver h hpath report.pageId s t hst
    rw [attachAll_cons, attachAll_cons, hresult]
    exact ih hrest _ _ _ hstate

theorem alike_upload (hserver : server.IgnoresAuthorization)
    (h : c₁.withoutToken = c₂.withoutToken) {paths : List String}
    (hfile : ∀ path ∈ paths, files₁.isFile path = files₂.isFile path)
    (hread : ∀ path ∈ paths, files₁.readBytes path = files₂.readBytes path) (pageId : String) :
    Alike (upload (attachFile server.recorded c₁ files₁) files₁ pageId paths)
      (upload (attachFile server.recorded c₂ files₂) files₂ pageId paths) := by
  have hcheck : checkFiles files₁ paths = checkFiles files₂ paths := by
    rw [checkFiles, checkFiles, List.find?_congr fun path hpath => congrArg not (hfile path hpath)]
  intro s t hst
  rw [upload, upload, hcheck]
  cases checkFiles files₂ paths with
  | error failure => exact ⟨rfl, hst⟩
  | ok _ =>
    obtain ⟨hreport, hstate⟩ := alike_attachAll hserver h hread ⟨pageId, [], []⟩ s t hst
    exact ⟨congrArg Except.ok hreport, hstate⟩

end Client

end DesignGraph.Attachment
