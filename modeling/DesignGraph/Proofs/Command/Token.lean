import DesignGraph.Main
import DesignGraph.Proofs.Attachment.Accepted
import DesignGraph.Proofs.Attachment.Authorization
import DesignGraph.Proofs.Json.Members

/-!
# The token stays a secret

Two upload commands whose configurations differ in the token of the chosen server alone send
the same requests but for the authorizations, print the same line and return the same code.
-/
namespace DesignGraph

open Json Files

namespace Attachment

/-- The settings differ at most in the token, and both have one that can be used. -/
structure Settings.DifferInToken (s₁ s₂ : Settings) : Prop where
  others : ∀ key, key ≠ tokenKey → member? key s₁ = member? key s₂
  usable₁ : (settingText? s₁ tokenKey).isSome = true
  usable₂ : (settingText? s₂ tokenKey).isSome = true

/-- The configurations name the same servers, and the settings of this server differ at most
in the token. What other servers have is of no concern. -/
structure HostConfig.DifferInToken (server : String) (config₁ config₂ : HostConfig) : Prop where
  names : config₁.map Prod.fst = config₂.map Prod.fst
  settings : ∀ s₁ s₂, member? server config₁ = some s₁ → member? server config₂ = some s₂ →
    Settings.DifferInToken s₁ s₂

/-- Settings that differ at most in the token give credentials that differ in the token, or
miss the same keys. -/
theorem Settings.DifferInToken.credentials {s₁ s₂ : Settings} (h : Settings.DifferInToken s₁ s₂) :
    (Credentials.ofSettings s₁).map Credentials.withoutToken =
      (Credentials.ofSettings s₂).map Credentials.withoutToken := by
  have htext : ∀ key, key ≠ tokenKey → settingText? s₁ key = settingText? s₂ key := by
    intro key hkey
    rw [settingText?, settingText?, h.others key hkey]
  have hurl : wikiUrl? s₁ = wikiUrl? s₂ := by
    rw [wikiUrl?, wikiUrl?, htext urlKey (by decide), htext siteUrlKey (by decide)]
  obtain ⟨token₁, htoken₁⟩ := Option.isSome_iff_exists.mp h.usable₁
  obtain ⟨token₂, htoken₂⟩ := Option.isSome_iff_exists.mp h.usable₂
  rw [Credentials.ofSettings, Credentials.ofSettings, hurl, htext usernameKey (by decide),
    h.others verifyKey (by decide), htoken₁, htoken₂]
  cases wikiUrl? s₂ <;> cases settingText? s₂ usernameKey <;> rfl

theorem HostConfig.DifferInToken.credentials {server : String} {config₁ config₂ : HostConfig}
    (h : HostConfig.DifferInToken server config₁ config₂) :
    (config₁.credentials server).map Credentials.withoutToken =
      (config₂.credentials server).map Credentials.withoutToken := by
  have hthere : (member? server config₁).isSome = true ↔
      (member? server config₂).isSome = true := by
    rw [isSome_member?_iff, isSome_member?_iff, h.names]
  rw [HostConfig.credentials, HostConfig.credentials]
  rcases h₁ : member? server config₁ with _ | s₁ <;> rcases h₂ : member? server config₂ with _ | s₂
  · simp only [h.names]
  · simp [h₁, h₂] at hthere
  · simp [h₁, h₂] at hthere
  · exact (h.settings s₁ s₂ h₁ h₂).credentials

end Attachment

namespace Command

open Attachment Tool

/-- The configuration that an upload reads. -/
def Configures (environment : Environment) (options : UploadOptions) (files : FileTree)
    (config : HostConfig) : Prop :=
  ∃ path text, configOf environment options = .ok path ∧ files.readText path = .ok text ∧
    HostConfig.read text = .ok config

theorem credentialsOf_of_configures {environment : Environment} {options : UploadOptions}
    {files : FileTree} {config : HostConfig} (h : Configures environment options files config) :
    credentialsOf environment options files =
      (config.credentials options.server).mapError .configUnusable := by
  obtain ⟨path, text, hpath, htext, hread⟩ := h
  rw [credentialsOf, hpath]
  change loadCredentials files path options.server = _
  rw [loadCredentials, htext]
  change readCredentials text options.server = _
  rw [readCredentials, hread]

/-- The world with a server that keeps what was exchanged with it. -/
def World.recorded {σ : Type} (world : World σ) : World (σ × List Exchanged) where
  programs := world.programs
  server := world.server.recorded
  environment := world.environment
  client := world.client
  runtime := world.runtime

section Upload

variable {σ : Type} {world : World σ} {options : UploadOptions}

theorem clientOf_recorded (files : FileTree) :
    clientOf world.recorded options files = clientOf world options files := rfl

theorem attachFiles_of_error {failure : Failure} {files : FileTree}
    (h : clientOf world options files = .error failure) (state : σ) :
    attachFiles world options files state = (.failed failure, state) := by
  rw [attachFiles, h]
  rfl

theorem attachFiles_of_ok {credentials : Credentials} {files : FileTree}
    (h : clientOf world options files = .ok credentials) (state : σ) :
    attachFiles world options files state =
      (.ofUpload (upload (attachFile world.server credentials files) files options.pageId
        options.paths state).1,
        (upload (attachFile world.server credentials files) files options.pageId options.paths
          state).2) := by
  rw [attachFiles, h]
  rfl

/-- An upload with a recorded server comes to the same as one with the server itself. -/
theorem attachFiles_recorded (world : World σ) (options : UploadOptions) (files : FileTree)
    (state : σ) :
    ∃ outcome left exchanges,
      attachFiles world.recorded options files (state, []) = (outcome, left, exchanges) ∧
      attachFiles world options files state = (outcome, left) := by
  cases h : clientOf world options files with
  | error failure =>
    exact ⟨.failed failure, state, [], attachFiles_of_error ((clientOf_recorded files).trans h) _,
      attachFiles_of_error h _⟩
  | ok credentials =>
    obtain ⟨result, attempts, left, hrecorded, hplain, -⟩ :=
      upload_attempts world.server credentials files options.pageId options.paths state
    refine ⟨.ofUpload result, left, attempts.flatMap Attempt.exchanges, ?_, ?_⟩
    · rw [attachFiles_of_ok ((clientOf_recorded files).trans h), World.recorded, hrecorded]
    · rw [attachFiles_of_ok h, hplain]

theorem run_upload {words : List String}
    (hwords : Line.read world.environment words = some (.upload options)) (files : FileTree)
    (state : σ) :
    run world words files state =
      ((some (attachFiles world options files state).1, files),
        (attachFiles world options files state).2) := by
  rw [run, hwords]
  rfl

/-- Whether a client can be set up does not depend on the token. -/
theorem clientOf_withoutToken {files₁ files₂ : FileTree}
    (h : (credentialsOf world.environment options files₁).map Credentials.withoutToken =
      (credentialsOf world.environment options files₂).map Credentials.withoutToken) :
    (clientOf world options files₁).map Credentials.withoutToken =
      (clientOf world options files₂).map Credentials.withoutToken := by
  rw [clientOf, clientOf]
  rcases h₁ : credentialsOf world.environment options files₁ with failure | c₁ <;>
    rcases h₂ : credentialsOf world.environment options files₂ with failure' | c₂
  all_goals rw [h₁, h₂] at h
  · exact h
  · cases h
  · cases h
  · have hcredentials : c₁.withoutToken = c₂.withoutToken := Except.ok.inj h
    have hverify : c₁.verifyTls = c₂.verifyTls := by
      change c₁.withoutToken.verifyTls = c₂.withoutToken.verifyTls
      rw [hcredentials]
    simp only [bind, Except.bind, hverify]
    cases world.setUp c₂.verifyTls with
    | error failure => rfl
    | ok => exact congrArg Except.ok hcredentials

/-- Uploads of files that both find, with credentials that differ in their tokens or are
missing for the same reason, are alike. -/
theorem alike_attachFiles (hserver : world.server.IgnoresAuthorization)
    {files₁ files₂ : FileTree}
    (hcredentials : (clientOf world options files₁).map Credentials.withoutToken =
      (clientOf world options files₂).map Credentials.withoutToken)
    (hfile : ∀ path ∈ options.paths, files₁.isFile path = files₂.isFile path)
    (hread : ∀ path ∈ options.paths, files₁.readBytes path = files₂.readBytes path) :
    Alike (attachFiles world.recorded options files₁)
      (attachFiles world.recorded options files₂) := by
  intro s t hst
  rcases h₁ : clientOf world options files₁ with failure | c₁ <;>
    rcases h₂ : clientOf world options files₂ with failure' | c₂
  all_goals rw [h₁, h₂] at hcredentials
  · cases hcredentials
    rw [attachFiles_of_error ((clientOf_recorded files₁).trans h₁),
      attachFiles_of_error ((clientOf_recorded files₂).trans h₂)]
    exact ⟨rfl, hst⟩
  · cases hcredentials
  · cases hcredentials
  · obtain ⟨hresult, hstate⟩ := alike_upload hserver (Except.ok.inj hcredentials) hfile hread
      options.pageId s t hst
    rw [attachFiles_of_ok ((clientOf_recorded files₁).trans h₁),
      attachFiles_of_ok ((clientOf_recorded files₂).trans h₂)]
    exact ⟨congrArg Outcome.ofUpload hresult, hstate⟩

end Upload

/-- The token of the chosen server goes into the authorizations of requests and nowhere else.

Two configurations that differ in it alone, both with one that can be used, give two uploads
of the same files that send the same requests but for their authorizations, whatever the
server replies, leave it in the same state and come to the same outcome, so that they print
the same line and return the same code. What is logged of the credentials is the same, or
there are none for the same reason. -/
theorem token_only_authorizes {σ : Type} {world : World σ}
    (hserver : world.server.IgnoresAuthorization) {words : List String} {options : UploadOptions}
    (hwords : Line.read world.environment words = some (.upload options))
    {files₁ files₂ : FileTree} {config₁ config₂ : HostConfig}
    (h₁ : Configures world.environment options files₁ config₁)
    (h₂ : Configures world.environment options files₂ config₂)
    (hconfig : HostConfig.DifferInToken options.server config₁ config₂)
    (hfile : ∀ path ∈ options.paths, files₁.isFile path = files₂.isFile path)
    (hread : ∀ path ∈ options.paths, files₁.readBytes path = files₂.readBytes path)
    (state : σ) :
    ∃ outcome left exchanges₁ exchanges₂,
      run world.recorded words files₁ (state, []) = ((some outcome, files₁), left, exchanges₁) ∧
      run world.recorded words files₂ (state, []) = ((some outcome, files₂), left, exchanges₂) ∧
      run world words files₁ state = ((some outcome, files₁), left) ∧
      run world words files₂ state = ((some outcome, files₂), left) ∧
      exchanges₁.map Exchanged.withoutAuthorization =
        exchanges₂.map Exchanged.withoutAuthorization ∧
      (credentialsOf world.environment options files₁).map Credentials.describe =
        (credentialsOf world.environment options files₂).map Credentials.describe := by
  have hcredentials :
      (credentialsOf world.environment options files₁).map Credentials.withoutToken =
        (credentialsOf world.environment options files₂).map Credentials.withoutToken := by
    have hswap (found : Except ConfigFault Credentials) :
        (found.mapError Failure.configUnusable).map Credentials.withoutToken =
          (found.map Credentials.withoutToken).mapError Failure.configUnusable := by
      cases found <;> rfl
    rw [credentialsOf_of_configures h₁, credentialsOf_of_configures h₂, hswap, hswap,
      hconfig.credentials]
  obtain ⟨outcome, left, exchanges₁, hrecorded₁, hplain₁⟩ :=
    attachFiles_recorded world options files₁ state
  obtain ⟨other, left', exchanges₂, hrecorded₂, hplain₂⟩ :=
    attachFiles_recorded world options files₂ state
  obtain ⟨hsame, hleft, hexchanges⟩ := alike_attachFiles hserver
    (clientOf_withoutToken hcredentials) hfile hread (state, []) (state, []) ⟨rfl, rfl⟩
  rw [hrecorded₁, hrecorded₂] at hsame hleft hexchanges
  obtain rfl : outcome = other := hsame
  obtain rfl : left = left' := hleft
  have hwords' : Line.read world.recorded.environment words = some (.upload options) := hwords
  refine ⟨outcome, left, exchanges₁, exchanges₂, ?_, ?_, ?_, ?_, hexchanges, ?_⟩
  · rw [run_upload hwords', hrecorded₁]
  · rw [run_upload hwords', hrecorded₂]
  · rw [run_upload hwords, hplain₁]
  · rw [run_upload hwords, hplain₂]
  · have hdescribe (found : Except Failure Credentials) :
        found.map Credentials.describe =
          (found.map Credentials.withoutToken).map Credentials.describe := by
      cases found <;> rfl
    rw [hdescribe, hcredentials, ← hdescribe]

def annsSettings (token : String) : Settings :=
  [(tokenKey, .string token), (urlKey, .string "http://[::1]:8090"), (usernameKey, .string "ann")]

/-- A host configuration with one server. -/
def hostFile (token : String) : Value :=
  .object [("mcpServers", .object [("wiki", .object [("env", .object (annsSettings token))])])]

/-- A directory with a picture and the host configuration. -/
def annsDesk (token : String) : FileTree where
  start := []
  entries := [(["a.png"], .file [0x89] false),
    (["host.json"], .file (Text.utf8 (hostFile token).line) false)]

def attachWords : List String :=
  ["upload", "--server", "wiki", "--page-id", "42", "--file", "a.png", "--config", "host.json"]

def attachOptions : UploadOptions := ⟨"wiki", "42", ["a.png"], some "host.json"⟩

/-- The desk's configuration is read, where its path leads to it. -/
theorem configures_annsDesk {token : String}
    (hpath : (annsDesk token).resolve "host.json" = .ok ["host.json"])
    (hread : HostConfig.read (hostFile token).line = .ok [("wiki", annsSettings token)]) :
    Configures [] attachOptions (annsDesk token) [("wiki", annsSettings token)] := by
  have hentry : FileTree.entry? (annsDesk token) ["host.json"] =
      some (.file (Text.utf8 (hostFile token).line) false) := by
    simp [FileTree.entry?, annsDesk]
  have hbytes : (annsDesk token).readBytes "host.json" =
      .ok (Text.utf8 (hostFile token).line) := by
    simp [FileTree.readBytes, FileTree.lookup, hpath, hentry, bind, Except.bind]
  exact ⟨"host.json", _, rfl, FileTree.readText_of_utf8 hbytes, hread⟩

theorem annsSettings_differInToken {token₁ token₂ : String}
    (h₁ : (settingText? (annsSettings token₁) tokenKey).isSome = true)
    (h₂ : (settingText? (annsSettings token₂) tokenKey).isSome = true) :
    HostConfig.DifferInToken "wiki" [("wiki", annsSettings token₁)]
      [("wiki", annsSettings token₂)] := by
  refine ⟨rfl, ?_⟩
  rintro s₁ s₂ hs₁ hs₂
  cases hs₁
  cases hs₂
  refine ⟨fun key hkey => ?_, h₁, h₂⟩
  simp [member?, annsSettings, Ne.symm hkey]

/-- A wiki with scripted replies. -/
def scriptedWorld : World (List Reply) where
  programs := (Main.alone []).programs
  server := scripted
  environment := []

/-- With one token and with another, the same is sent but for the authorizations, which tell
the token. -/
theorem upload_with_two_tokens :
    Line.read [] attachWords = some (.upload attachOptions) ∧
    Configures [] attachOptions (annsDesk "s3cret") [("wiki", annsSettings "s3cret")] ∧
    Configures [] attachOptions (annsDesk "other") [("wiki", annsSettings "other")] ∧
    ∃ outcome left exchanges₁ exchanges₂,
      run scriptedWorld.recorded attachWords (annsDesk "s3cret") (pageReplies, []) =
        ((some outcome, annsDesk "s3cret"), left, exchanges₁) ∧
      run scriptedWorld.recorded attachWords (annsDesk "other") (pageReplies, []) =
        ((some outcome, annsDesk "other"), left, exchanges₂) ∧
      exchanges₁.map Exchanged.withoutAuthorization =
        exchanges₂.map Exchanged.withoutAuthorization ∧
      exchanges₁.map (·.request.authorization) =
        ["Basic YW5uOnMzY3JldA==", "Basic YW5uOnMzY3JldA=="] := by
  have hfacts :
      Line.read [] attachWords = some (.upload attachOptions) ∧
      (annsDesk "s3cret").resolve "host.json" = .ok ["host.json"] ∧
      (annsDesk "other").resolve "host.json" = .ok ["host.json"] ∧
      (settingText? (annsSettings "s3cret") tokenKey).isSome = true ∧
      (settingText? (annsSettings "other") tokenKey).isSome = true ∧
      (∀ path ∈ attachOptions.paths,
        (annsDesk "s3cret").isFile path = (annsDesk "other").isFile path) ∧
      (∀ path ∈ attachOptions.paths,
        (annsDesk "s3cret").readBytes path = (annsDesk "other").readBytes path) ∧
      (upload (attachFile scripted.recorded ownWiki (annsDesk "s3cret")) (annsDesk "s3cret") "42"
        ["a.png"] (pageReplies, [])).2.2.map (·.request.authorization) =
          ["Basic YW5uOnMzY3JldA==", "Basic YW5uOnMzY3JldA=="] := by
    decide +kernel
  obtain ⟨hwords, hpath₁, hpath₂, husable₁, husable₂, hfile, hread, hsent⟩ := hfacts
  have hconfig₁ : Configures [] attachOptions (annsDesk "s3cret")
      [("wiki", annsSettings "s3cret")] := by
    refine configures_annsDesk hpath₁ ?_
    rw [HostConfig.read, ofText_line (rfl : (hostFile "s3cret").tree? = some _)]
    rfl
  have hconfig₂ : Configures [] attachOptions (annsDesk "other")
      [("wiki", annsSettings "other")] := by
    refine configures_annsDesk hpath₂ ?_
    rw [HostConfig.read, ofText_line (rfl : (hostFile "other").tree? = some _)]
    rfl
  have hserver : scriptedWorld.server.IgnoresAuthorization := scripted_ignoresAuthorization
  obtain ⟨outcome, left, exchanges₁, exchanges₂, hrun₁, hrun₂, -, -, hsame, -⟩ :=
    token_only_authorizes hserver hwords hconfig₁ hconfig₂
      (annsSettings_differInToken husable₁ husable₂) hfile hread pageReplies
  refine ⟨hwords, hconfig₁, hconfig₂, outcome, left, exchanges₁, exchanges₂, hrun₁, hrun₂, hsame,
    ?_⟩
  have hcredentials : credentialsOf scriptedWorld.recorded.environment attachOptions
      (annsDesk "s3cret") = .ok ownWiki := by
    change credentialsOf [] _ _ = _
    rw [credentialsOf_of_configures hconfig₁]
    rfl
  have hclient : clientOf scriptedWorld.recorded attachOptions (annsDesk "s3cret") =
      .ok ownWiki := by
    rw [clientOf, hcredentials]
    rfl
  have hwords' : Line.read scriptedWorld.recorded.environment attachWords =
      some (.upload attachOptions) := hwords
  rw [run_upload hwords', attachFiles_of_ok hclient] at hrun₁
  rw [← (Prod.mk.inj (Prod.mk.inj hrun₁).2).2]
  exact hsent

end Command

end DesignGraph
