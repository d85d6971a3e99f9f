import DesignGraph.Attachment.HostConfig
import DesignGraph.Proofs.Files.Operations
import DesignGraph.Proofs.Json.Members
import DesignGraph.Proofs.Json.ReadBack
import DesignGraph.Proofs.Text.Trimming

/-!
# Looking up a server

What a host configuration gives for a server is told by the settings of that server alone:
which of them can be used, what they say, and which of the required ones are missing. A
server that is not there is told by the names of those that are.
-/
namespace DesignGraph.Attachment

open Text Json Files.FileTree

/-! ## The servers of a configuration -/

/-- What each step of a fold keeps, a fold that succeeds keeps. -/
theorem foldlM_keeps {ε α β : Type} {P : β → Prop} {f : β → α → Except ε β}
    (hstep : ∀ found a next, P found → f found a = .ok next → P next) {as : List α} {start last : β}
    (hstart : P start) (h : as.foldlM f start = .ok last) : P last := by
  induction as generalizing start with
  | nil =>
    cases h
    exact hstart
  | cons a rest ih =>
    rw [List.foldlM_cons] at h
    obtain ⟨next, hnext, h⟩ := exists_of_bind_eq_ok h
    exact ih (hstep start a next hstart hnext) h

theorem keysSorted_readMap {α : Type} {read : Tree → Except Json.Fault α} {tree : Tree}
    {found : List (String × α)} (h : readMap read tree = .ok found) : KeysSorted found := by
  unfold readMap at h
  split at h
  · refine foldlM_keeps (P := KeysSorted) ?_ keysSorted_nil h
    intro members entry next hmembers hnext
    obtain ⟨key, -, hnext⟩ := exists_of_bind_eq_ok hnext
    obtain ⟨item, -, hnext⟩ := exists_of_bind_eq_ok hnext
    cases hnext
    exact hmembers.putMember key item
  · cases h

theorem keysSorted_read {text : String} {config : HostConfig}
    (h : HostConfig.read text = .ok config) : KeysSorted config := by
  obtain ⟨tree, -, h⟩ := exists_of_bind_eq_ok h
  obtain ⟨servers?, -, h⟩ := exists_of_bind_eq_ok h
  cases servers? with
  | none =>
    cases h
    exact keysSorted_nil
  | some servers => exact keysSorted_readMap h

/-! ## Settings -/

/-- The setting counts: it is not null, and if it is a string, not a blank one. -/
def IsUsable : Value → Prop
  | .null => False
  | .string s => trimmed s ≠ ""
  | _ => True

instance : (value : Value) → Decidable (IsUsable value)
  | .null => inferInstanceAs (Decidable False)
  | .string s => inferInstanceAs (Decidable (trimmed s ≠ ""))
  | .bool _ | .number _ | .array _ | .object _ => inferInstanceAs (Decidable True)

/-- What a setting says: a string without the blanks around it, and of anything else the
JSON text. -/
def settingText : Value → String
  | .string s => trimmed s
  | other => other.line

namespace Settings

/-- The key has a setting that counts, and this is what it says. -/
def Says (settings : Settings) (key text : String) : Prop :=
  ∃ value, member? key settings = some value ∧ IsUsable value ∧ text = settingText value

def Usable (settings : Settings) (key : String) : Prop := ∃ text, settings.Says key text

end Settings

theorem settingText_ne_empty {value : Value} (h : IsUsable value) : settingText value ≠ "" := by
  cases value with
  | null => cases h
  | string s => exact h
  | bool _ => exact Value.line_ne_empty _
  | number _ => exact Value.line_ne_empty _
  | array _ => exact Value.line_ne_empty _
  | object _ => exact Value.line_ne_empty _

/-- The text of a setting is that of its value, but for values that do not count. -/
theorem settingText?_of_member {settings : Settings} {key : String} {value : Value}
    (h : member? key settings = some value) :
    (IsUsable value → settingText? settings key = some (settingText value)) ∧
      (¬ IsUsable value → settingText? settings key = none) := by
  constructor
  · intro husable
    have htext : settingText? settings key = (some (settingText value)).filter (· ≠ "") := by
      rw [settingText?, h]
      cases value with
      | null => cases husable
      | _ => rfl
    rw [htext, Option.filter_eq_some_iff]
    exact ⟨rfl, decide_eq_true (settingText_ne_empty husable)⟩
  · intro hunusable
    rw [settingText?, h]
    cases value with
    | null => rfl
    | string s =>
      rw [IsUsable, not_not] at hunusable
      simp only [hunusable]
      rfl
    | _ => exact absurd trivial hunusable

theorem settingText?_eq_some_iff {settings : Settings} {key text : String} :
    settingText? settings key = some text ↔ settings.Says key text := by
  constructor
  · intro h
    cases hm : member? key settings with
    | none =>
      rw [settingText?, hm] at h
      cases h
    | some value =>
      obtain ⟨husable, hunusable⟩ := settingText?_of_member hm
      by_cases hv : IsUsable value
      · rw [husable hv] at h
        exact ⟨value, hm, hv, (Option.some.inj h).symm⟩
      · rw [hunusable hv] at h
        cases h
  · rintro ⟨value, hm, husable, rfl⟩
    exact (settingText?_of_member hm).1 husable

theorem settingText?_eq_none_iff {settings : Settings} {key : String} :
    settingText? settings key = none ↔ ¬ settings.Usable key := by
  rw [Option.eq_none_iff_forall_ne_some, Settings.Usable, not_exists]
  simp only [ne_eq, settingText?_eq_some_iff]

/-! ## Credentials -/

/-- The base does not end in a slash, and the text is the base with any number of them after
it. -/
def WithoutSlashes (text base : String) : Prop :=
  base.toList.getLast? ≠ some '/' ∧ ∃ n, text.toList = base.toList ++ List.replicate n '/'

theorem withoutSlashes_dropSlashes (text : String) : WithoutSlashes text (dropSlashes text) := by
  rw [WithoutSlashes, dropSlashes, String.toList_ofList]
  constructor
  · intro hlast
    cases getLast?_dropEndWhile hlast
  · obtain ⟨back, htext, hback⟩ := exists_dropEndWhile (· == '/') text.toList
    refine ⟨back.length, ?_⟩
    rw [← List.eq_replicate_of_mem fun c hc => eq_of_beq (hback c hc)]
    exact htext

theorem dropEndWhile_slash_eq_self {base : List Char} (h : base.getLast? ≠ some '/') :
    dropEndWhile (· == '/') base = base := by
  refine dropEndWhile_eq_self fun c hc => ?_
  rw [beq_eq_false_iff_ne]
  rintro rfl
  exact h hc

theorem dropSlashes_eq_self {base : String} (h : base.toList.getLast? ≠ some '/') :
    dropSlashes base = base := by
  rw [dropSlashes, dropEndWhile_slash_eq_self h, String.ofList_toList]

theorem getLast?_append_wiki (site : String) : (site ++ "/wiki").toList.getLast? = some 'i' := by
  rw [String.toList_append, List.getLast?_append]
  rfl

/-- The wiki's address as the site's gives it has no slash at its end. -/
theorem dropSlashes_append_wiki (site : String) : dropSlashes (site ++ "/wiki") = site ++ "/wiki" := by
  apply dropSlashes_eq_self
  rw [getLast?_append_wiki]
  decide

/-- The credentials hold what the settings say. -/
structure Credentials.TakenFrom (settings : Settings) (c : Credentials) : Prop where
  username : settings.Says usernameKey c.username
  token : settings.Says tokenKey c.token
  ownUrl : ∀ url, settings.Says urlKey url → WithoutSlashes url c.baseUrl
  /-- Without an address of its own the wiki is below the site's. -/
  siteUrl : ¬ settings.Usable urlKey → ∃ url site, settings.Says siteUrlKey url ∧
    WithoutSlashes url site ∧ c.baseUrl = site ++ "/wiki"
  verifyTls : c.verifyTls = false ↔ member? verifyKey settings = some (.bool false) ∨
    ∃ s, member? verifyKey settings = some (.string s) ∧ (trimmed s).toLower = "false"

namespace Settings

/-- An address, a name and a token can be used. -/
def Suffice (settings : Settings) : Prop :=
  (settings.Usable urlKey ∨ settings.Usable siteUrlKey) ∧ settings.Usable usernameKey ∧
    settings.Usable tokenKey

/-- The keys of what is required and cannot be used, in their order. -/
structure Lack (settings : Settings) (keys : List String) : Prop where
  ordered : keys.Sublist [urlKey, usernameKey, tokenKey]
  url : urlKey ∈ keys ↔ ¬ (settings.Usable urlKey ∨ settings.Usable siteUrlKey)
  username : usernameKey ∈ keys ↔ ¬ settings.Usable usernameKey
  token : tokenKey ∈ keys ↔ ¬ settings.Usable tokenKey

end Settings

variable {settings : Settings}

theorem wikiUrl?_eq_none_iff :
    wikiUrl? settings = none ↔ ¬ (settings.Usable urlKey ∨ settings.Usable siteUrlKey) := by
  rw [not_or, ← settingText?_eq_none_iff, ← settingText?_eq_none_iff, wikiUrl?]
  cases settingText? settings urlKey <;> simp

theorem verifiesTls_eq_false_iff {setting : Option Value} :
    verifiesTls setting = false ↔ setting = some (.bool false) ∨
      ∃ s, setting = some (.string s) ∧ (trimmed s).toLower = "false" := by
  have hlower : "false".toList.map Char.toLower = "false".toList := by decide
  have hfalse (s : String) : sameIgnoringCase (trim s.toList) "false".toList = true ↔
      (trimmed s).toLower = "false" := by
    have hlowered : (trimmed s).toLower.toList = (trim s.toList).map Char.toLower := by
      change (String.map Char.toLower (trimmed s)).toList = _
      rw [String.toList_map, trimmed, String.toList_ofList]
    rw [sameIgnoringCase, beq_iff_eq, hlower, ← String.toList_inj, hlowered]
  cases setting with
  | none => simp [verifiesTls]
  | some value =>
    cases value with
    | string s =>
      rw [verifiesTls, Bool.not_eq_false', hfalse]
      simp
    | _ => simp [verifiesTls]

/-- Credentials that can be made hold what the settings say. -/
theorem takenFrom_of_settingText? {url username token : String}
    (hurl : wikiUrl? settings = some url)
    (husername : settingText? settings usernameKey = some username)
    (htoken : settingText? settings tokenKey = some token) :
    Credentials.TakenFrom settings
      ⟨dropSlashes url, username, token, verifiesTls (member? verifyKey settings)⟩ where
  username := settingText?_eq_some_iff.mp husername
  token := settingText?_eq_some_iff.mp htoken
  ownUrl own hown := by
    rw [wikiUrl?, settingText?_eq_some_iff.mpr hown] at hurl
    obtain rfl := Option.some.inj hurl
    exact withoutSlashes_dropSlashes own
  siteUrl hown := by
    rw [wikiUrl?, settingText?_eq_none_iff.mpr hown] at hurl
    obtain ⟨site, hsite, rfl⟩ := Option.map_eq_some_iff.mp hurl
    exact ⟨site, dropSlashes site, settingText?_eq_some_iff.mp hsite,
      withoutSlashes_dropSlashes site, dropSlashes_append_wiki _⟩
  verifyTls := verifiesTls_eq_false_iff

theorem lack_of_ofSettings {keys : List String}
    (hkeys : keys = ([(urlKey, wikiUrl? settings), (usernameKey, settingText? settings usernameKey),
      (tokenKey, settingText? settings tokenKey)].filter fun entry => entry.2.isNone).map
        Prod.fst) : settings.Lack keys := by
  have hmem (key : String) : key ∈ keys ↔ (key = urlKey ∧ wikiUrl? settings = none) ∨
      (key = usernameKey ∧ settingText? settings usernameKey = none) ∨
      (key = tokenKey ∧ settingText? settings tokenKey = none) := by
    simp only [hkeys, List.mem_map, List.mem_filter, List.mem_cons, List.not_mem_nil, or_false,
      Option.isNone_iff_eq_none]
    constructor
    · rintro ⟨entry, ⟨rfl | rfl | rfl, hnone⟩, rfl⟩
      · exact .inl ⟨rfl, hnone⟩
      · exact .inr (.inl ⟨rfl, hnone⟩)
      · exact .inr (.inr ⟨rfl, hnone⟩)
    · rintro (⟨rfl, hnone⟩ | ⟨rfl, hnone⟩ | ⟨rfl, hnone⟩)
      · exact ⟨_, ⟨.inl rfl, hnone⟩, rfl⟩
      · exact ⟨_, ⟨.inr (.inl rfl), hnone⟩, rfl⟩
      · exact ⟨_, ⟨.inr (.inr rfl), hnone⟩, rfl⟩
  have hdistinct : urlKey ≠ usernameKey ∧ urlKey ≠ tokenKey ∧ usernameKey ≠ tokenKey := by decide
  obtain ⟨husername, htoken, hother⟩ := hdistinct
  refine ⟨?_, ?_, ?_, ?_⟩
  · rw [hkeys]
    exact List.filter_sublist.map Prod.fst
  · simp [hmem, husername, htoken, wikiUrl?_eq_none_iff]
  · simp [hmem, husername.symm, hother, settingText?_eq_none_iff]
  · simp [hmem, htoken.symm, hother.symm, settingText?_eq_none_iff]

/-- Settings suffice and give the credentials that they say, or the keys that they lack are
told. -/
theorem ofSettings_cases (settings : Settings) :
    (settings.Suffice ∧ ∃ c, Credentials.ofSettings settings = .ok c ∧ c.TakenFrom settings) ∨
      ¬ settings.Suffice ∧ ∃ keys, Credentials.ofSettings settings = .error (.missing keys) ∧
        settings.Lack keys := by
  have hsome {key : String} : settings.Usable key ↔ ∃ text, settingText? settings key = some text := by
    simp only [Settings.Usable, settingText?_eq_some_iff]
  have hwiki : settings.Usable urlKey ∨ settings.Usable siteUrlKey ↔
      ∃ url, wikiUrl? settings = some url := by
    rw [← not_iff_not, ← wikiUrl?_eq_none_iff, Option.eq_none_iff_forall_ne_some, not_exists]
  rw [Settings.Suffice, hwiki, hsome, hsome, Credentials.ofSettings]
  split
  · rename_i url username token hurl husername htoken
    exact .inl ⟨⟨⟨url, hurl⟩, ⟨username, husername⟩, ⟨token, htoken⟩⟩, _, rfl,
      takenFrom_of_settingText? hurl husername htoken⟩
  · rename_i hnot
    refine .inr ⟨?_, _, rfl, lack_of_ofSettings rfl⟩
    rintro ⟨⟨url, hurl⟩, ⟨username, husername⟩, ⟨token, htoken⟩⟩
    exact hnot url username token hurl husername htoken

/-! ## The credentials of a server -/

theorem readCredentials_of_read {text server : String} {config : HostConfig}
    (h : HostConfig.read text = .ok config) :
    readCredentials text server = (config.credentials server).mapError .configUnusable := by
  rw [readCredentials, h]

/-- Only the settings of the server matter. -/
theorem readCredentials_of_mem {text server : String} {config : HostConfig}
    (h : HostConfig.read text = .ok config) (hm : (server, settings) ∈ config) :
    readCredentials text server =
      (Credentials.ofSettings settings).mapError .configUnusable := by
  rw [readCredentials_of_read h, HostConfig.credentials,
    (keysSorted_read h).member?_eq_some_iff.mpr hm]

theorem message_missing (keys : List String) :
    (Failure.configUnusable (.missing keys)).message =
      "config error: missing credentials: " ++ ", ".intercalate keys := by
  have hmessage : (Failure.configUnusable (.missing keys)).message =
      "config error: " ++ ("missing credentials: " ++ ", ".intercalate keys) := rfl
  rw [hmessage, ← String.append_assoc]
  rfl

theorem message_unknownServer (name : String) (known : List String) :
    (Failure.configUnusable (.unknownServer name known)).message =
      "config error: server " ++ inCodeQuotes name ++ " not configured (available: " ++
        (if known = [] then "none" else ", ".intercalate known) ++ ")" := by
  have hmessage : (Failure.configUnusable (.unknownServer name known)).message =
      "config error: " ++ ("server " ++ inCodeQuotes name ++ " not configured (available: " ++
        (if known.isEmpty then "none" else ", ".intercalate known) ++ ")") := rfl
  simp only [hmessage, List.isEmpty_iff, ← String.append_assoc, String.reduceAppend]

/-- What a configuration gives for a server, whatever it holds for others. The names of a
configuration stand in order, each once. A server that is not there is told by them. For one
that is there the settings of that server alone decide: if they suffice there are credentials,
which hold what these settings say, and otherwise exactly the keys that they lack are told. -/
theorem readCredentials_by_own_settings {text : String} {config : HostConfig}
    (h : HostConfig.read text = .ok config) (server : String) :
    KeysSorted config ∧
    (server ∉ config.map Prod.fst → ∃ failure, readCredentials text server = .error failure ∧
      failure.code = "E_CONFIG" ∧
      failure.message =
        "config error: server " ++ inCodeQuotes server ++ " not configured (available: " ++
          (if config.map Prod.fst = [] then "none"
            else ", ".intercalate (config.map Prod.fst)) ++ ")") ∧
    ∀ settings, (server, settings) ∈ config →
      (∀ otherText otherConfig, HostConfig.read otherText = .ok otherConfig →
        (server, settings) ∈ otherConfig →
        readCredentials otherText server = readCredentials text server) ∧
      (settings.Suffice → ∃ c, readCredentials text server = .ok c ∧ c.TakenFrom settings) ∧
      (¬ settings.Suffice → ∃ failure keys, readCredentials text server = .error failure ∧
        failure.code = "E_CONFIG" ∧
        failure.message = "config error: missing credentials: " ++ ", ".intercalate keys ∧
        settings.Lack keys) := by
  refine ⟨keysSorted_read h, fun habsent => ?_, fun settings hm => ⟨?_, ?_, ?_⟩⟩
  · refine ⟨.configUnusable (.unknownServer server (config.map Prod.fst)), ?_, rfl,
      message_unknownServer _ _⟩
    rw [readCredentials_of_read h, HostConfig.credentials, member?_eq_none_iff.mpr habsent]
    rfl
  · intro otherText otherConfig hread hother
    rw [readCredentials_of_mem hread hother, readCredentials_of_mem h hm]
  · intro hsuffice
    rcases ofSettings_cases settings with ⟨-, c, hc, htaken⟩ | ⟨hnot, -⟩
    · refine ⟨c, ?_, htaken⟩
      rw [readCredentials_of_mem h hm, hc]
      rfl
    · exact absurd hsuffice hnot
  · intro hlacking
    rcases ofSettings_cases settings with ⟨hsuffice, -⟩ | ⟨-, keys, herror, hlack⟩
    · exact absurd hsuffice hlacking
    · refine ⟨.configUnusable (.missing keys), keys, ?_, rfl, message_missing keys, hlack⟩
      rw [readCredentials_of_mem h hm, herror]
      rfl

/-- The settings of a wiki whose own address is blank, so that the site's counts. -/
def teamSettings : Settings :=
  [(tokenKey, .string "s3cret"), (verifyKey, .string " FALSE "), (urlKey, .string "  "),
    (usernameKey, .string " ann\t"), (siteUrlKey, .string "https://team.example//")]

def blankSettings : Settings := [(usernameKey, .string "\t")]

/-- A host configuration with a server that can be used and one that cannot. -/
def teamHost : Value :=
  .object [("mcpServers", .object [("wiki", .object [("env", .object teamSettings)]),
    ("spare", .object [("env", .object blankSettings)])])]

theorem readCredentials_by_own_settings_teamHost :
    HostConfig.read teamHost.line = .ok [("spare", blankSettings), ("wiki", teamSettings)] ∧
    (∃ c, readCredentials teamHost.line "wiki" = .ok c ∧ c.TakenFrom teamSettings ∧
      c = ⟨"https://team.example/wiki", "ann", "s3cret", false⟩) ∧
    (∃ failure keys, readCredentials teamHost.line "spare" = .error failure ∧
      blankSettings.Lack keys ∧
      failure = .configUnusable (.missing [urlKey, usernameKey, tokenKey])) ∧
    ∃ failure, readCredentials teamHost.line "other" = .error failure ∧
      failure.message =
        "config error: server \x60other\x60 not configured (available: spare, wiki)" := by
  have hread : HostConfig.read teamHost.line =
      .ok [("spare", blankSettings), ("wiki", teamSettings)] := by
    rw [HostConfig.read, ofText_line (rfl : teamHost.tree? = some _)]
    rfl
  have hsuffice : teamSettings.Suffice :=
    ⟨.inr ⟨_, _, rfl, by decide, rfl⟩, ⟨_, _, rfl, by decide, rfl⟩, ⟨_, _, rfl, by decide, rfl⟩⟩
  have hblank : ¬ blankSettings.Suffice := by
    rintro ⟨-, ⟨text, value, hvalue, husable, -⟩, -⟩
    obtain rfl : .string "\t" = value := Option.some.inj hvalue
    exact husable (by decide)
  refine ⟨hread, ?_, ?_, ?_⟩
  · obtain ⟨-, -, hserver⟩ := readCredentials_by_own_settings hread "wiki"
    obtain ⟨-, hok, -⟩ := hserver teamSettings (by simp)
    obtain ⟨c, hc, htaken⟩ := hok hsuffice
    refine ⟨c, hc, htaken, ?_⟩
    rw [readCredentials_of_mem hread (List.mem_cons_of_mem _ (List.mem_singleton_self _))] at hc
    exact (Except.ok.inj hc).symm.trans (by decide)
  · obtain ⟨-, -, hserver⟩ := readCredentials_by_own_settings hread "spare"
    obtain ⟨-, -, herror⟩ := hserver blankSettings (by simp)
    obtain ⟨failure, keys, hfailure, -, -, hlack⟩ := herror hblank
    refine ⟨failure, keys, hfailure, hlack, ?_⟩
    rw [readCredentials_of_mem hread List.mem_cons_self] at hfailure
    exact (Except.error.inj hfailure).symm
  · obtain ⟨-, habsent, -⟩ := readCredentials_by_own_settings hread "other"
    obtain ⟨failure, hfailure, -, hmessage⟩ := habsent (by decide)
    exact ⟨failure, hfailure, hmessage.trans (by decide)⟩

end DesignGraph.Attachment
