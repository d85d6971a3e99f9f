import DesignGraph.Attachment.Client
import DesignGraph.Proofs.Attachment.HostConfig
import DesignGraph.Proofs.Json.Ends

/-!
# The address below which the client asks

Credentials hold an address without slashes at its end and without blanks before it, and the
addresses of attachments are that address with more after it. Blanks are trimmed before the
slashes are taken off and not again: slashes behind a blank, or with nothing before them,
leave an address that ends in a blank or is empty. This happens to the wiki's own address
alone, and only if it is a string.
-/
namespace DesignGraph.Attachment

open Text Json

/-! ## Slashes at the end -/

/-- The slashes at the end of the text stand behind a blank, or nothing stands before them. -/
def HasLooseSlashes (text : List Char) : Prop :=
  ∃ front n, text = front ++ List.replicate (n + 1) '/' ∧
    ∀ c, front.getLast? = some c → isBlank c = true

theorem dropEndWhile_append_slashes {base : List Char} (h : base.getLast? ≠ some '/') (n : Nat) :
    dropEndWhile (· == '/') (base ++ List.replicate n '/') = base := by
  induction n with
  | zero => rw [List.replicate_zero, List.append_nil, dropEndWhile_slash_eq_self h]
  | succ n ih =>
    rw [List.replicate_succ', ← List.append_assoc, dropEndWhile_append_of_pos _ (by decide), ih]

namespace WithoutSlashes

variable {text base : String} (h : WithoutSlashes text base)
include h

/-- Text before slashes that does not end in one is the base. -/
theorem eq_base {front : List Char} {n : Nat} (hfront : front.getLast? ≠ some '/')
    (htext : text.toList = front ++ List.replicate n '/') : front = base.toList := by
  obtain ⟨hbase, m, hm⟩ := h
  rw [← dropEndWhile_append_slashes hfront n, ← htext, hm, dropEndWhile_append_slashes hbase m]

theorem eq_dropSlashes : base = dropSlashes text := by
  obtain ⟨hlast, n, htext⟩ := withoutSlashes_dropSlashes text
  exact String.toList_inj.mp (h.eq_base hlast htext).symm

/-- The base begins as the text does. -/
theorem head?_base {c : Char} (hc : base.toList.head? = some c) : text.toList.head? = some c := by
  obtain ⟨-, n, htext⟩ := h
  rw [htext, List.head?_append, hc]
  rfl

/-- Of a trimmed text a trimmed base is left, unless its slashes are loose. -/
theorem isTrimmed_base_iff (htrim : IsTrimmed text) :
    IsTrimmed base ↔ ¬ HasLooseSlashes text.toList := by
  obtain ⟨-, hhead, hlast⟩ := isTrimmed_iff_ends.mp htrim
  constructor
  · rintro hbase ⟨front, n, htext, hblank⟩
    have hfront : front.getLast? ≠ some '/' := fun hslash => absurd (hblank '/' hslash) (by decide)
    obtain rfl := h.eq_base hfront htext
    obtain ⟨hne, -, hproper⟩ := isTrimmed_iff_ends.mp hbase
    have hend := List.getLast?_eq_some_getLast hne
    have hisBlank := hblank _ hend
    rw [hproper _ hend] at hisBlank
    cases hisBlank
  · intro hloose
    obtain ⟨-, n, htext⟩ := id h
    cases n with
    | zero =>
      -- no slashes, so the base is the text itself
      rw [List.replicate_zero, List.append_nil, String.toList_inj] at htext
      exact htext ▸ htrim
    | succ n =>
      have hend : ∃ c, base.toList.getLast? = some c ∧ isBlank c = false := by
        by_contra hnone
        refine hloose ⟨base.toList, n, htext, fun c hc => ?_⟩
        by_contra hblank
        exact hnone ⟨c, hc, by simpa using hblank⟩
      obtain ⟨c, hc, hblank⟩ := hend
      refine isTrimmed_iff_ends.mpr ⟨?_, fun d hd => hhead d (h.head?_base hd), fun d hd => ?_⟩
      · intro hnil
        rw [hnil] at hc
        cases hc
      · rw [hc] at hd
        exact Option.some.inj hd ▸ hblank

end WithoutSlashes

/-! ## What settings say -/

variable {settings : Settings}

theorem isTrimmed_trimmed {s : String} (h : trimmed s ≠ "") : IsTrimmed (trimmed s) := by
  have htrim : trimmed (trimmed s) = trimmed s := by
    rw [trimmed, trimmed, String.toList_ofList, trim, trim, trimWhile_trimWhile]
  exact ⟨htrim, htrim.symm ▸ h⟩

theorem isTrimmed_line (value : Value) : IsTrimmed value.line := by
  have hwrite : value.line.toList = value.write := String.toList_ofList
  rw [isTrimmed_iff_ends, hwrite]
  refine ⟨fun hnil => ?_, fun c hc => ?_, fun c hc => ?_⟩
  · rw [← hwrite, String.toList_eq_nil_iff] at hnil
    exact value.line_ne_empty hnil
  · exact (Value.isProper_of_end (.inl hc)).1
  · exact (Value.isProper_of_end (.inr hc)).1

/-- What a setting says is trimmed. -/
theorem Settings.Says.isTrimmed {key text : String} (h : settings.Says key text) :
    IsTrimmed text := by
  obtain ⟨value, -, husable, rfl⟩ := h
  cases value with
  | null => cases husable
  | string s => exact isTrimmed_trimmed husable
  | _ => exact isTrimmed_line _

theorem not_hasLooseSlashes_line (value : Value) : ¬ HasLooseSlashes value.line.toList := by
  rintro ⟨front, n, hline, -⟩
  have hlast : value.write.getLast? = some '/' := by
    rw [← String.toList_ofList (l := value.write), ← Value.line, hline, List.replicate_succ',
      ← List.append_assoc, List.getLast?_concat]
  exact (Value.isProper_of_end (.inr hlast)).2 rfl

/-- The setting is a string with loose slashes at its end, blanks around it aside. -/
def Settings.HasLooseSlashes (settings : Settings) (key : String) : Prop :=
  ∃ s, member? key settings = some (.string s) ∧ Attachment.HasLooseSlashes (trimmed s).toList

/-- Only a string says something with loose slashes. -/
theorem Settings.Says.hasLooseSlashes_iff {key text : String} (h : settings.Says key text) :
    settings.HasLooseSlashes key ↔ Attachment.HasLooseSlashes text.toList := by
  obtain ⟨value, hvalue, husable, rfl⟩ := h
  rw [Settings.HasLooseSlashes, hvalue]
  cases value with
  | null => cases husable
  | string s => simp [settingText]
  | _ => simp [settingText, not_hasLooseSlashes_line]

/-- A setting with loose slashes counts. -/
theorem Settings.HasLooseSlashes.usable {key : String} (h : settings.HasLooseSlashes key) :
    settings.Usable key := by
  obtain ⟨s, hs, front, n, htext, -⟩ := h
  refine ⟨trimmed s, .string s, hs, ?_, rfl⟩
  intro hempty
  rw [hempty] at htext
  simp at htext

/-! ## The base of the addresses -/

theorem head?_append_wiki (site : String) :
    (site ++ "/wiki").toList.head? = some (site.toList.head?.getD '/') := by
  rw [String.toList_append]
  cases site.toList <;> rfl

/-- The base of accepted settings: how it begins and ends. -/
theorem Credentials.TakenFrom.baseUrl_ends {c : Credentials} (h : c.TakenFrom settings) :
    c.baseUrl.toList.getLast? ≠ some '/' ∧
      (∀ ch, c.baseUrl.toList.head? = some ch → isBlank ch = false) ∧
      (IsTrimmed c.baseUrl ↔ ¬ settings.HasLooseSlashes urlKey) := by
  by_cases hown : settings.Usable urlKey
  · obtain ⟨url, hurl⟩ := hown
    have hbase := h.ownUrl url hurl
    have htrim := hurl.isTrimmed
    refine ⟨hbase.1, fun ch hch => ?_, ?_⟩
    · exact (isTrimmed_iff_ends.mp htrim).2.1 ch (hbase.head?_base hch)
    · rw [hbase.isTrimmed_base_iff htrim, hurl.hasLooseSlashes_iff]
  · obtain ⟨url, site, hurl, hwithout, hbase⟩ := h.siteUrl hown
    have hlast := getLast?_append_wiki site
    have hfirst : isBlank (site.toList.head?.getD '/') = false := by
      cases hs : site.toList.head? with
      | none => rfl
      | some c => exact (isTrimmed_iff_ends.mp hurl.isTrimmed).2.1 c (hwithout.head?_base hs)
    have htrim : IsTrimmed c.baseUrl := by
      rw [hbase, isTrimmed_iff_ends, head?_append_wiki, hlast]
      refine ⟨fun hnil => ?_, fun ch hch => ?_, fun ch hch => ?_⟩
      · rw [hnil] at hlast
        cases hlast
      · exact Option.some.inj hch ▸ hfirst
      · exact Option.some.inj hch ▸ rfl
    refine ⟨?_, (isTrimmed_iff_ends.mp htrim).2.1, ?_⟩
    · rw [hbase, hlast]
      decide
    · exact iff_of_true htrim fun hloose => hown hloose.usable

/-- Accepted settings give an address that does not end in a slash and does not begin with a
blank, and that the addresses of attachments begin with as it is. It is not empty and does not
end in a blank either, exactly unless the wiki's own address is a string that has its last
slashes behind a blank or nothing before them. -/
theorem accepted_baseUrl_isTrimmed_unless_loose {c : Credentials}
    (h : Credentials.ofSettings settings = .ok c) :
    c.baseUrl.toList.getLast? ≠ some '/' ∧
    (∀ ch, c.baseUrl.toList.head? = some ch → isBlank ch = false) ∧
    (∀ page, attachmentsUrl c.baseUrl page =
      c.baseUrl ++ "/rest/api/content/" ++ page ++ "/child/attachment") ∧
    (IsTrimmed c.baseUrl ↔ ¬ settings.HasLooseSlashes urlKey) := by
  rcases ofSettings_cases settings with ⟨-, taken, hok, htaken⟩ | ⟨-, keys, herror, -⟩
  · obtain rfl : taken = c := by
      rw [h] at hok
      exact (Except.ok.inj hok).symm
    obtain ⟨hlast, hhead, htrim⟩ := htaken.baseUrl_ends
    refine ⟨hlast, hhead, fun page => ?_, htrim⟩
    rw [attachmentsUrl, dropSlashes_eq_self hlast]
  · rw [h] at herror
    cases herror

/-- Settings with an address of the wiki's own. -/
def ownUrlSettings (url : String) : Settings :=
  [(urlKey, .string url), (usernameKey, .string "ann"), (tokenKey, .string "s3cret")]

theorem accepted_baseUrl_isTrimmed_unless_loose_team :
    Credentials.ofSettings (ownUrlSettings "\thttps://team.example/wiki// ") =
      .ok ⟨"https://team.example/wiki", "ann", "s3cret", true⟩ ∧
    ¬ (ownUrlSettings "\thttps://team.example/wiki// ").HasLooseSlashes urlKey ∧
    attachmentsUrl "https://team.example/wiki" "7" =
      "https://team.example/wiki" ++ "/rest/api/content/" ++ "7" ++ "/child/attachment" := by
  have h : Credentials.ofSettings (ownUrlSettings "\thttps://team.example/wiki// ") =
      .ok ⟨"https://team.example/wiki", "ann", "s3cret", true⟩ := by rfl
  obtain ⟨-, -, hattachments, htrim⟩ := accepted_baseUrl_isTrimmed_unless_loose h
  exact ⟨h, htrim.mp (by decide +kernel), hattachments "7"⟩

/-- An address of slashes alone is accepted and leaves nothing, and one with a blank before
its slash is accepted and leaves the blank. -/
theorem loose_slashes_leave_no_trimmed_baseUrl :
    Credentials.ofSettings (ownUrlSettings "/") = .ok ⟨"", "ann", "s3cret", true⟩ ∧
    attachmentsUrl "" "7" = "/rest/api/content/7/child/attachment" ∧
    Credentials.ofSettings (ownUrlSettings "https://team.example /") =
      .ok ⟨"https://team.example ", "ann", "s3cret", true⟩ ∧
    trimmed "https://team.example " ≠ "https://team.example " := by
  refine ⟨by rfl, by decide +kernel, by rfl, by decide +kernel⟩

end DesignGraph.Attachment
