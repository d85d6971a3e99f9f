import DesignGraph.Address.Url
import DesignGraph.Proofs.Text.Pieces

/-!
# The fields of a query

A query is read here as forms are: fields between ampersands, in each a name and a value around
the first equals sign, plus signs for spaces, and percent signs for bytes. A field that is added
to an address is read after those that were there, whatever its name and value are.
-/
namespace DesignGraph.Address

open Text

/-- The bytes of a name or a value. -/
def formBytes (text : List Char) : Bytes :=
  percentDecode (text.map fun c => if c = '+' then ' ' else c)

/-- The name and the value before and after the first equals sign. -/
def formField (text : List Char) : Bytes × Bytes :=
  (formBytes (text.takeWhile (· ≠ '=')), formBytes ((text.dropWhile (· ≠ '=')).drop 1))

/-- The names and values of a query, in order. -/
def formFields (query : Option (List Char)) : List (Bytes × Bytes) :=
  ((pieces '&' (query.getD [])).filter (· ≠ [])).map formField

/-! ## What encoding leaves -/

theorem isHexDigit_upperHexDigit (n : Nat) :
    upperHexDigit n ∈ "0123456789ABCDEF".toList ∧
      digitValue? 16 (upperHexDigit n) = some (n % 16) := by
  have hdigits : ∀ d < 16, upperHexDigit d ∈ "0123456789ABCDEF".toList ∧
      digitValue? 16 (upperHexDigit d) = some d := by decide +kernel
  have hmod : upperHexDigit n = upperHexDigit (n % 16) := by
    rw [upperHexDigit, upperHexDigit, Nat.mod_mod]
  rw [hmod]
  exact hdigits _ (Nat.mod_lt n (by decide))

/-- What is written in the place of a text is not refused, or belongs to the writing of a byte. -/
theorem mem_percentEncode {refused : Char → Bool} {text : List Char} {d : Char}
    (h : d ∈ percentEncode refused text) :
    refused d = false ∨ d ∈ "%0123456789ABCDEF".toList := by
  obtain ⟨c, -, hd⟩ := List.mem_flatMap.mp h
  by_cases hc : refused c
  · rw [if_pos hc] at hd
    obtain ⟨b, -, hb⟩ := List.mem_flatMap.mp hd
    rw [percentByte, List.mem_cons, List.mem_cons, List.mem_singleton] at hb
    right
    rcases hb with rfl | rfl | rfl
    · decide
    · exact List.mem_cons_of_mem '%' (isHexDigit_upperHexDigit _).1
    · exact List.mem_cons_of_mem '%' (isHexDigit_upperHexDigit _).1
  · rw [if_neg hc, List.mem_singleton] at hd
    left
    rw [hd, Bool.eq_false_iff]
    exact hc

/-- An encoded text holds none of the signs of a form. -/
theorem not_mem_formEncode {c : Char} (hc : c = '&' ∨ c = '=') (text : List Char) :
    c ∉ formEncode text := by
  intro h
  obtain ⟨d, hd, hdc⟩ := List.mem_map.mp h
  have hdc : d = c := by
    by_cases hspace : d = ' '
    · rw [if_pos hspace] at hdc
      rcases hc with rfl | rfl <;> cases hdc
    · rwa [if_neg hspace] at hdc
  rcases hc with rfl | rfl <;> subst hdc <;> rcases mem_percentEncode hd with h | h <;>
    revert h <;> decide

/-! ## Reading back -/

theorem percentDecode_cons_of_ne {c : Char} (h : c ≠ '%') (rest : List Char) :
    percentDecode (c :: rest) = String.utf8EncodeChar c ++ percentDecode rest := by
  rw [percentDecode]
  intro high low more heq
  exact absurd heq h

/-- A byte is read back from its percent sign and digits. -/
theorem percentDecode_percentByte (b : UInt8) (rest : List Char) :
    percentDecode (percentByte b ++ rest) = b :: percentDecode rest := by
  have hhigh := (isHexDigit_upperHexDigit (b.toNat / 16)).2
  have hlow := (isHexDigit_upperHexDigit b.toNat).2
  have hb : b.toNat < 256 := b.toNat_lt
  have hvalue : b.toNat / 16 % 16 * 16 + b.toNat % 16 = b.toNat := by omega
  rw [percentByte, List.cons_append, List.cons_append, List.cons_append, List.nil_append,
    percentDecode, hhigh, hlow]
  simp only [hvalue, UInt8.ofNat_toNat]

theorem percentDecode_percentBytes (bytes : Bytes) (rest : List Char) :
    percentDecode (bytes.flatMap percentByte ++ rest) = bytes ++ percentDecode rest := by
  induction bytes with
  | nil => rfl
  | cons b more ih =>
    rw [List.flatMap_cons, List.append_assoc, percentDecode_percentByte, ih, List.cons_append]

/-- A text whose percent signs were refused is read back. -/
theorem percentDecode_percentEncode {refused : Char → Bool} (h : refused '%' = true)
    (text : List Char) :
    percentDecode (percentEncode refused text) = text.flatMap String.utf8EncodeChar := by
  induction text with
  | nil => rfl
  | cons c rest ih =>
    rw [percentEncode, List.flatMap_cons, ← percentEncode, List.flatMap_cons, ← ih]
    by_cases hc : refused c
    · rw [if_pos hc, percentChar, percentDecode_percentBytes]
    · have hne : c ≠ '%' := by
        rintro rfl
        exact hc h
      rw [if_neg hc, List.singleton_append, percentDecode_cons_of_ne hne]

/-- A name or a value is read back as its bytes. -/
theorem formBytes_formEncode (text : String) : formBytes (formEncode text.toList) = utf8 text := by
  have hspaces : (formEncode text.toList).map (fun c => if c = '+' then ' ' else c) =
      percentEncode refusedInForm text.toList := by
    rw [formEncode, List.map_map]
    refine (List.map_congr_left fun c hc => ?_).trans (List.map_id _)
    have hplus : c ≠ '+' := by
      rintro rfl
      rcases mem_percentEncode hc with h | h <;> revert h <;> decide
    by_cases hspace : c = ' '
    · simp [hspace]
    · simp [hspace, hplus]
  rw [formBytes, hspaces, percentDecode_percentEncode (by decide), utf8]

/-- A field is read back from its name and value. -/
theorem formField_encoded (name value : String) :
    formField (formEncode name.toList ++ '=' :: formEncode value.toList) =
      (utf8 name, utf8 value) := by
  have hname : ∀ c ∈ formEncode name.toList, decide (c ≠ '=') = true := by
    intro c hc
    refine decide_eq_true ?_
    rintro rfl
    exact not_mem_formEncode (.inr rfl) name.toList hc
  rw [formField, List.takeWhile_append_of_pos hname, List.dropWhile_append_of_pos hname,
    List.takeWhile_cons_of_neg (by decide), List.dropWhile_cons_of_neg (by decide),
    List.append_nil, List.drop_one, List.tail_cons, formBytes_formEncode, formBytes_formEncode]

/-- A field that is added is read after the others. -/
theorem formFields_addField (url : Url) (name value : String) :
    formFields (url.addField name value).query =
      formFields url.query ++ [(utf8 name, utf8 value)] := by
  obtain ⟨field, hfield⟩ :
      ∃ field, formEncode name.toList ++ '=' :: formEncode value.toList = field := ⟨_, rfl⟩
  have hone : pieces '&' field = [field] := by
    refine pieces_of_not_mem fun h => ?_
    rw [← hfield, List.mem_append, List.mem_cons] at h
    rcases h with h | h | h
    · exact not_mem_formEncode (.inl rfl) name.toList h
    · revert h
      decide
    · exact not_mem_formEncode (.inl rfl) value.toList h
  have hne : field ≠ [] := by
    rw [← hfield]
    exact List.append_ne_nil_of_right_ne_nil _ (List.cons_ne_nil _ _)
  have hread : (([field] : List (List Char)).filter (· ≠ [])).map formField =
      [(utf8 name, utf8 value)] := by
    have hkept : ([field] : List (List Char)).filter (· ≠ []) = [field] := by simp [hne]
    rw [hkept, List.map_singleton, ← hfield, formField_encoded]
  rw [Url.addField]
  simp only [hfield]
  split
  · rename_i c rest hquery
    rw [hquery, formFields, Option.getD_some, pieces_append_separator, hone, List.filter_append,
      List.map_append, hread]
    rfl
  · rename_i hempty
    have hnone : formFields url.query = [] := by
      cases hquery : url.query with
      | none => rfl
      | some query =>
        cases query with
        | nil => rfl
        | cons c rest => exact absurd hquery (hempty c rest)
    rw [hnone, formFields, Option.getD_some, hone, hread, List.nil_append]

end DesignGraph.Address
