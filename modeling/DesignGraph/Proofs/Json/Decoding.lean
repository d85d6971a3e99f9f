import DesignGraph.Json.Reader
import DesignGraph.Proofs.Json.ReadBack

/-!
# Decoding what was printed

Decoders that know nothing of the writer: a string, a list, an object with these keys in
this order and no others. A value is written as something when a strict reader of its line
and such a decoder give that back, and then the line holds no control character.
-/
namespace DesignGraph.Json

/-! ## Decoders -/

namespace Tree

def string? : Tree → Option String
  | .string s => s.text.toOption
  | _ => none

/-- A list whose items are decoded alike. -/
def list? {α : Type} (decode : Tree → Option α) : Tree → Option (List α)
  | .array items => items.mapM decode
  | _ => none

/-- What an object holds that has exactly these keys, in this order. -/
def fields? (keys : List String) : Tree → Option (List Tree)
  | .object members =>
    if members.mapM (fun member => member.1.text.toOption) = some keys then
      some (members.map Prod.snd)
    else none
  | _ => none

section Objects

variable {α β γ : Type} (decodeFirst : Tree → Option α) (decodeSecond : Tree → Option β)
  (decodeThird : Tree → Option γ)

/-- What an object holds under its two keys. -/
def pair? (first second : String) (tree : Tree) : Option (α × β) :=
  match tree.fields? [first, second] with
  | some [a, b] => do return (← decodeFirst a, ← decodeSecond b)
  | _ => none

def triple? (first second third : String) (tree : Tree) : Option (α × β × γ) :=
  match tree.fields? [first, second, third] with
  | some [a, b, c] => do return (← decodeFirst a, ← decodeSecond b, ← decodeThird c)
  | _ => none

end Objects

end Tree

/-- The value is written as something that the decoder gives back. -/
def Value.Writes {α : Type} (v : Value) (decode : Tree → Option α) (a : α) : Prop :=
  ∃ tree, v.tree? = some tree ∧ decode tree = some a

theorem Literal.text_ofString (s : String) : (Literal.ofString s).text = .ok s := by
  have hchars : ∀ chars : List Char, Literal.chars? (chars.map .char) = some chars := by
    intro chars
    induction chars with
    | nil => rfl
    | cons c rest ih => rw [List.map_cons, Literal.chars?, ih, Option.map_some]
  rw [text, ofString, hchars]
  exact congrArg Except.ok String.ofList_toList

/-- The keys of an object are those of the members it was written from, in their order. -/
theorem fields?_of_memberTrees? {members : List (String × Value)} {trees : List (Literal × Tree)}
    (h : memberTrees? members = some trees) (keys : List String) :
    (Tree.object trees).fields? keys =
      if members.map Prod.fst = keys then some (trees.map Prod.snd) else none := by
  have hkeys : trees.mapM (fun tree => tree.1.text.toOption) = some (members.map Prod.fst) := by
    induction members generalizing trees with
    | nil =>
      cases h
      rfl
    | cons member rest ih =>
      obtain ⟨tree, more, -, hmore, rfl⟩ := memberTrees?_cons_eq_some h
      rw [List.mapM_cons, Literal.text_ofString, ih hmore]
      rfl
  simp only [Tree.fields?, hkeys, Option.some.injEq]

namespace Value.Writes

variable {α β γ : Type} {u v w : Value} {decodeFirst : Tree → Option α}
  {decodeSecond : Tree → Option β} {decodeThird : Tree → Option γ} {a : α} {b : β} {c : γ}

theorem map (h : v.Writes decodeFirst a) (f : α → β) :
    v.Writes (fun tree => (decodeFirst tree).map f) (f a) := by
  obtain ⟨tree, htree, hdecode⟩ := h
  exact ⟨tree, htree, congrArg (Option.map f) hdecode⟩

theorem pair (first second : String) (hv : v.Writes decodeFirst a) (hw : w.Writes decodeSecond b) :
    (Value.object [(first, v), (second, w)]).Writes
      (Tree.pair? decodeFirst decodeSecond first second) (a, b) := by
  obtain ⟨x, hx, ha⟩ := hv
  obtain ⟨y, hy, hb⟩ := hw
  have htrees : memberTrees? [(first, v), (second, w)] =
      some [(.ofString first, x), (.ofString second, y)] := by
    simp [memberTrees?, hx, hy]
  refine ⟨_, congrArg (Option.map Tree.object) htrees, ?_⟩
  simp [Tree.pair?, fields?_of_memberTrees? htrees, ha, hb]

end Value.Writes

/-- The text holds no control character, so it is one line. -/
def IsOneLine (text : List Char) : Prop := ∀ c ∈ text, 0x20 ≤ c.toNat

instance (text : List Char) : Decidable (IsOneLine text) :=
  decidable_of_iff (text.all fun c => 0x20 ≤ c.toNat) (by simp [IsOneLine])

theorem isOneLine_append {a b : List Char} (ha : IsOneLine a) (hb : IsOneLine b) :
    IsOneLine (a ++ b) := by
  intro c hc
  rcases List.mem_append.mp hc with hc | hc
  · exact ha c hc
  · exact hb c hc

theorem isOneLine_cons {c : Char} {text : List Char} (hc : 0x20 ≤ c.toNat) (h : IsOneLine text) :
    IsOneLine (c :: text) := by
  intro d hd
  rcases List.mem_cons.mp hd with rfl | hd
  · exact hc
  · exact h d hd

theorem isOneLine_writeChar (c : Char) : IsOneLine (writeChar c) := by
  have hescape : ∀ n < 0x20, IsOneLine ['\\', 'u', '0', '0', hexDigit (n / 16), hexDigit n] := by
    decide +kernel
  unfold writeChar
  split
  · decide
  · decide
  · decide
  · decide
  · decide
  · decide
  · decide
  · split
    · rename_i hcontrol
      exact hescape c.toNat hcontrol
    · rename_i hcontrol
      intro d hd
      rw [List.mem_singleton.mp hd]
      omega

theorem isOneLine_writeString (s : String) : IsOneLine (writeString s) := by
  have hquote : IsOneLine ['"'] := by decide
  refine isOneLine_cons (by decide) (isOneLine_append ?_ hquote)
  intro c hc
  obtain ⟨d, -, hc⟩ := List.mem_flatMap.mp hc
  exact isOneLine_writeChar d c hc

mutual

/-- A value made of strings, arrays and objects is written on one line. -/
theorem isOneLine_write : ∀ (v : Value) {tree : Tree}, v.tree? = some tree → IsOneLine v.write
  | .string s, tree, h => by
    rw [Value.write]
    exact isOneLine_writeString s
  | .array items, tree, h => by
    obtain ⟨trees, htrees, -⟩ := Option.map_eq_some_iff.mp h
    rw [Value.write]
    exact isOneLine_cons (by decide) (isOneLine_writeItems items htrees)
  | .object members, tree, h => by
    obtain ⟨trees, htrees, -⟩ := Option.map_eq_some_iff.mp h
    rw [Value.write]
    exact isOneLine_cons (by decide) (isOneLine_writeMembers members htrees)
  | .null, tree, h => by cases h
  | .bool b, tree, h => by cases h
  | .number n, tree, h => by cases h

theorem isOneLine_writeItems : ∀ (items : List Value) {trees : List Tree},
    itemTrees? items = some trees → IsOneLine (writeItems items)
  | [], trees, h => by
    rw [writeItems]
    decide
  | [item], trees, h => by
    obtain ⟨tree, more, htree, -, -⟩ := itemTrees?_cons_eq_some h
    rw [writeItems]
    exact isOneLine_append (isOneLine_write item htree) (by decide)
  | item :: next :: more, trees, h => by
    obtain ⟨tree, trees, htree, hmore, -⟩ := itemTrees?_cons_eq_some h
    rw [writeItems_cons_cons]
    exact isOneLine_append (isOneLine_write item htree)
      (isOneLine_cons (by decide) (isOneLine_writeItems (next :: more) hmore))

theorem isOneLine_writeMembers :
    ∀ (members : List (String × Value)) {trees : List (Literal × Tree)},
    memberTrees? members = some trees → IsOneLine (writeMembers members)
  | [], trees, h => by
    rw [writeMembers]
    decide
  | [(key, value)], trees, h => by
    obtain ⟨tree, more, htree, -, -⟩ := memberTrees?_cons_eq_some h
    rw [writeMembers_singleton]
    exact isOneLine_append (isOneLine_writeString key)
      (isOneLine_cons (by decide) (isOneLine_append (isOneLine_write value htree) (by decide)))
  | (key, value) :: next :: more, trees, h => by
    obtain ⟨tree, trees, htree, hmore, -⟩ := memberTrees?_cons_eq_some h
    rw [writeMembers_cons_cons]
    exact isOneLine_append (isOneLine_writeString key)
      (isOneLine_cons (by decide) (isOneLine_append (isOneLine_write value htree)
        (isOneLine_cons (by decide) (isOneLine_writeMembers (next :: more) hmore))))

end

/-- The line of a value is one line, and a strict reader and the decoder give back what it
was written for. -/
theorem Value.Writes.line {α : Type} {v : Value} {decode : Tree → Option α} {a : α}
    (h : v.Writes decode a) :
    IsOneLine v.line.toList ∧
      ∃ tree, Tree.ofText v.line.toList = .ok tree ∧ decode tree = some a := by
  obtain ⟨tree, htree, hdecode⟩ := h
  refine ⟨?_, tree, ofText_line htree, hdecode⟩
  rw [Value.line, String.toList_ofList]
  exact isOneLine_write v htree

end DesignGraph.Json
