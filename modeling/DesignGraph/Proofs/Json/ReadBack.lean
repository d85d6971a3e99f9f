import DesignGraph.Json.Tree
import DesignGraph.Json.Writer

/-!
# What is written is read back

The strict reader reads a written value as its own tree, whatever text follows: a string
ends at its closing quote, since every quote and backslash inside is escaped, and an array
or an object at its closing bracket. So the keys of a printed object stand in the order in
which they were given, and no character is lost.
-/
namespace DesignGraph.Json

/-- A text as the reader gives it: every unit is a whole character. -/
def Literal.ofString (s : String) : Literal := s.toList.map .char

mutual

/-- The tree of a value that is made of strings, arrays and objects, as printed ones are. -/
def Value.tree? : Value → Option Tree
  | .string s => some (.string (.ofString s))
  | .array items => (itemTrees? items).map .array
  | .object members => (memberTrees? members).map .object
  | _ => none

def itemTrees? : List Value → Option (List Tree)
  | [] => some []
  | item :: rest => do return (← item.tree?) :: (← itemTrees? rest)

def memberTrees? : List (String × Value) → Option (List (Literal × Tree))
  | [] => some []
  | (key, value) :: rest => do return (.ofString key, ← value.tree?) :: (← memberTrees? rest)

end

theorem itemTrees?_cons_eq_some {item : Value} {rest : List Value} {trees : List Tree}
    (h : itemTrees? (item :: rest) = some trees) :
    ∃ tree more, item.tree? = some tree ∧ itemTrees? rest = some more ∧ trees = tree :: more := by
  rw [itemTrees?] at h
  obtain ⟨tree, htree, h⟩ := Option.bind_eq_some_iff.mp h
  obtain ⟨more, hmore, h⟩ := Option.bind_eq_some_iff.mp h
  exact ⟨tree, more, htree, hmore, (Option.some.inj h).symm⟩

theorem memberTrees?_cons_eq_some {key : String} {value : Value} {rest : List (String × Value)}
    {trees : List (Literal × Tree)} (h : memberTrees? ((key, value) :: rest) = some trees) :
    ∃ tree more, value.tree? = some tree ∧ memberTrees? rest = some more ∧
      trees = (.ofString key, tree) :: more := by
  rw [memberTrees?] at h
  obtain ⟨tree, htree, h⟩ := Option.bind_eq_some_iff.mp h
  obtain ⟨more, hmore, h⟩ := Option.bind_eq_some_iff.mp h
  exact ⟨tree, more, htree, hmore, (Option.some.inj h).symm⟩

/-- The trees of items that are made alike. -/
theorem itemTrees?_map {α : Type} {f : α → Value} {g : α → Tree} {l : List α}
    (h : ∀ a ∈ l, (f a).tree? = some (g a)) : itemTrees? (l.map f) = some (l.map g) := by
  induction l with
  | nil => rfl
  | cons a rest ih =>
    rw [List.map_cons, itemTrees?, h a List.mem_cons_self,
      ih fun b hb => h b (List.mem_cons_of_mem a hb)]
    rfl

/-! ## Keys -/

theorem Literal.ofString_inj {s t : String} : Literal.ofString s = .ofString t ↔ s = t := by
  refine ⟨fun h => ?_, congrArg _⟩
  have hchars := (List.map_inj_right fun _ _ => Piece.char.inj).mp h
  exact String.toList_inj.mp hchars

/-- The tree is an object that has the key. -/
def Tree.HasKey (tree : Tree) (key : String) : Prop :=
  match tree with
  | .object members => .ofString key ∈ members.map Prod.fst
  | _ => False

/-- The keys stand in the tree as they stand in the value. -/
theorem keys_of_memberTrees? {members : List (String × Value)} {trees : List (Literal × Tree)}
    (h : memberTrees? members = some trees) :
    trees.map Prod.fst = members.map fun m => Literal.ofString m.1 := by
  induction members generalizing trees with
  | nil =>
    cases h
    rfl
  | cons m rest ih =>
    obtain ⟨tree, more, -, hmore, rfl⟩ := memberTrees?_cons_eq_some h
    rw [List.map_cons, List.map_cons, ih hmore]

theorem hasKey_iff {members : List (String × Value)} {tree : Tree} {key : String}
    (h : (Value.object members).tree? = some tree) :
    tree.HasKey key ↔ key ∈ members.map Prod.fst := by
  obtain ⟨trees, htrees, rfl⟩ := Option.map_eq_some_iff.mp h
  rw [Tree.HasKey, keys_of_memberTrees? htrees, List.mem_map, List.mem_map]
  simp only [Literal.ofString_inj]

/-! ## Strings -/

theorem code?_control : ∀ n < 0x20,
    Tree.code? ['0', '0', hexDigit (n / 16), hexDigit n] = some n := by decide +kernel

/-- A written character is read as itself. -/
theorem literal_writeChar (c : Char) (text : List Char) :
    Tree.literal (writeChar c ++ text) = Tree.consPiece (.char c) (Tree.literal text) := by
  unfold writeChar
  split
  · rfl
  · rfl
  · rfl
  · rfl
  · rfl
  · rfl
  · rfl
  · rename_i hquote hbackslash _ _ _ _ _
    split
    · rename_i hcontrol
      have hpiece : Tree.pieceOfCode c.toNat = .char c := by
        rw [Tree.pieceOfCode, if_neg (by omega), Char.ofNat_toNat]
      simp only [List.cons_append, List.nil_append, Tree.literal, code?_control _ hcontrol, hpiece]
    · rename_i hcontrol
      rw [List.singleton_append, Tree.literal.eq_def]
      split
      · rename_i heq
        cases heq
      · rename_i heq
        exact absurd (List.head_eq_of_cons_eq heq) hquote
      · rename_i heq
        exact absurd (List.head_eq_of_cons_eq heq) hbackslash
      · rename_i heq
        exact absurd (List.head_eq_of_cons_eq heq) hbackslash
      · rename_i heq
        cases heq
        rw [if_neg hbackslash, if_neg hcontrol]

theorem literal_flatMap_writeChar (text rest : List Char) :
    Tree.literal (text.flatMap writeChar ++ '"' :: rest) = .ok (text.map .char, rest) := by
  induction text with
  | nil => rfl
  | cons c more ih =>
    rw [List.flatMap_cons, List.append_assoc, literal_writeChar, ih]
    rfl

/-- A written string begins with a quote, and is read up to the one that closes it. -/
theorem exists_writeString_append (s : String) (rest : List Char) :
    ∃ tail, writeString s ++ rest = '"' :: tail ∧ Tree.literal tail = .ok (.ofString s, rest) := by
  refine ⟨_, ?_, literal_flatMap_writeChar s.toList rest⟩
  simp only [writeString, List.cons_append, List.append_assoc, List.nil_append]

/-! ## Values -/

theorem skipSpaces_cons {c : Char} (h : Tree.isSpace c = false) (text : List Char) :
    Tree.skipSpaces (c :: text) = c :: text := by
  rw [Tree.skipSpaces, List.dropWhile_cons, if_neg (by rw [h]; exact Bool.false_ne_true)]

/-- A written value begins with a quote, a bracket or a brace. -/
theorem exists_write_eq_cons {v : Value} {tree : Tree} (h : v.tree? = some tree) :
    ∃ c text, v.write = c :: text ∧ Tree.isSpace c = false ∧ c ≠ ']' := by
  cases v with
  | string s => exact ⟨'"', _, rfl, by decide, by decide⟩
  | array items => exact ⟨'[', _, by rw [Value.write], by decide, by decide⟩
  | object members => exact ⟨'\x7b', _, by rw [Value.write], by decide, by decide⟩
  | null => cases h
  | bool b => cases h
  | number n => cases h

theorem writeItems_cons_cons (item next : Value) (more : List Value) :
    writeItems (item :: next :: more) = item.write ++ ',' :: writeItems (next :: more) := by
  rw [writeItems]
  exact nofun

theorem writeMembers_singleton (key : String) (value : Value) :
    writeMembers [(key, value)] = writeString key ++ (':' :: (value.write ++ ['\x7d'])) := by
  rw [writeMembers, List.append_assoc, List.cons_append]

theorem writeMembers_cons_cons (key : String) (value : Value) (next : String × Value)
    (more : List (String × Value)) :
    writeMembers ((key, value) :: next :: more) =
      writeString key ++ (':' :: (value.write ++ (',' :: writeMembers (next :: more)))) := by
  rw [writeMembers, List.append_assoc, List.cons_append]
  exact nofun

theorem exists_writeItems_eq_cons {item : Value} {c : Char} {text : List Char}
    (h : item.write = c :: text) (more : List Value) :
    ∃ tail, writeItems (item :: more) = c :: tail := by
  cases more with
  | nil => exact ⟨_, by rw [writeItems, h, List.cons_append]⟩
  | cons next more => exact ⟨_, by rw [writeItems_cons_cons, h, List.cons_append]⟩

theorem exists_writeMembers_eq_cons (key : String) (value : Value) (more : List (String × Value)) :
    ∃ tail, writeMembers ((key, value) :: more) = '"' :: tail := by
  cases more with
  | nil => exact ⟨_, by rw [writeMembers_singleton]; rfl⟩
  | cons next more => exact ⟨_, by rw [writeMembers_cons_cons]; rfl⟩

section Steps

variable {fuel : Nat} {text rest tail : List Char} {tree : Tree}

theorem items_last (h : Tree.value fuel text = .ok (tree, ']' :: rest)) :
    Tree.items (fuel + 1) text = .ok ([tree], rest) := by
  rw [Tree.items, h]
  rfl

theorem items_next {trees : List Tree} (h : Tree.value fuel text = .ok (tree, ',' :: tail))
    (hmore : Tree.items fuel tail = .ok (trees, rest)) :
    Tree.items (fuel + 1) text = .ok (tree :: trees, rest) := by
  rw [Tree.items, h]
  simp only [bind, Except.bind, skipSpaces_cons (c := ',') (by decide), hmore]
  rfl

/-- A member is read up to the value that follows its key. -/
theorem members_eq (fuel : Nat) (key : String) (text : List Char) :
    Tree.members (fuel + 1) (writeString key ++ ':' :: text) =
      (Tree.value fuel text).bind fun (item, rest) =>
        match Tree.skipSpaces rest with
        | ',' :: rest =>
          (Tree.members fuel rest).bind fun (more, rest) =>
            .ok ((.ofString key, item) :: more, rest)
        | '\x7d' :: rest => .ok ([(.ofString key, item)], rest)
        | c :: _ => .error (.unexpected c)
        | [] => .error .endOfText := by
  obtain ⟨tail, htext, hkey⟩ := exists_writeString_append key (':' :: text)
  rw [htext, Tree.members, skipSpaces_cons (by decide)]
  simp only [hkey, bind, Except.bind, skipSpaces_cons (c := ':') (by decide)]
  rfl

theorem members_last {key : String} (h : Tree.value fuel text = .ok (tree, '\x7d' :: rest)) :
    Tree.members (fuel + 1) (writeString key ++ ':' :: text) =
      .ok ([(.ofString key, tree)], rest) := by
  rw [members_eq, h]
  rfl

theorem members_next {key : String} {trees : List (Literal × Tree)}
    (h : Tree.value fuel text = .ok (tree, ',' :: tail))
    (hmore : Tree.members fuel tail = .ok (trees, rest)) :
    Tree.members (fuel + 1) (writeString key ++ ':' :: text) =
      .ok ((.ofString key, tree) :: trees, rest) := by
  rw [members_eq, h]
  simp only [Except.bind, skipSpaces_cons (c := ',') (by decide), hmore]

/-- An array that is not empty is read item by item. -/
theorem value_array {c : Char} {trees : List Tree} (hspace : Tree.isSpace c = false)
    (hc : c ≠ ']') (h : Tree.items fuel (c :: text) = .ok (trees, rest)) :
    Tree.value (fuel + 1) ('[' :: c :: text) = .ok (.array trees, rest) := by
  rw [Tree.value, skipSpaces_cons (by decide)]
  simp only [skipSpaces_cons hspace]
  split
  · rename_i heq
    exact absurd (List.head_eq_of_cons_eq heq) hc
  · rw [h]
    rfl

theorem value_object {c : Char} {trees : List (Literal × Tree)} (hspace : Tree.isSpace c = false)
    (hc : c ≠ '\x7d') (h : Tree.members fuel (c :: text) = .ok (trees, rest)) :
    Tree.value (fuel + 1) ('\x7b' :: c :: text) = .ok (.object trees, rest) := by
  rw [Tree.value, skipSpaces_cons (by decide)]
  simp only [skipSpaces_cons hspace]
  split
  · rename_i heq
    exact absurd (List.head_eq_of_cons_eq heq) hc
  · rw [h]
    rfl

end Steps

mutual

/-- The reader reads a written value, whatever follows it. The fuel is counted as the reader
spends it: two for each character of the value. -/
theorem value_write : ∀ (v : Value) {tree : Tree}, v.tree? = some tree →
    ∀ {fuel : Nat}, 2 * v.write.length ≤ fuel → ∀ rest : List Char,
      Tree.value fuel (v.write ++ rest) = .ok (tree, rest)
  | .string s, tree, h, fuel, hfuel, rest => by
    cases h
    obtain ⟨tail, htext, hliteral⟩ := exists_writeString_append s rest
    have hpositive : 0 < (writeString s).length := Nat.succ_pos _
    rw [Value.write] at hfuel ⊢
    obtain ⟨fuel, rfl⟩ : ∃ n, fuel = n + 1 := ⟨fuel - 1, by omega⟩
    have hatom : Tree.atom ('"' :: tail) = .ok (.string (.ofString s), rest) := by
      rw [Tree.atom, hliteral]
      rfl
    rw [htext, Tree.value, skipSpaces_cons (by decide)]
    exact hatom
  | .array [], tree, h, fuel, hfuel, rest => by
    cases h
    rw [Value.write, writeItems, List.length_cons] at hfuel
    obtain ⟨fuel, rfl⟩ : ∃ n, fuel = n + 1 := ⟨fuel - 1, by omega⟩
    rw [Value.write, writeItems, Tree.value]
    rfl
  | .array (item :: more), tree, h, fuel, hfuel, rest => by
    obtain ⟨trees, htrees, rfl⟩ := Option.map_eq_some_iff.mp h
    obtain ⟨first, -, hfirst, -, -⟩ := itemTrees?_cons_eq_some htrees
    obtain ⟨c, text, hwrite, hspace, hc⟩ := exists_write_eq_cons hfirst
    rw [Value.write, List.length_cons] at hfuel
    obtain ⟨fuel, rfl⟩ : ∃ n, fuel = n + 1 := ⟨fuel - 1, by omega⟩
    have hitems : Tree.items fuel (writeItems (item :: more) ++ rest) = .ok (trees, rest) :=
      items_write (item :: more) htrees (List.cons_ne_nil item more) (by omega) rest
    obtain ⟨tail, htail⟩ := exists_writeItems_eq_cons hwrite more
    rw [Value.write, List.cons_append]
    rw [htail, List.cons_append] at hitems ⊢
    exact value_array hspace hc hitems
  | .object [], tree, h, fuel, hfuel, rest => by
    cases h
    rw [Value.write, writeMembers, List.length_cons] at hfuel
    obtain ⟨fuel, rfl⟩ : ∃ n, fuel = n + 1 := ⟨fuel - 1, by omega⟩
    rw [Value.write, writeMembers, Tree.value]
    rfl
  | .object ((key, value) :: more), tree, h, fuel, hfuel, rest => by
    obtain ⟨trees, htrees, rfl⟩ := Option.map_eq_some_iff.mp h
    rw [Value.write, List.length_cons] at hfuel
    obtain ⟨fuel, rfl⟩ : ∃ n, fuel = n + 1 := ⟨fuel - 1, by omega⟩
    have hmembers : Tree.members fuel (writeMembers ((key, value) :: more) ++ rest) =
        .ok (trees, rest) :=
      members_write ((key, value) :: more) htrees (List.cons_ne_nil _ more) (by omega) rest
    obtain ⟨tail, htail⟩ := exists_writeMembers_eq_cons key value more
    rw [Value.write, List.cons_append]
    rw [htail, List.cons_append] at hmembers ⊢
    exact value_object (by decide) (by decide) hmembers
  | .null, tree, h, fuel, hfuel, rest => by cases h
  | .bool b, tree, h, fuel, hfuel, rest => by cases h
  | .number n, tree, h, fuel, hfuel, rest => by cases h

theorem items_write : ∀ (items : List Value) {trees : List Tree},
    itemTrees? items = some trees → items ≠ [] →
    ∀ {fuel : Nat}, 2 * (writeItems items).length < fuel → ∀ rest : List Char,
      Tree.items fuel (writeItems items ++ rest) = .ok (trees, rest)
  | [], trees, h, hne, fuel, hfuel, rest => absurd rfl hne
  | [item], trees, h, hne, fuel, hfuel, rest => by
    obtain ⟨tree, more, htree, hmore, rfl⟩ := itemTrees?_cons_eq_some h
    cases hmore
    obtain ⟨fuel, rfl⟩ : ∃ n, fuel = n + 1 := ⟨fuel - 1, by omega⟩
    rw [writeItems, List.length_append] at hfuel
    rw [writeItems, List.append_assoc]
    exact items_last (value_write item htree (by omega) _)
  | item :: next :: more, trees, h, hne, fuel, hfuel, rest => by
    obtain ⟨tree, trees, htree, hmore, rfl⟩ := itemTrees?_cons_eq_some h
    obtain ⟨fuel, rfl⟩ : ∃ n, fuel = n + 1 := ⟨fuel - 1, by omega⟩
    rw [writeItems_cons_cons, List.length_append, List.length_cons] at hfuel
    rw [writeItems_cons_cons, List.append_assoc]
    exact items_next (value_write item htree (by omega) _)
      (items_write (next :: more) hmore (List.cons_ne_nil next more) (by omega) rest)

theorem members_write : ∀ (members : List (String × Value)) {trees : List (Literal × Tree)},
    memberTrees? members = some trees → members ≠ [] →
    ∀ {fuel : Nat}, 2 * (writeMembers members).length < fuel → ∀ rest : List Char,
      Tree.members fuel (writeMembers members ++ rest) = .ok (trees, rest)
  | [], trees, h, hne, fuel, hfuel, rest => absurd rfl hne
  | [(key, value)], trees, h, hne, fuel, hfuel, rest => by
    obtain ⟨tree, more, htree, hmore, rfl⟩ := memberTrees?_cons_eq_some h
    cases hmore
    obtain ⟨fuel, rfl⟩ : ∃ n, fuel = n + 1 := ⟨fuel - 1, by omega⟩
    rw [writeMembers_singleton, List.length_append, List.length_cons, List.length_append] at hfuel
    rw [writeMembers_singleton, List.append_assoc, List.cons_append, List.append_assoc]
    exact members_last (value_write value htree (by omega) _)
  | (key, value) :: next :: more, trees, h, hne, fuel, hfuel, rest => by
    obtain ⟨tree, trees, htree, hmore, rfl⟩ := memberTrees?_cons_eq_some h
    obtain ⟨fuel, rfl⟩ : ∃ n, fuel = n + 1 := ⟨fuel - 1, by omega⟩
    rw [writeMembers_cons_cons, List.length_append, List.length_cons, List.length_append,
      List.length_cons] at hfuel
    rw [writeMembers_cons_cons, List.append_assoc, List.cons_append, List.append_assoc]
    exact members_next (value_write value htree (by omega) _)
      (members_write (next :: more) hmore (List.cons_ne_nil next more) (by omega) rest)

end

/-- A printed value is read as its own tree. -/
theorem ofText_line {v : Value} {tree : Tree} (h : v.tree? = some tree) :
    Tree.ofText v.line.toList = .ok tree := by
  have hread : Tree.value (2 * v.write.length + 2) (v.write ++ []) = .ok (tree, []) :=
    value_write v h (by omega) []
  rw [List.append_nil] at hread
  rw [Tree.ofText, Value.line, String.toList_ofList, hread]
  rfl

/-! ## Nothing is written as nothing -/

theorem Number.text_ne_nil (n : Number) : n.text ≠ [] := by
  have hmiddle : ∀ (front back : List Char) c, front ++ c :: back ≠ [] := by simp
  rcases n with (n | n) | x
  · exact Nat.toDigits_ne_nil
  · exact List.cons_ne_nil _ _
  · rw [Number.text, Number.binaryText]
    split
    · exact hmiddle _ _ _
    · refine List.append_ne_nil_of_right_ne_nil _ ?_
      split
      · unfold Number.positional
        split
        · exact List.cons_ne_nil _ _
        · exact hmiddle _ _ _
      · exact hmiddle _ _ _

/-- No value is written as nothing. -/
theorem Value.line_ne_empty (value : Value) : value.line ≠ "" := by
  have hwrite : value.write ≠ [] := by
    cases value with
    | null => decide
    | bool b => cases b <;> decide
    | number n => exact Number.text_ne_nil n
    | string s => exact List.cons_ne_nil _ _
    | array items => exact List.cons_ne_nil _ _
    | object members => exact List.cons_ne_nil _ _
  intro h
  rw [Value.line, ← String.toList_inj, String.toList_ofList] at h
  exact hwrite h

end DesignGraph.Json
