import DesignGraph.Proofs.Files.Operations

/-!
# Trees that look alike

What a file holds, and whether it can be run, matters only to whoever reads it. Trees with
their directories and files at the same places walk the same paths and refuse the same renames.
-/
namespace DesignGraph.Files

/-- Both are directories, or both are files. -/
inductive Entry.SameKind : Entry → Entry → Prop
  | directory : SameKind .directory .directory
  | file (content : Text.Bytes) (executable : Bool) (content' : Text.Bytes) (executable' : Bool) :
    SameKind (.file content executable) (.file content' executable')

namespace FileTree

/-- Every place is free in both trees or taken by entries of one kind, and the same is held. -/
structure Alike (a b : FileTree) : Prop where
  start : b.start = a.start
  kind : ∀ place, Option.Rel Entry.SameKind (a.entry? place) (b.entry? place)
  refusal? : ∀ place, b.refusal? place = a.refusal? place

theorem rel_sameKind_refl (entry : Option Entry) : Option.Rel Entry.SameKind entry entry := by
  cases entry with
  | none => exact .none
  | some entry =>
    cases entry with
    | directory => exact .some .directory
    | file content executable => exact .some (.file content executable content executable)

theorem Same.alike {a b : FileTree} (h : Same a b) : Alike a b := by
  refine ⟨h.start, fun place => ?_, h.refusal?⟩
  rw [h.entry?]
  exact rel_sameKind_refl _

namespace Alike

variable {a b : FileTree}

theorem isSome_entry? (h : Alike a b) (place : Place) :
    (b.entry? place).isSome = (a.entry? place).isSome := by
  have hkind := h.kind place
  generalize a.entry? place = x, b.entry? place = y at hkind ⊢
  cases hkind <;> rfl

theorem walk (h : Alike a b) (place : Place) (names : List String) :
    b.walk place names = a.walk place names := by
  induction names generalizing place with
  | nil => rfl
  | cons part rest ih =>
    have hkind := h.kind place
    rw [FileTree.walk, FileTree.walk, h.isSome_entry?, ih, ih, ih]
    generalize a.entry? place = x, b.entry? place = y at hkind ⊢
    cases hkind with
    | none => rfl
    | some hsame => cases hsame <;> rfl

theorem target (h : Alike a b) (path : String) : b.target path = a.target path := by
  simp only [FileTree.target, origin_congr h.start, h.walk]

theorem hasChildren (h : Alike a b) (place : Place) :
    b.hasChildren place = a.hasChildren place := by
  rw [Bool.eq_iff_iff, hasChildren_iff, hasChildren_iff]
  simp only [h.isSome_entry?]

/-- An entry is kept from a place by the same fault, whatever the files hold. -/
theorem replaceFault? (h : Alike a b) {entry entry' : Entry} (hentry : entry.SameKind entry')
    (place : Place) : b.replaceFault? entry' place = a.replaceFault? entry place := by
  have hkind := h.kind place
  simp only [FileTree.replaceFault?, h.hasChildren, h.refusal?]
  generalize a.entry? place = x, b.entry? place = y at hkind ⊢
  cases hkind with
  | none => rfl
  | some hsame => cases a.refusal? place <;> cases hentry <;> cases hsame <;> rfl

/-- A rename that one tree refuses the other refuses with the same fault. -/
theorem rename_eq_error (h : Alike a b) {path newPath : String} {fault : Fault}
    (hfault : a.rename path newPath = .error fault) : b.rename path newPath = .error fault := by
  rw [FileTree.rename] at hfault ⊢
  rw [h.target, h.target]
  cases ho : a.target path with
  | error other => rwa [ho] at hfault
  | ok old =>
    cases hn : a.target newPath with
    | error other => rwa [ho, hn] at hfault
    | ok new =>
      obtain ⟨oldDirectory, oldLast, oldSlash⟩ := old
      obtain ⟨newDirectory, newLast, newSlash⟩ := new
      rw [ho, hn] at hfault
      cases oldLast with
      | dots => exact hfault
      | name oldName =>
        cases newLast with
        | dots => exact hfault
        | name newName =>
          have hkind := h.kind (oldDirectory ++ [oldName])
          simp only [bind, Except.bind] at hfault ⊢
          generalize a.entry? (oldDirectory ++ [oldName]) = x,
            b.entry? (oldDirectory ++ [oldName]) = y at hkind hfault ⊢
          cases hkind with
          | none => exact hfault
          | @some entry entry' hsame =>
            have hdirectory : entry' ≠ .directory ↔ entry ≠ .directory := by
              cases hsame <;> simp
            simp only [hdirectory, h.refusal?, h.replaceFault? hsame] at hfault ⊢
            split_ifs at hfault ⊢
            · exact hfault
            · exact hfault
            · exact hfault
            · cases hkept : (a.refusal? (oldDirectory ++ [oldName])).or
                  (a.replaceFault? entry (newDirectory ++ [newName])) with
              | none =>
                rw [hkept] at hfault
                cases hfault
              | some other => rwa [hkept] at hfault

end Alike

/-- What is read at a path is told by what stands where. -/
theorem Same.readBytes {a b : FileTree} (h : Same a b) (path : String) :
    b.readBytes path = a.readBytes path := by
  simp only [FileTree.readBytes, FileTree.lookup, FileTree.resolve, origin_congr h.start,
    h.alike.walk, h.entry?]

end FileTree

end DesignGraph.Files
