import DesignGraph.Proofs.Diagram.Image
import DesignGraph.Proofs.Files.Alike

/-!
# What an earlier run has left

Every run makes its picture at the same path next to the picture's, and a run that was killed
may have left a file there. Where the layout program answers without looking at the files and
writes a picture whenever it ends well, that file makes no difference: it is written over, or it
is in no one's way. A program that ends well and writes nothing lets it become the picture.
-/
namespace DesignGraph.Diagram

open Files Tool
open FileTree (Alike ChangesOnly Names Same)

/-! ## Trees that differ in one file -/

/-- At the path there is a file, or else there is nothing at its place. -/
def FileOrNothing (files : FileTree) (path : String) : Prop :=
  files.isFile path = true ∨ files.entry? (files.placeOf path) = none

/-- The trees differ in nothing but the file, if any, at the path. -/
structure DifferInFile (path : String) (a b : FileTree) : Prop where
  elsewhere : ChangesOnly (a.placeOf path) a b
  refusal? : ∀ place, b.refusal? place = a.refusal? place
  left : FileOrNothing a path
  right : FileOrNothing b path

theorem FileOrNothing.not_directory {files : FileTree} {path : String}
    (h : FileOrNothing files path) : files.entry? (files.placeOf path) ≠ some .directory := by
  rcases h with hfile | hnone
  · obtain ⟨content, executable, hl⟩ := FileTree.isFile_iff.mp hfile
    rw [FileTree.at_of_lookup hl]
    exact nofun
  · rw [hnone]
    exact nofun

namespace DifferInFile

variable {path : String} {a b : FileTree}

theorem symm (h : DifferInFile path a b) : DifferInFile path b a := by
  refine ⟨⟨h.elsewhere.start.symm, fun other hother => ?_, fun other _ => (h.refusal? other).symm⟩,
    fun place => (h.refusal? place).symm, h.right, h.left⟩
  rw [FileTree.placeOf_congr h.elsewhere.start] at hother
  exact (h.elsewhere.entry? other hother).symm

/-- The file is in no one's way: the path ends in the same name in both trees. -/
theorem names (h : DifferInFile path a b) {directory : Place} {name : String}
    (hn : a.Names path directory name) : b.Names path directory name := by
  refine hn.of_directories_stay h.elsewhere.start fun place hd => ?_
  rw [h.elsewhere.entry? place, hd]
  rintro rfl
  exact h.left.not_directory hd

/-- Where neither tree has the file they are the same. -/
theorem same (h : DifferInFile path a b) (ha : a.entry? (a.placeOf path) = none)
    (hb : b.entry? (b.placeOf path) = none) : Same a b := by
  refine ⟨h.elsewhere.start, fun place => ?_, h.refusal?⟩
  rw [FileTree.placeOf_congr h.elsewhere.start] at hb
  by_cases hp : place = a.placeOf path
  · rw [hp, ha, hb]
  · exact h.elsewhere.entry? place hp

end DifferInFile

/-! ## Answers of the layout program -/

/-- How the layout program ends when it is asked for a picture, and what it has written. -/
structure Answer where
  status : Except Fault ExitStatus
  complaint : Text.Bytes
  picture : Option Text.Bytes

/-- The files with a picture written to a path, if there is one and it can be. -/
def written (files : FileTree) (path : String) : Option Text.Bytes → FileTree
  | none => files
  | some picture =>
    match files.writeFile path picture with
    | .ok after => after
    | .error _ => files

/-- Whether the layout program starts, what it writes and how it ends is told by the path of
the picture and the source, whatever files there are. -/
def AnswersBy (programs : Programs) (program : String)
    (answer : String → String → Except Fault Answer) : Prop :=
  ∀ source path files, run programs program ["-Tpng", "-o", path] source files =
    (answer path source).map fun a => ⟨a.status, a.complaint, written files path a.picture⟩

section Unfinished

variable {target : String} {files a b : FileTree}

/-- A picture is written, in place of what was left, if its path can be walked. If it cannot,
there was nothing left. -/
theorem written_cases (h : FileOrNothing files (partialPath target)) (picture : Text.Bytes) :
    (∃ directory name executable, files.Names (partialPath target) directory name ∧
      written files (partialPath target) (some picture) =
        files.put (files.placeOf (partialPath target)) (.file picture executable)) ∨
    (∀ directory name, ¬ files.Names (partialPath target) directory name) ∧
      written files (partialPath target) (some picture) = files ∧
      files.entry? (files.placeOf (partialPath target)) = none := by
  by_cases hn : ∃ directory name, files.Names (partialPath target) directory name
  · obtain ⟨directory, name, hn⟩ := hn
    obtain ⟨executable, hwritten⟩ := hn.writeFile (FileTree.endsWith_partialPath target)
      h.not_directory picture
    exact .inl ⟨directory, name, executable, hn, by rw [written, hwritten]⟩
  · refine .inr ⟨fun directory name h => hn ⟨directory, name, h⟩, ?_, ?_⟩
    · rw [written]
      split
      · rename_i hwritten
        exact absurd (FileTree.exists_names_of_writeFile hwritten) hn
      · rfl
    · rcases h with hfile | hnone
      · obtain ⟨content, executable, hl⟩ := FileTree.isFile_iff.mp hfile
        exact absurd (FileTree.exists_names_partialPath hl) hn
      · exact hnone

theorem FileOrNothing.discard (h : FileOrNothing files (partialPath target)) :
    FileOrNothing (discard files (partialPath target)) (partialPath target) := by
  rcases discard_cases files (partialPath target) with ⟨hplace, herase⟩ | ⟨fault, -, hsame⟩
  · right
    have herased : (files.erase (files.placeOf (partialPath target))).placeOf (partialPath target) =
        files.placeOf (partialPath target) := FileTree.placeOf_congr rfl _
    rw [herase, herased, FileTree.at_erase files hplace, if_pos rfl]
  · rwa [hsame]

/-- What was left is discarded in both trees, as far as it can be. -/
theorem DifferInFile.discard (h : DifferInFile (partialPath target) a b) :
    DifferInFile (partialPath target) (discard a (partialPath target))
      (discard b (partialPath target)) := by
  have ha := changesOnly_discard a (partialPath target)
  have hb := changesOnly_discard b (partialPath target)
  have hplace := FileTree.placeOf_congr h.elsewhere.start (partialPath target)
  rw [hplace] at hb
  have hheld (place : Place) : (Diagram.discard b (partialPath target)).refusal? place =
      (Diagram.discard a (partialPath target)).refusal? place := by
    rw [refusal?_discard, refusal?_discard, h.refusal?]
  refine ⟨⟨?_, ?_, fun place _ => hheld place⟩, hheld, h.left.discard, h.right.discard⟩
  · rw [hb.start, h.elsewhere.start, ha.start]
  · intro place hp
    rw [FileTree.placeOf_congr ha.start] at hp
    rw [hb.entry? place hp, h.elsewhere.entry? place hp, ha.entry? place hp]

/-- The file is not on the way to the picture, so that the same is read there. -/
theorem DifferInFile.readBytes (h : DifferInFile (partialPath target) a b) :
    b.readBytes target = a.readBytes target := by
  rcases h.left with hfile | hnone
  · obtain ⟨content, executable, hl⟩ := FileTree.isFile_iff.mp hfile
    obtain ⟨directory, name, hn⟩ := FileTree.exists_names_partialPath hl
    exact h.elsewhere.readBytes_partialPath hn h.left.not_directory
  · rcases h.right with hfile | hnone'
    · obtain ⟨content, executable, hl⟩ := FileTree.isFile_iff.mp hfile
      obtain ⟨directory, name, hn⟩ := FileTree.exists_names_partialPath hl
      exact (h.symm.elsewhere.readBytes_partialPath hn h.right.not_directory).symm
    · exact (h.same hnone hnone').readBytes target

/-- Where a picture is written it is a file. -/
theorem fileOrNothing_put {directory : Place} {name : String}
    (hn : files.Names (partialPath target) directory name)
    (hfree : files.entry? (files.placeOf (partialPath target)) ≠ some .directory)
    (picture : Text.Bytes) (executable : Bool) :
    FileOrNothing (files.put (files.placeOf (partialPath target)) (.file picture executable))
      (partialPath target) := by
  have hput := FileTree.at_put files hn.placeOf_ne_nil (.file picture executable)
  have hafter : Names (files.put (files.placeOf (partialPath target)) (.file picture executable))
      (partialPath target) directory name := by
    refine hn.of_directories_stay rfl fun place hd => ?_
    rw [hput, if_neg, hd]
    rintro rfl
    exact hfree hd
  refine .inl (FileTree.isFile_iff.mpr ⟨picture, executable, ?_⟩)
  rw [hafter.lookup_eq_ok_iff (FileTree.endsWith_partialPath target), hput]
  exact if_pos rfl

/-- A picture is written over what was left in both trees, or in neither, and then there was
nothing left. -/
theorem DifferInFile.written_both (h : DifferInFile (partialPath target) a b)
    (picture : Text.Bytes) :
    (∃ directory name x y, a.Names (partialPath target) directory name ∧
      written a (partialPath target) (some picture) =
        a.put (a.placeOf (partialPath target)) (.file picture x) ∧
      written b (partialPath target) (some picture) =
        b.put (b.placeOf (partialPath target)) (.file picture y)) ∨
    (written a (partialPath target) (some picture) = a ∧
      written b (partialPath target) (some picture) = b ∧ Same a b) := by
  rcases written_cases h.left picture with
    ⟨directory, name, x, hna, ha⟩ | ⟨hna, ha, hemptya⟩
  · rcases written_cases h.right picture with ⟨_, _, y, -, hb⟩ | ⟨hnb, -⟩
    · exact .inl ⟨directory, name, x, y, hna, ha, hb⟩
    · exact absurd (h.names hna) (hnb directory name)
  · rcases written_cases h.right picture with ⟨directory, name, _, hnb, -⟩ | ⟨-, hb, hemptyb⟩
    · exact absurd (h.symm.names hnb) (hna directory name)
    · exact .inr ⟨ha, hb, h.same hemptya hemptyb⟩

/-- A picture that is written over what was left is a file in both trees. -/
theorem DifferInFile.put (h : DifferInFile (partialPath target) a b) {directory : Place}
    {name : String} (hna : a.Names (partialPath target) directory name) (picture : Text.Bytes)
    (x y : Bool) :
    DifferInFile (partialPath target) (a.put (a.placeOf (partialPath target)) (.file picture x))
      (b.put (b.placeOf (partialPath target)) (.file picture y)) ∧
    Alike (a.put (a.placeOf (partialPath target)) (.file picture x))
      (b.put (b.placeOf (partialPath target)) (.file picture y)) := by
  have hnb := h.names hna
  have hleft := fileOrNothing_put hna h.left.not_directory picture x
  have hright := fileOrNothing_put hnb h.right.not_directory picture y
  have hputa := FileTree.at_put a hna.placeOf_ne_nil (.file picture x)
  have hputb := FileTree.at_put b hnb.placeOf_ne_nil (.file picture y)
  have hplace := FileTree.placeOf_congr h.elsewhere.start (partialPath target)
  rw [hplace] at hputb hright ⊢
  have helse : ∀ place, place ≠ a.placeOf (partialPath target) →
      FileTree.entry? (b.put (a.placeOf (partialPath target)) (.file picture y)) place =
        FileTree.entry? (a.put (a.placeOf (partialPath target)) (.file picture x)) place := by
    intro place hp
    rw [hputa, hputb, if_neg hp, if_neg hp, h.elsewhere.entry? place hp]
  refine ⟨⟨⟨h.elsewhere.start, helse, h.elsewhere.refusal?⟩, h.refusal?, hleft, hright⟩,
    h.elsewhere.start, fun place => ?_, h.refusal?⟩
  by_cases hp : place = a.placeOf (partialPath target)
  · rw [hputa, hputb, if_pos hp, if_pos hp]
    exact .some (.file picture x picture y)
  · rw [helse place hp]
    exact FileTree.rel_sameKind_refl _

/-- Whatever is written, the trees differ as they did. -/
theorem DifferInFile.after_written (h : DifferInFile (partialPath target) a b)
    (picture : Option Text.Bytes) :
    DifferInFile (partialPath target) (written a (partialPath target) picture)
      (written b (partialPath target) picture) := by
  cases picture with
  | none => exact h
  | some picture =>
    rcases h.written_both picture with ⟨_, _, x, y, hn, ha, hb⟩ | ⟨ha, hb, -⟩
    · rw [ha, hb]
      exact (h.put hn picture x y).1
    · rw [ha, hb]
      exact h

/-- Once a picture is written, if it can be, what was left cannot be told. -/
theorem DifferInFile.alike_written (h : DifferInFile (partialPath target) a b)
    (picture : Text.Bytes) :
    Alike (written a (partialPath target) (some picture))
      (written b (partialPath target) (some picture)) := by
  rcases h.written_both picture with ⟨_, _, x, y, hn, ha, hb⟩ | ⟨ha, hb, hsame⟩
  · rw [ha, hb]
    exact (h.put hn picture x y).2
  · rw [ha, hb]
    exact hsame.alike

theorem rooted_written (hr : files.Rooted) (path : String) (picture : Option Text.Bytes) :
    (written files path picture).Rooted := by
  cases picture with
  | none => exact hr
  | some picture =>
    rw [written]
    split
    · rename_i hwritten
      exact hr.writeFile hwritten
    · exact hr

/-- A picture that was written and moved into place is read there. -/
theorem readBytes_of_rename (h : FileOrNothing files (partialPath target)) (hr : files.Rooted)
    {picture : Text.Bytes} {after : FileTree}
    (hmove : (written files (partialPath target) (some picture)).rename (partialPath target)
      target = .ok after) : after.readBytes target = .ok picture := by
  have hrooted := rooted_written hr (partialPath target) (some picture)
  obtain ⟨hmoved, entry, hrenames⟩ :=
    FileTree.moved_of_rename hrooted (FileTree.placeOf_partialPath_ne _ target) hmove
  have hentry := hrenames.moved
  rcases written_cases h picture with ⟨_, _, executable, hn, hput⟩ | ⟨-, hsame, hnone⟩
  · have hat := FileTree.at_put files hn.placeOf_ne_nil (.file picture executable)
      (files.placeOf (partialPath target))
    rw [if_pos rfl] at hat
    rw [hput] at hrooted hmoved hrenames hentry
    cases hat.symm.trans hentry
    rw [FileTree.readBytes, FileTree.lookup_renamed_file hrooted hrenames hmoved]
    rfl
  · rw [hsame, hnone] at hentry
    cases hentry

end Unfinished

/-! ## Making a picture -/

section MakePicture

variable {programs : Programs} {program : String} {answer : String → String → Except Fault Answer}
  (hanswer : AnswersBy programs program answer)
include hanswer

/-- Laying out ends in the same way with all files, and writes the same picture if any. -/
theorem layOut_answered (source path : String) (a b : FileTree) :
    ∃ result picture, layOut programs program source path a = (result, written a path picture) ∧
      layOut programs program source path b = (result, written b path picture) ∧
      (result = .ok () → ∃ given, answer path source = .ok given ∧
        given.status = .ok (.status 0) ∧ given.picture = picture) := by
  simp only [layOut, hanswer source path]
  cases hgiven : answer path source with
  | error fault => cases fault <;> exact ⟨_, none, rfl, rfl, by rintro ⟨⟩⟩
  | ok given =>
    simp only [Except.map]
    cases hstatus : given.status with
    | error fault => exact ⟨_, given.picture, rfl, rfl, by rintro ⟨⟩⟩
    | ok status =>
      by_cases hsuccess : status.isSuccess
      · simp only [if_pos hsuccess]
        rw [ExitStatus.isSuccess_iff.mp hsuccess] at hstatus
        exact ⟨.ok (), given.picture, rfl, rfl, fun _ => ⟨given, rfl, hstatus, rfl⟩⟩
      · simp only [if_neg hsuccess]
        exact ⟨_, given.picture, rfl, rfl, by rintro ⟨⟩⟩

/-- What an earlier run has left at the path of the unfinished picture makes no difference, if
the layout program answers by its arguments and the source, and writes a picture whenever it
ends well. With and without the file the run ends in the same way and the same is read at the
path of the picture; and a run that succeeds has put there what the program wrote this time. -/
theorem makePicture_ignores_leftover {source target : String}
    (hwrites : ∀ given, answer (partialPath target) source = .ok given →
      given.status = .ok (.status 0) → given.picture ≠ none)
    {a b : FileTree} (ha : a.Rooted) (hb : b.Rooted) (h : DifferInFile (partialPath target) a b) :
    (makePicture programs program source target a).1 =
      (makePicture programs program source target b).1 ∧
    (makePicture programs program source target a).2.readBytes target =
      (makePicture programs program source target b).2.readBytes target ∧
    ((makePicture programs program source target a).1 = .ok () → ∃ given picture,
      answer (partialPath target) source = .ok given ∧ given.picture = some picture ∧
      (makePicture programs program source target a).2.readBytes target = .ok picture) := by
  obtain ⟨result, picture, hlaya, hlayb, hgiven⟩ :=
    layOut_answered hanswer source (partialPath target) a b
  simp only [makePicture, hlaya, hlayb]
  have hread := (h.after_written picture).discard.readBytes
  cases result with
  | error failure =>
    simp only
    exact ⟨trivial, hread.symm, by rintro ⟨⟩⟩
  | ok done =>
    obtain ⟨given, hrun, hsuccess, rfl⟩ := hgiven rfl
    obtain ⟨bytes, hbytes⟩ := Option.ne_none_iff_exists'.mp (hwrites given hrun hsuccess)
    rw [hbytes] at hread ⊢
    simp only [moveIntoPlace]
    cases hmovea : (written a (partialPath target) (some bytes)).rename (partialPath target)
        target with
    | error fault =>
      rw [(h.alike_written bytes).rename_eq_error hmovea]
      exact ⟨rfl, hread.symm, by rintro ⟨⟩⟩
    | ok aftera =>
      cases hmoveb : (written b (partialPath target) (some bytes)).rename (partialPath target)
          target with
      | error fault =>
        rw [(h.symm.alike_written bytes).rename_eq_error hmoveb] at hmovea
        cases hmovea
      | ok afterb =>
        have hreada := readBytes_of_rename h.left ha hmovea
        have hreadb := readBytes_of_rename h.right hb hmoveb
        exact ⟨rfl, hreada.trans hreadb.symm, fun _ => ⟨given, bytes, hrun, hbytes, hreada⟩⟩

end MakePicture

/-! ## Runs over what was left -/

/-- A layout program that always ends well, and writes this picture or none. -/
def answering (picture : Option Text.Bytes) : Programs := fun _ arguments _ files =>
  match arguments with
  | ["-Tpng", "-o", path] => .ok ⟨.ok (.status 0), [], written files path picture⟩
  | _ => .error .invalidArgument

def answerOf (picture : Option Text.Bytes) (path _source : String) : Except Fault Answer :=
  if path.toList.contains '\x00' then .error .zeroInArgument
  else .ok ⟨.ok (.status 0), [], picture⟩

theorem answersBy_answering (picture : Option Text.Bytes) :
    AnswersBy (answering picture) "dot" (answerOf picture) := by
  intro source path files
  have hzero : (["dot", "-Tpng", "-o", path].any fun text => text.toList.contains '\x00') =
      path.toList.contains '\x00' := by
    simp
  rw [run, hzero, answerOf]
  by_cases hz : path.toList.contains '\x00'
  · rw [if_pos hz, if_pos hz]
    rfl
  · rw [if_neg hz, if_neg hz]
    rfl

/-- An old picture. -/
def gallery : FileTree where
  start := ["gallery"]
  entries := [(["gallery"], .directory), (["gallery", "out.png"], .file [0x00] false)]

/-- The old picture, and what a run that was killed has left. -/
def litteredGallery : FileTree :=
  gallery.put ["gallery", "out.png.partial"] (.file [0x01] false)

theorem differInFile_gallery :
    DifferInFile (partialPath "out.png") gallery litteredGallery := by
  have hplace : gallery.placeOf (partialPath "out.png") = ["gallery", "out.png.partial"] := by
    decide +kernel
  refine ⟨⟨rfl, fun other hother => ?_, fun _ _ => rfl⟩, fun _ => rfl, .inr ?_, .inl ?_⟩
  · rw [hplace] at hother
    rw [litteredGallery, FileTree.at_put gallery (List.cons_ne_nil _ _), if_neg hother]
  · decide +kernel
  · decide +kernel

theorem rooted_gallery : gallery.Rooted ∧ litteredGallery.Rooted :=
  ⟨FileTree.rooted_of_entries (by decide +kernel), FileTree.rooted_of_entries (by decide +kernel)⟩

/-- What was left is written over. -/
theorem makePicture_ignores_leftover_gallery :
    AnswersBy (answering (some [0x89])) "dot" (answerOf (some [0x89])) ∧
    (∀ given, answerOf (some [0x89]) (partialPath "out.png") "digraph" = .ok given →
      given.status = .ok (.status 0) → given.picture ≠ none) ∧
    gallery.Rooted ∧ litteredGallery.Rooted ∧
    DifferInFile (partialPath "out.png") gallery litteredGallery ∧
    (makePicture (answering (some [0x89])) "dot" "digraph" "out.png" gallery).1 = .ok () ∧
    (makePicture (answering (some [0x89])) "dot" "digraph" "out.png" litteredGallery).1 = .ok () ∧
    (makePicture (answering (some [0x89])) "dot" "digraph" "out.png" gallery).2.readBytes
      "out.png" = .ok [0x89] ∧
    (makePicture (answering (some [0x89])) "dot" "digraph" "out.png" litteredGallery).2.readBytes
      "out.png" = .ok [0x89] := by
  have hanswer : answerOf (some [0x89]) (partialPath "out.png") "digraph" =
      .ok ⟨.ok (.status 0), [], some [0x89]⟩ := if_neg (by decide +kernel)
  have hwrites : ∀ given, answerOf (some [0x89]) (partialPath "out.png") "digraph" = .ok given →
      given.status = .ok (.status 0) → given.picture ≠ none := by
    intro given hgiven _
    cases hanswer.symm.trans hgiven
    exact Option.some_ne_none _
  have hmade : (makePicture (answering (some [0x89])) "dot" "digraph" "out.png" gallery).1 =
      .ok () := by decide +kernel
  obtain ⟨hends, hreads, hpicture⟩ := makePicture_ignores_leftover
    (answersBy_answering (some [0x89])) hwrites rooted_gallery.1 rooted_gallery.2
    differInFile_gallery
  obtain ⟨given, picture, hgiven, hwritten, hread⟩ := hpicture hmade
  cases hanswer.symm.trans hgiven
  cases hwritten
  exact ⟨answersBy_answering _, hwrites, rooted_gallery.1, rooted_gallery.2, differInFile_gallery,
    hmade, hends ▸ hmade, hread, hreads ▸ hread⟩

/-- A layout program that ends well and writes nothing lets what was left become the picture,
where it fails if nothing was left. -/
theorem makePicture_moves_leftover :
    AnswersBy (answering none) "dot" (answerOf none) ∧
    gallery.Rooted ∧ litteredGallery.Rooted ∧
    DifferInFile (partialPath "out.png") gallery litteredGallery ∧
    (makePicture (answering none) "dot" "digraph" "out.png" gallery).1 =
      .error (.renderFailed (.cannotMove "out.png" .notFound)) ∧
    (makePicture (answering none) "dot" "digraph" "out.png" litteredGallery).1 = .ok () ∧
    (makePicture (answering none) "dot" "digraph" "out.png" litteredGallery).2.readBytes
      "out.png" = .ok [0x01] :=
  ⟨answersBy_answering none, rooted_gallery.1, rooted_gallery.2, differInFile_gallery,
    by decide +kernel, by decide +kernel, by decide +kernel⟩

end DesignGraph.Diagram
