import DesignGraph.Command.Run
import DesignGraph.Proofs.Diagram.Image
import DesignGraph.Proofs.Diagram.Kinds

/-!
# Drawing a diagram is all or nothing

A run that draws a diagram can fail before the layout program is asked for a picture, and
then no file has changed; or the picture fails, or it is in its place. In no case is there
half a picture at the path that was asked for, and what stood there before is replaced by
a whole one or stays.
-/
namespace DesignGraph.Command

open Diagram Files Tool
open FileTree (ChangesOnly Same)

/-- The path of the picture that the run makes. -/
def DiagramOptions.picture (options : DiagramOptions) : String := pngPath options.output

/-- The path at which the picture is made. -/
def DiagramOptions.scratch (options : DiagramOptions) : String := options.picture ++ ".partial"

section Draw

variable (programs : Programs) (options : DiagramOptions) (files : FileTree)

/-- The run comes to lay out a source for the files it has found: the kind is known, the
document can be read, and the layout program, asked for its version, ends with the status
zero. -/
structure LaysOut (kind : Kind) (source : String) (found : FileTree) : Prop where
  known : kind.NamedBy options.kind
  readable : ∃ text, files.readText options.input = .ok text ∧
    source = Dot.source
      ((Backend.choose kind (findIcon found options.setup.iconDirectory)).drawing
        (Graph.extract options.mode text) kind (kind.title options.title))
  answers : ∃ ending, Tool.run programs options.setup.program ["-V"] "" files = .ok ending ∧
    ending.status = .ok (.status 0) ∧ ending.files = found

/-- The run stops before: the kind is unknown, the document cannot be read, or the layout
program, asked for its version, does not end with the status zero. -/
def StopsEarly : Prop :=
  (∀ kind : Kind, ¬ kind.NamedBy options.kind) ∨
    (∀ text, files.readText options.input ≠ .ok text) ∨
      ∀ ending, Tool.run programs options.setup.program ["-V"] "" files = .ok ending →
        ending.status ≠ .ok (.status 0)

variable {programs options files}

/-! ## The three questions -/

theorem kindOf_eq_ok_iff {text : String} {kind : Kind} :
    kindOf text = .ok kind ↔ kind.NamedBy text := by
  rw [kindOf, ← Kind.ofName?_eq_some_iff]
  cases Kind.ofName? text <;> simp

theorem readGraph_eq_ok_iff {path : String} {mode : Document.Mode} {graph : Graph} :
    readGraph files path mode = .ok graph ↔
      ∃ text, files.readText path = .ok text ∧ Graph.extract mode text = graph := by
  rw [readGraph, readDocument]
  cases files.readText path with
  | ok text => simp [Except.map]
  | error fault => cases fault <;> simp [Except.map]

theorem probeProgram_eq_ok_iff {program : String} {found : FileTree} :
    probeProgram programs program files = (.ok (), found) ↔
      ∃ ending, Tool.run programs program ["-V"] "" files = .ok ending ∧
        ending.status = .ok (.status 0) ∧ ending.files = found := by
  rw [probeProgram]
  cases Tool.run programs program ["-V"] "" files with
  | error fault => simp
  | ok ending =>
    cases hstatus : ending.status with
    | error fault => simp [hstatus]
    | ok status =>
      by_cases hsuccess : status.isSuccess
      · simp [hstatus, ExitStatus.isSuccess_iff.mp hsuccess, ExitStatus.isSuccess]
      · have hother : status ≠ .status 0 := fun h => hsuccess (ExitStatus.isSuccess_iff.mpr h)
        simp [hstatus, hsuccess, hother]

variable (programs options files) in
theorem stopsEarly_or_laysOut :
    StopsEarly programs options files ∨
      ∃ kind source found, LaysOut programs options files kind source found := by
  by_cases hk : ∃ kind : Kind, kind.NamedBy options.kind
  · obtain ⟨kind, hk⟩ := hk
    by_cases hr : ∃ text, files.readText options.input = .ok text
    · obtain ⟨text, hr⟩ := hr
      by_cases hp : ∃ ending, Tool.run programs options.setup.program ["-V"] "" files = .ok ending ∧
          ending.status = .ok (.status 0)
      · obtain ⟨ending, hrun, hstatus⟩ := hp
        exact .inr ⟨kind, _, ending.files, hk, ⟨text, hr, rfl⟩, ending, hrun, hstatus, rfl⟩
      · exact .inl (.inr (.inr fun ending hrun hstatus => hp ⟨ending, hrun, hstatus⟩))
    · exact .inl (.inr (.inl fun text h => hr ⟨text, h⟩))
  · exact .inl (.inl fun kind h => hk ⟨kind, h⟩)

theorem LaysOut.not_stopsEarly {kind : Kind} {source : String} {found : FileTree}
    (h : LaysOut programs options files kind source found) :
    ¬ StopsEarly programs options files := by
  obtain ⟨text, htext, -⟩ := h.readable
  obtain ⟨ending, hrun, hstatus, -⟩ := h.answers
  rintro (hk | hr | hp)
  · exact hk kind h.known
  · exact hr text htext
  · exact hp ending hrun hstatus

/-- Asking for the version changes nothing, whatever the answer is. -/
theorem same_probeProgram {program : String} (hdot : LayoutProgram programs program)
    (files : FileTree) : Same files (probeProgram programs program files).2 := by
  rw [probeProgram]
  split
  · rename_i ending hrun
    split <;> exact hdot.version hrun
  · exact .refl files

/-- A run that comes to lay out a source is told by what becomes of the picture. -/
theorem LaysOut.drawDiagram_eq {kind : Kind} {source : String} {found : FileTree}
    (h : LaysOut programs options files kind source found) :
    drawDiagram programs options files =
      match makePicture programs options.setup.program source options.picture found with
      | (.ok (), after) => (.diagram options.picture kind, after)
      | (.error failure, after) => (.failed failure, after) := by
  obtain ⟨text, htext, hsource⟩ := h.readable
  have hgraph : readGraph files options.input options.mode =
      .ok (Graph.extract options.mode text) := readGraph_eq_ok_iff.mpr ⟨text, htext, rfl⟩
  rw [drawDiagram, kindOf_eq_ok_iff.mpr h.known, hgraph]
  simp only [render, probeProgram_eq_ok_iff.mpr h.answers, ← hsource,
    ← DiagramOptions.picture.eq_1]
  cases makePicture programs options.setup.program source options.picture found with
  | mk result after =>
    cases result with
    | ok => rfl
    | error failure => rfl

/-- A run that stops early fails and changes nothing. -/
theorem drawDiagram_of_stopsEarly (hdot : LayoutProgram programs options.setup.program)
    (h : StopsEarly programs options files) :
    ∃ failure after, drawDiagram programs options files = (.failed failure, after) ∧
      Same files after := by
  rw [drawDiagram]
  cases hk : kindOf options.kind with
  | error failure => exact ⟨failure, files, rfl, .refl files⟩
  | ok kind =>
    cases hg : readGraph files options.input options.mode with
    | error failure => exact ⟨failure, files, rfl, .refl files⟩
    | ok graph =>
      have hsame := same_probeProgram hdot files
      cases hprobe : probeProgram programs options.setup.program files with
      | mk answer found =>
        rw [hprobe] at hsame
        cases answer with
        | error fault =>
          exact ⟨.backendUnavailable fault, found, by simp only [render, hprobe], hsame⟩
        | ok =>
          obtain ⟨text, htext, -⟩ := readGraph_eq_ok_iff.mp hg
          have hlays : LaysOut programs options files kind _ found :=
            ⟨kindOf_eq_ok_iff.mp hk, ⟨text, htext, rfl⟩, probeProgram_eq_ok_iff.mp hprobe⟩
          exact absurd h hlays.not_stopsEarly

end Draw

/-- A diagram is drawn as a whole or not at all, whatever the layout program does at the
path of the unfinished picture and however it ends.

A success reports the path of the picture. The layout program has ended well, and what it
left at the path of the unfinished picture now stands at the path of the picture; nothing
is left at the other, and no other place has changed. A failure has changed the place of
the unfinished picture at most, so a picture that was there before is still found. Once the
layout program was asked for it no unfinished one is left, unless the system refuses to
remove it. A run that stops early has changed nothing. -/
theorem drawDiagram_all_or_nothing {programs : Programs} {options : DiagramOptions}
    {files : FileTree} (hdot : LayoutProgram programs options.setup.program)
    (hfiles : files.Rooted) :
    (∃ kind source found ending entry after,
      drawDiagram programs options files = (.diagram options.picture kind, after) ∧
      LaysOut programs options files kind source found ∧
      Tool.run programs options.setup.program ["-Tpng", "-o", options.scratch] source found =
        .ok ending ∧
      ending.status = .ok (.status 0) ∧
      Placed options.scratch options.picture entry files ending.files after ∧
      ∀ other, after.lookup options.scratch ≠ .ok other) ∨
    (∃ failure after,
      drawDiagram programs options files = (.failed failure, after) ∧
      ChangesOnly (files.placeOf options.scratch) files after ∧
      after.entry? (files.placeOf options.picture) = files.entry? (files.placeOf options.picture) ∧
      (files.entry? (files.placeOf options.scratch) ≠ some .directory →
        ∀ entry, files.lookup options.picture = .ok entry →
          after.lookup options.picture = .ok entry) ∧
      (∀ kind source found, LaysOut programs options files kind source found →
        ∀ content executable,
          after.entry? (files.placeOf options.scratch) = some (.file content executable) →
            Irremovable options.scratch after) ∧
      (StopsEarly programs options files → Same files after)) := by
  have hne := files.placeOf_partialPath_ne options.picture
  -- what has changed at the place of the unfinished picture at most keeps the picture
  have hkept : ∀ {after}, ChangesOnly (files.placeOf options.scratch) files after →
      after.entry? (files.placeOf options.picture) = files.entry? (files.placeOf options.picture) ∧
      (files.entry? (files.placeOf options.scratch) ≠ some .directory →
        ∀ entry, files.lookup options.picture = .ok entry →
          after.lookup options.picture = .ok entry) := by
    intro after hchange
    exact ⟨hchange.entry? _ hne.symm, fun hd entry hl => hchange.lookup hd hl hne.symm⟩
  rcases stopsEarly_or_laysOut programs options files with hstops | ⟨kind, source, found, hlays⟩
  · right
    obtain ⟨failure, after, hrun, hsame⟩ := drawDiagram_of_stopsEarly hdot hstops
    have hchange := hsame.changesOnly (files.placeOf options.scratch)
    exact ⟨failure, after, hrun, hchange, (hkept hchange).1, (hkept hchange).2,
      fun _ _ _ hlays => absurd hstops hlays.not_stopsEarly, fun _ => hsame⟩
  · have hsame : Same files found := by
      have hprobe := same_probeProgram hdot files
      rwa [probeProgram_eq_ok_iff.mpr hlays.answers] at hprobe
    have hfound := hfiles.congr hsame
    have hrun := hlays.drawDiagram_eq
    cases hmade : makePicture programs options.setup.program source options.picture found with
    | mk result after =>
      rw [hmade] at hrun
      cases result with
      | ok =>
        left
        obtain ⟨ending, hended, hsuccess, entry, hplaced⟩ := makePicture_eq_ok hdot hfound hmade
        have hall := hplaced.of_same hsame
        exact ⟨kind, source, found, ending, entry, after, hrun, hlays, hended, hsuccess, hall,
          hall.lookup_path⟩
      | error failure =>
        right
        obtain ⟨hpicture, hleft⟩ := makePicture_eq_error hdot hfound hmade
        rw [FileTree.placeOf_congr hsame.start] at hpicture hleft
        have hchange : ChangesOnly (files.placeOf options.scratch) files after :=
          (hsame.changesOnly _).trans hpicture
        exact ⟨failure, after, hrun, hchange, (hkept hchange).1, (hkept hchange).2,
          fun _ _ _ _ => hleft, fun hstops => absurd hstops hlays.not_stopsEarly⟩

/-! ## A run over an old picture -/

/-- A layout program that answers, and makes the same picture of every source. -/
def sketcher : Programs := fun _ arguments _ files =>
  match arguments with
  | ["-V"] => .ok ⟨.ok (.status 0), [], files⟩
  | ["-Tpng", "-o", path] =>
    match files.writeFile path [0x89, 0x50, 0x4E, 0x47] with
    | .ok after => .ok ⟨.ok (.status 0), [], after⟩
    | .error _ => .ok ⟨.ok (.status 1), [], files⟩
  | _ => .error .invalidArgument

theorem files_of_sketcher {source path : String} {files : FileTree} {ending : Ending}
    (h : Tool.run sketcher "dot" ["-Tpng", "-o", path] source files = .ok ending) :
    ending.files = files ∨ ∃ content, files.writeFile path content = .ok ending.files := by
  rw [Tool.run] at h
  split at h
  · cases h
  · simp only [sketcher] at h
    split at h
    · rename_i after hwritten
      cases h
      exact .inr ⟨_, hwritten⟩
    · cases h
      exact .inl rfl

theorem layoutProgram_sketcher : LayoutProgram sketcher "dot" where
  version {files ending} h := by
    obtain rfl : ending = ⟨.ok (.status 0), [], files⟩ := (Except.ok.inj h).symm
    exact .refl files
  picture {source path files ending} hr h := by
    rcases files_of_sketcher h with hsame | ⟨content, hwritten⟩
    · rw [hsame]
      exact .refl _ files
    · exact FileTree.changesOnly_writeFile hwritten
  rooted {source path files ending} hr h := by
    rcases files_of_sketcher h with hsame | ⟨content, hwritten⟩
    · rwa [hsame]
    · exact hr.writeFile hwritten

/-- A document, the picture of an earlier run, and what a run that was killed has left. -/
def studio : FileTree where
  start := ["studio"]
  entries := [(["studio"], .directory),
    (["studio", "design.md"], .file (Text.utf8 "## Entities\n### Order\n- id\n") false),
    (["studio", "out.png"], .file [0x00] false),
    (["studio", "out.png.partial"], .file [0x01] false)]

def sketch : DiagramOptions := ⟨"er", "design.md", "out", none, .strict, .standard⟩

/-- The old picture is replaced, and what was left behind is gone. -/
theorem drawDiagram_over_old_picture :
    LayoutProgram sketcher sketch.setup.program ∧ studio.Rooted ∧
      ∃ finished after, drawDiagram sketcher sketch studio = (.diagram "out.png" .er, after) ∧
        Placed "out.png.partial" "out.png" (.file [0x89, 0x50, 0x4E, 0x47] false) studio finished
          after ∧
        ∀ other, after.lookup "out.png.partial" ≠ .ok other := by
  have hrooted : studio.Rooted := FileTree.rooted_of_entries (by decide +kernel)
  have hdrawn : (drawDiagram sketcher sketch studio).1 = .diagram "out.png" .er := by
    decide +kernel
  have hpicture : (drawDiagram sketcher sketch studio).2.lookup "out.png" =
      .ok (.file [0x89, 0x50, 0x4E, 0x47] false) := by decide +kernel
  have htarget : sketch.picture = "out.png" := by decide +kernel
  have hscratch : sketch.scratch = "out.png.partial" := by decide +kernel
  have hdot : LayoutProgram sketcher sketch.setup.program := layoutProgram_sketcher
  refine ⟨hdot, hrooted, ?_⟩
  rcases drawDiagram_all_or_nothing hdot hrooted with
    ⟨kind, source, found, ending, entry, after, hrun, -, -, -, hplaced, hgone⟩ |
    ⟨failure, after, hrun, -⟩
  · rw [hrun] at hdrawn hpicture
    rw [htarget, hscratch] at hplaced
    rw [hscratch] at hgone
    obtain rfl : entry = .file [0x89, 0x50, 0x4E, 0x47] false := by
      have hentry := FileTree.at_of_lookup hpicture
      rw [FileTree.placeOf_congr hplaced.start, hplaced.holds] at hentry
      exact Option.some.inj hentry
    exact ⟨ending.files, after, hrun.trans (congrArg (·, after) hdrawn), hplaced, hgone⟩
  · rw [hrun] at hdrawn
    cases hdrawn

/-! ## Runs that leave an unfinished picture -/

/-- A layout program that answers, and ends with the status one when it is to make a picture. -/
def quitter : Programs := fun _ arguments _ files =>
  .ok ⟨.ok (.status (if arguments = ["-V"] then 0 else 1)), [], files⟩

theorem layoutProgram_quitter : LayoutProgram quitter "dot" := by
  have hfiles {arguments : List String} {source : String} {files : FileTree} {ending : Ending}
      (h : Tool.run quitter "dot" arguments source files = .ok ending) : ending.files = files := by
    rw [Tool.run] at h
    split at h
    · cases h
    · exact congrArg Ending.files (Except.ok.inj h).symm
  refine ⟨fun h => ?_, fun _ h => ?_, fun hr h => ?_⟩
  · rw [hfiles h]
    exact .refl _
  · rw [hfiles h]
    exact .refl _ _
  · rwa [hfiles h]

/-- Whatever is to be drawn, no picture is made, and what is at the path is discarded. -/
theorem makePicture_quitter (source target : String) (files : FileTree) :
    ∃ failure, makePicture quitter "dot" source target files =
      (.error failure, discard files (partialPath target)) := by
  obtain ⟨failure, hlayout⟩ : ∃ failure,
      layOut quitter "dot" source (partialPath target) files = (.error failure, files) := by
    rw [layOut, Tool.run]
    by_cases hzero : (["dot", "-Tpng", "-o", partialPath target].any fun text =>
        text.toList.contains '\x00') = true
    · rw [if_pos hzero]
      exact ⟨_, rfl⟩
    · rw [if_neg hzero]
      exact ⟨_, rfl⟩
  exact ⟨failure, by rw [makePicture, hlayout]⟩

/-- A run with this program asks for a picture, fails, and discards what is at the path. -/
theorem drawDiagram_quitter {options : DiagramOptions} {files : FileTree} {kind : Kind}
    {text : String} (hdot : options.setup.program = "dot") (hkind : kind.NamedBy options.kind)
    (htext : files.readText options.input = .ok text) :
    ∃ source failure, LaysOut quitter options files kind source files ∧
      drawDiagram quitter options files = (.failed failure, discard files options.scratch) := by
  have hversion : Tool.run quitter options.setup.program ["-V"] "" files =
      .ok ⟨.ok (.status 0), [], files⟩ := by
    rw [hdot]
    exact if_neg (by decide)
  have hlays : LaysOut quitter options files kind _ files :=
    ⟨hkind, ⟨text, htext, rfl⟩, _, hversion, rfl, rfl⟩
  obtain ⟨failure, hmade⟩ := makePicture_quitter _ options.picture files
  refine ⟨_, failure, hlays, ?_⟩
  rw [hlays.drawDiagram_eq, hdot, hmade]
  rfl

/-- The studio when nothing may be removed from its directory. -/
def lockedStudio : FileTree :=
  { studio with held := studio.entries.map fun e => (e.1, .permissionDenied) }

/-- The path of the studio's picture, with more slashes than it needs. -/
def slashed (n : Nat) : String :=
  "." ++ String.ofList ('/' :: List.replicate n '/') ++ "out.png"

/-- The same diagram is asked for by such a path. -/
def slashedSketch (n : Nat) : DiagramOptions := { sketch with output := slashed n }

theorem utf8ByteSize_slashed (n : Nat) : (slashed n).utf8ByteSize = n + 9 := by
  have hslashes : (String.ofList (List.replicate (n + 1) '/')).utf8ByteSize = n + 1 := by
    induction n + 1 with
    | zero => rfl
    | succ n ih =>
      rw [List.replicate_succ', String.ofList_append, String.utf8ByteSize_append, ih]
      rfl
  have hdot : ".".utf8ByteSize = 1 := by decide
  have hname : "out.png".utf8ByteSize = 7 := by decide
  rw [slashed, String.utf8ByteSize_append, String.utf8ByteSize_append, ← List.replicate_succ,
    hslashes]
  omega

theorem toList_slashed (n : Nat) :
    (slashed n).toList = '.' :: '/' :: (List.replicate n '/' ++ "out.png".toList) := by
  simp [slashed]

/-- The parts are those of the path with one slash. -/
theorem pieces_slashed (n : Nat) (rest : List Char) :
    (Text.pieces '/' ('.' :: '/' :: (List.replicate n '/' ++ rest))).filter (· ≠ []) =
      ['.'] :: (Text.pieces '/' rest).filter (· ≠ []) := by
  have hslashes : (Text.pieces '/' (List.replicate n '/' ++ rest)).filter (· ≠ []) =
      (Text.pieces '/' rest).filter (· ≠ []) := by
    induction n with
    | zero => rfl
    | succ n ih =>
      rw [List.replicate_succ, List.cons_append, Text.pieces, if_pos rfl]
      exact ih
  rw [Text.pieces, if_neg (by decide), Text.pieces, if_pos rfl]
  simp only at hslashes ⊢
  rw [List.filter_cons_of_pos (by decide), hslashes]

theorem picture_slashedSketch (n : Nat) : (slashedSketch n).picture = slashed n := by
  have hparts : pathParts (slashed n).toList = ["out.png".toList] := by
    have hfilter (l : List (List Char)) : l.filter (fun part => part ≠ [] ∧ part ≠ ['.']) =
        (l.filter (· ≠ [])).filter (· ≠ ['.']) := by
      rw [List.filter_filter]
      exact List.filter_congr fun part _ => by simp [Bool.and_comm]
    rw [pathParts, hfilter, toList_slashed, pieces_slashed]
    decide
  have hname : fileName? (slashed n) = some "out.png" := by
    rw [fileName?, hparts]
    decide
  have hextension : extension? (slashed n) = some "png" := by
    rw [extension?, hname]
    decide
  rw [DiagramOptions.picture, slashedSketch, pngPath, hextension]
  exact if_pos (by decide)

theorem toList_scratch_slashedSketch (n : Nat) :
    (slashedSketch n).scratch.toList =
      '.' :: '/' :: (List.replicate n '/' ++ "out.png.partial".toList) := by
  rw [DiagramOptions.scratch, picture_slashedSketch, String.toList_append, toList_slashed,
    List.cons_append, List.cons_append, List.append_assoc, ← String.toList_append]
  rfl

theorem placeOf_slashedSketch (n : Nat) :
    studio.placeOf (slashedSketch n).scratch = ["studio", "out.png.partial"] := by
  have hparts : FileTree.parts (slashedSketch n).scratch = [".", "out.png.partial"] := by
    rw [FileTree.parts, toList_scratch_slashedSketch, pieces_slashed]
    decide
  rw [FileTree.placeOf, hparts, FileTree.origin, String.startsWith_char_eq_head?,
    toList_scratch_slashedSketch, List.head?_cons]
  decide

/-- A path that is too long for the system removes nothing. -/
theorem discard_of_pathFault? {files : FileTree} {path : String} {fault : Fault}
    (h : FileTree.pathFault? path = some fault) : discard files path = files := by
  rw [Diagram.discard, FileTree.removeFile, FileTree.target, h]
  rfl

theorem pathFault?_slashedSketch {n : Nat} (h : 4079 ≤ n) :
    FileTree.pathFault? (slashedSketch n).scratch = some .nameTooLong := by
  have hsize : (slashedSketch n).scratch.utf8ByteSize = n + 17 := by
    rw [DiagramOptions.scratch, picture_slashedSketch, String.utf8ByteSize_append,
      utf8ByteSize_slashed]
    have hsuffix : ".partial".utf8ByteSize = 8 := by decide
    omega
  have hzero : (slashedSketch n).scratch.toList.contains '\x00' = false := by
    rw [toList_scratch_slashedSketch]
    simp [List.mem_replicate]
  have hempty : (slashedSketch n).scratch ≠ "" := by
    intro hempty
    rw [hempty] at hsize
    cases hsize
  rw [FileTree.pathFault?, hzero, if_neg Bool.false_ne_true, if_neg hempty, if_pos]
  rw [hsize, longestPath]
  omega

/-- A run that asks for a picture and fails can leave an unfinished one: what nobody may remove
from its directory stays, and so does what the run names by a path that is too long. -/
theorem drawDiagram_leaves_unfinished :
    LayoutProgram quitter "dot" ∧ studio.Rooted ∧ lockedStudio.Rooted ∧
    (∃ source failure, LaysOut quitter sketch lockedStudio .er source lockedStudio ∧
      drawDiagram quitter sketch lockedStudio = (.failed failure, lockedStudio) ∧
      lockedStudio.isFile sketch.scratch = true) ∧
    (∃ source failure, LaysOut quitter (slashedSketch 4096) studio .er source studio ∧
      drawDiagram quitter (slashedSketch 4096) studio = (.failed failure, studio) ∧
      studio.entry? (studio.placeOf (slashedSketch 4096).scratch) =
        some (.file [0x01] false)) := by
  have htext : studio.readText "design.md" = .ok "## Entities\n### Order\n- id\n" := by
    decide +kernel
  have hlocked : lockedStudio.readText "design.md" = .ok "## Entities\n### Order\n- id\n" := by
    decide +kernel
  have hkind : Kind.er.NamedBy sketch.kind := by decide +kernel
  have hprogram : sketch.setup.program = "dot" := rfl
  have hprogram' : (slashedSketch 4096).setup.program = "dot" := rfl
  refine ⟨layoutProgram_quitter, FileTree.rooted_of_entries (by decide +kernel),
    FileTree.rooted_of_entries (by decide +kernel), ?_, ?_⟩
  · obtain ⟨source, failure, hlays, hrun⟩ :=
      drawDiagram_quitter hprogram hkind hlocked
    have hkept : discard lockedStudio sketch.scratch = lockedStudio := by decide +kernel
    rw [hkept] at hrun
    exact ⟨source, failure, hlays, hrun, by decide +kernel⟩
  · obtain ⟨source, failure, hlays, hrun⟩ :=
      drawDiagram_quitter hprogram' hkind htext
    rw [discard_of_pathFault? (pathFault?_slashedSketch (by decide))] at hrun
    refine ⟨source, failure, hlays, hrun, ?_⟩
    rw [placeOf_slashedSketch]
    decide +kernel

end DesignGraph.Command
