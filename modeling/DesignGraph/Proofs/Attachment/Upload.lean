import DesignGraph.Outcome
import DesignGraph.Proofs.Json.ReadBack
import Mathlib.Data.List.Basic

/-!
# What becomes of the files of an upload

A service may answer every call differently and remember what it likes. To tell which
calls an upload makes, the service is recorded: each call is noted with what came of it,
and nothing else about the run changes. An upload makes no call when a path is no file.
Otherwise it makes one for each path, in order, and each call comes into the report once.
-/
namespace DesignGraph.Attachment

open Files

/-- A call of a service, and what came of it. -/
structure Call where
  pageId : String
  path : String
  result : Except Failure String

namespace Call

/-- What was asked for: a page and a path. -/
def asked (call : Call) : String × String := (call.pageId, call.path)

def succeeded (call : Call) : Bool :=
  match call.result with
  | .ok _ => true
  | .error _ => false

/-- What the report says of a call that attached its file. -/
def uploaded? (call : Call) : Option Uploaded :=
  match call.result with
  | .ok name => some ⟨call.path, name⟩
  | .error _ => none

/-- What the report says of a call that was refused. -/
def rejected? (call : Call) : Option Rejected :=
  match call.result with
  | .ok _ => none
  | .error failure => some ⟨call.path, failure.message⟩

theorem uploaded?_isSome (call : Call) : call.uploaded?.isSome = call.succeeded := by
  rw [uploaded?, succeeded]
  cases call.result <;> rfl

theorem rejected?_isSome (call : Call) : call.rejected?.isSome = !call.succeeded := by
  rw [rejected?, succeeded]
  cases call.result <;> rfl

/-- Nothing was attached if and only if every call was refused. -/
theorem filterMap_uploaded?_eq_nil {calls : List Call} :
    calls.filterMap uploaded? = [] ↔ ∀ call ∈ calls, call.succeeded = false := by
  rw [List.filterMap_eq_nil_iff]
  refine forall₂_congr fun call _ => ?_
  rw [← Option.isNone_iff_eq_none, ← Option.not_isSome, uploaded?_isSome, Bool.not_eq_true']

theorem filterMap_rejected?_eq_nil {calls : List Call} :
    calls.filterMap rejected? = [] ↔ ∀ call ∈ calls, call.succeeded = true := by
  rw [List.filterMap_eq_nil_iff]
  refine forall₂_congr fun call _ => ?_
  rw [← Option.isNone_iff_eq_none, ← Option.not_isSome, rejected?_isSome, Bool.not_not]

/-- Each call is attached or refused, never both. -/
theorem length_uploaded_add_length_rejected (calls : List Call) :
    (calls.filterMap uploaded?).length + (calls.filterMap rejected?).length = calls.length := by
  rw [List.length_filterMap_eq_countP, List.length_filterMap_eq_countP,
    List.length_eq_countP_add_countP succeeded]
  simp only [uploaded?_isSome, rejected?_isSome, Bool.not_eq_true, Bool.decide_eq_false]

end Call

/-- The service with a record of its calls beside what it remembers itself. -/
def Service.recorded {σ : Type} (service : Service σ) : Service (σ × List Call) :=
  fun pageId path (state, calls) =>
    let (result, state) := service pageId path state
    (result, state, calls ++ [⟨pageId, path, result⟩])

section Run

variable {σ : Type} (service : Service σ)

theorem attachAll_nil (report : Report) (state : σ) :
    attachAll service report [] state = (report, state) := rfl

/-- One file is attached, in the state in which the service is, and then the rest in the
state in which it is afterwards. -/
theorem attachAll_cons (report : Report) (path : String) (rest : List String) (state : σ) :
    attachAll service report (path :: rest) state =
      attachAll service (report.add path (service report.pageId path state).1) rest
        (service report.pageId path state).2 := rfl

theorem recorded_apply (pageId path : String) (state : σ) (calls : List Call) :
    service.recorded pageId path (state, calls) =
      ((service pageId path state).1, (service pageId path state).2,
        calls ++ [⟨pageId, path, (service pageId path state).1⟩]) := rfl

/-- The report with what became of these calls. -/
def Report.addAll (report : Report) (calls : List Call) : Report where
  pageId := report.pageId
  uploaded := report.uploaded ++ calls.filterMap Call.uploaded?
  rejected := report.rejected ++ calls.filterMap Call.rejected?

theorem Report.addAll_cons (report : Report) (path : String) (result : Except Failure String)
    (calls : List Call) :
    report.addAll (⟨report.pageId, path, result⟩ :: calls) =
      (report.add path result).addAll calls := by
  cases result <;> simp [addAll, add, Call.uploaded?, Call.rejected?, List.filterMap_cons]

/-- Files are attached with one call each, in order, and the record of the calls is all that
a recorded service adds. -/
theorem attachAll_recorded (report : Report) (paths : List String) (state : σ)
    (before : List Call) :
    ∃ calls left, calls.map Call.asked = paths.map (report.pageId, ·) ∧
      attachAll service.recorded report paths (state, before) =
        (report.addAll calls, left, before ++ calls) ∧
      attachAll service report paths state = (report.addAll calls, left) := by
  induction paths generalizing report state before with
  | nil =>
    refine ⟨[], state, rfl, ?_, ?_⟩
    · simp [attachAll_nil, Report.addAll]
    · simp [attachAll_nil, Report.addAll]
  | cons path rest ih =>
    obtain ⟨calls, left, hasked, hrecorded, hplain⟩ :=
      ih (report.add path (service report.pageId path state).1)
        (service report.pageId path state).2
        (before ++ [⟨report.pageId, path, (service report.pageId path state).1⟩])
    have hpage : (report.add path (service report.pageId path state).1).pageId = report.pageId := by
      cases (service report.pageId path state).1 <;> rfl
    refine ⟨⟨report.pageId, path, (service report.pageId path state).1⟩ :: calls, left, ?_, ?_, ?_⟩
    · rw [List.map_cons, List.map_cons, hasked, hpage]
      rfl
    · rw [attachAll_cons, recorded_apply, hrecorded, Report.addAll_cons, List.append_assoc]
      rfl
    · rw [attachAll_cons, hplain, Report.addAll_cons]

end Run

/-! ## The printed line -/

section Printed

open Json

/-- A printed report is read back as an object; it has errors if a file was refused. -/
theorem Report.exists_tree (report : Report) :
    ∃ tree, report.toJson.tree? = some tree ∧ (tree.HasKey "errors" ↔ report.rejected ≠ []) := by
  have huploaded : itemTrees? (report.uploaded.map fun u =>
      .object [("file", .string u.file), ("filename", .string u.name)]) =
        some (report.uploaded.map fun u =>
          .object [(.ofString "file", .string (.ofString u.file)),
            (.ofString "filename", .string (.ofString u.name))]) :=
    itemTrees?_map fun _ _ => rfl
  have hrejected : itemTrees? (report.rejected.map fun r =>
      .object [("file", .string r.file), ("error", .string r.error)]) =
        some (report.rejected.map fun r =>
          .object [(.ofString "file", .string (.ofString r.file)),
            (.ofString "error", .string (.ofString r.error))]) :=
    itemTrees?_map fun _ _ => rfl
  have htree : ∃ tree, report.toJson.tree? = some tree := by
    rw [toJson]
    cases h : report.rejected.isEmpty with
    | true => simp [Value.tree?, memberTrees?, huploaded]
    | false => simp [Value.tree?, memberTrees?, huploaded, hrejected]
  obtain ⟨tree, htree⟩ := htree
  refine ⟨tree, htree, ?_⟩
  rw [toJson] at htree
  rw [hasKey_iff htree]
  cases report.rejected <;> simp

/-- A printed failure has an error, and no errors. -/
theorem exists_tree_errorJson (text : String) :
    ∃ tree, (errorJson text).tree? = some tree ∧ ¬ tree.HasKey "errors" := by
  refine ⟨_, rfl, ?_⟩
  rw [hasKey_iff (rfl : (errorJson text).tree? = some _)]
  simp

end Printed

/-! ## A whole upload -/

theorem checkFiles_of_missing {files : FileTree} {before after : List String} {path : String}
    (hbefore : ∀ p ∈ before, files.isFile p = true) (hpath : files.isFile path = false) :
    checkFiles files (before ++ path :: after) = .error (.inputNotFound path) := by
  have hnone : (before.find? fun p => !files.isFile p) = none := by
    rw [List.find?_eq_none]
    intro p hp
    rw [hbefore p hp]
    exact Bool.false_ne_true
  rw [checkFiles, List.find?_append, hnone, Option.none_or, List.find?_cons, hpath]
  rfl

theorem checkFiles_of_files {files : FileTree} {paths : List String}
    (h : ∀ p ∈ paths, files.isFile p = true) : checkFiles files paths = .ok () := by
  rw [checkFiles, List.find?_eq_none.mpr]
  intro p hp
  rw [h p hp]
  exact Bool.false_ne_true

/-- Some path is no file, and there is a first one; or all are files. -/
theorem exists_first_missing (files : FileTree) (paths : List String) :
    (∃ before path after, paths = before ++ path :: after ∧
      (∀ p ∈ before, files.isFile p = true) ∧ files.isFile path = false) ∨
    ∀ p ∈ paths, files.isFile p = true := by
  cases h : paths.find? fun p => !files.isFile p with
  | none =>
    right
    intro p hp
    simpa using List.find?_eq_none.mp h p hp
  | some path =>
    left
    obtain ⟨hpath, before, after, heq, hbefore⟩ := List.find?_eq_some_iff_append.mp h
    exact ⟨before, path, after, heq, fun p hp => by simpa using hbefore p hp, by simpa using hpath⟩

/-- A report tells of each path once what came of it: of the calls that were made, one for
each path and in their order, those that attached a file and those that were refused. -/
structure Accounts (pageId : String) (paths : List String) (calls : List Call) (report : Report) :
    Prop where
  asked : calls.map Call.asked = paths.map (pageId, ·)
  page : report.pageId = pageId
  uploaded : report.uploaded = calls.filterMap Call.uploaded?
  rejected : report.rejected = calls.filterMap Call.rejected?
  lengths : report.uploaded.length + report.rejected.length = paths.length

section Upload

variable {σ : Type} (service : Service σ) (files : FileTree) (pageId : String) (paths : List String)
  (state : σ)

/-- With all files there, an upload is told by its calls. -/
theorem upload_of_files (h : ∀ p ∈ paths, files.isFile p = true) :
    ∃ report left calls, Accounts pageId paths calls report ∧
      upload service.recorded files pageId paths (state, []) = (.ok report, left, calls) ∧
      upload service files pageId paths state = (.ok report, left) := by
  obtain ⟨calls, left, hasked, hrecorded, hplain⟩ :=
    attachAll_recorded service ⟨pageId, [], []⟩ paths state []
  refine ⟨(⟨pageId, [], []⟩ : Report).addAll calls, left, calls,
    ⟨hasked, rfl, rfl, rfl, ?_⟩, ?_, ?_⟩
  · have hlength := congrArg List.length hasked
    rw [List.length_map, List.length_map] at hlength
    rw [← hlength]
    exact Call.length_uploaded_add_length_rejected calls
  · rw [upload, checkFiles_of_files h]
    simp only [bind, StateT.bind, hrecorded, List.nil_append]
    rfl
  · rw [upload, checkFiles_of_files h]
    simp only [bind, StateT.bind, hplain]
    rfl

/-- With a file missing, an upload stops at the first one and calls nobody. -/
theorem upload_of_missing {before after : List String} {path : String}
    (hbefore : ∀ p ∈ before, files.isFile p = true) (hpath : files.isFile path = false) :
    upload service files pageId (before ++ path :: after) state =
      (.error (.inputNotFound path), state) := by
  rw [upload, checkFiles_of_missing hbefore hpath]
  rfl

end Upload

/-- All have failed if there was something to attach and no call has attached anything. -/
theorem Accounts.allFailed_iff {pageId : String} {paths : List String} {calls : List Call}
    {report : Report} (h : Accounts pageId paths calls report) :
    report.allFailed = true ↔ paths ≠ [] ∧ ∀ call ∈ calls, call.succeeded = false := by
  rw [← Call.filterMap_uploaded?_eq_nil, ← h.uploaded, Report.allFailed, Bool.and_eq_true,
    List.isEmpty_iff, Bool.not_eq_true', List.isEmpty_eq_false_iff, and_comm]
  refine and_congr_left fun hnone => not_congr ?_
  have hlengths := h.lengths
  rw [hnone, List.length_nil, Nat.zero_add] at hlengths
  rw [← List.length_eq_zero_iff, ← List.length_eq_zero_iff, hlengths]

theorem Accounts.rejected_ne_nil_iff {pageId : String} {paths : List String} {calls : List Call}
    {report : Report} (h : Accounts pageId paths calls report) :
    report.rejected ≠ [] ↔ ¬ ∀ call ∈ calls, call.succeeded = true := by
  rw [h.rejected, Ne, Call.filterMap_rejected?_eq_nil]

/-- An upload accounts for every file exactly once, whatever the service answers and
remembers.

If some path is no file, the run fails with the first such path, and the service is never
called. Otherwise the service is called once for each path, in order and for the page, and
the report tells what came of each call. The run fails if there was something to attach
and no call has attached anything, and the printed line has errors unless every call has
attached its file. -/
theorem upload_accounts_for_every_file {σ : Type} (service : Service σ) (files : FileTree)
    (pageId : String) (paths : List String) (state : σ) :
    ∃ result left calls,
      upload service.recorded files pageId paths (state, []) = (result, left, calls) ∧
      upload service files pageId paths state = (result, left) ∧
      (∀ before path after, paths = before ++ path :: after →
        (∀ p ∈ before, files.isFile p = true) → files.isFile path = false →
          result = .error (.inputNotFound path) ∧ left = state ∧ calls = []) ∧
      ((∀ p ∈ paths, files.isFile p = true) →
        ∃ report, result = .ok report ∧ Accounts pageId paths calls report) ∧
      ((Outcome.ofUpload result).isSuccess = false ↔
        paths ≠ [] ∧ ∀ call ∈ calls, call.succeeded = false) ∧
      ∃ tree, Json.Tree.ofText (Outcome.ofUpload result).line.toList = .ok tree ∧
        (¬ tree.HasKey "errors" ↔ ∀ call ∈ calls, call.succeeded = true) := by
  rcases exists_first_missing files paths with ⟨before, path, after, rfl, hbefore, hpath⟩ | hall
  · obtain ⟨tree, htree, hkey⟩ := exists_tree_errorJson (Failure.inputNotFound path).message
    refine ⟨.error (.inputNotFound path), state, [],
      upload_of_missing service.recorded files pageId (state, []) hbefore hpath,
      upload_of_missing service files pageId state hbefore hpath, ?_, ?_, ?_, tree,
      Json.ofText_line htree, ?_⟩
    · intro before' path' after' heq hbefore' hpath'
      have hfirst : checkFiles files (before' ++ path' :: after') = .error (.inputNotFound path') :=
        checkFiles_of_missing hbefore' hpath'
      rw [← heq, checkFiles_of_missing hbefore hpath] at hfirst
      cases hfirst
      exact ⟨rfl, rfl, rfl⟩
    · intro hall
      rw [hall path (by simp)] at hpath
      cases hpath
    · simp [Outcome.ofUpload, Outcome.isSuccess]
    · simp [hkey]
  · obtain ⟨report, left, calls, haccounts, hrecorded, hplain⟩ :=
      upload_of_files service files pageId paths state hall
    obtain ⟨tree, htree, hkey⟩ := report.exists_tree
    refine ⟨.ok report, left, calls, hrecorded, hplain, ?_, fun _ => ⟨report, rfl, haccounts⟩, ?_,
      tree, Json.ofText_line htree, ?_⟩
    · rintro before path after rfl - hpath
      rw [hall path (by simp)] at hpath
      cases hpath
    · rw [← haccounts.allFailed_iff]
      simp [Outcome.ofUpload, Outcome.isSuccess]
    · rw [hkey, haccounts.rejected_ne_nil_iff, not_not]

/-- A service that refuses every second call. -/
def everySecondRefused : Service Nat := fun _ path n =>
  (if n % 2 = 0 then .ok path else .error (.remoteCallFailed .answerCutShort), n + 1)

def shelf : FileTree where
  start := []
  entries := [(["a.png"], .file [0x89] false), (["b.png"], .file [0x50] false)]

/-- A file that is given three times is attached, refused and attached again; with a file
missing in the middle, nobody is called. -/
theorem upload_repeated_and_missing :
    (∀ p ∈ ["a.png", "a.png", "a.png"], shelf.isFile p = true) ∧
    (∃ report left calls,
      upload everySecondRefused.recorded shelf "42" ["a.png", "a.png", "a.png"] (0, []) =
        (.ok report, left, calls) ∧
      Accounts "42" ["a.png", "a.png", "a.png"] calls report ∧
      report.uploaded.length = 2 ∧ report.rejected.length = 1) ∧
    (∀ p ∈ ["a.png"], shelf.isFile p = true) ∧ shelf.isFile "c.png" = false ∧
    upload everySecondRefused.recorded shelf "42" ["a.png", "c.png", "b.png"] (0, []) =
      (.error (.inputNotFound "c.png"), 0, []) := by
  have hall : ∀ p ∈ ["a.png", "a.png", "a.png"], shelf.isFile p = true := by decide +kernel
  have hfirst : ∀ p ∈ ["a.png"], shelf.isFile p = true := by decide +kernel
  have hmissing : shelf.isFile "c.png" = false := by decide +kernel
  have hcounts : (upload everySecondRefused shelf "42" ["a.png", "a.png", "a.png"] 0).1.map
      (fun report => (report.uploaded.length, report.rejected.length)) = .ok (2, 1) := by
    decide +kernel
  refine ⟨hall, ?_, hfirst, hmissing, ?_⟩
  · obtain ⟨result, left, calls, hrecorded, hplain, -, hfiles, -⟩ :=
      upload_accounts_for_every_file everySecondRefused shelf "42" ["a.png", "a.png", "a.png"] 0
    obtain ⟨report, rfl, haccounts⟩ := hfiles hall
    rw [hplain] at hcounts
    obtain ⟨huploaded, hrejected⟩ := Prod.mk.inj (Except.ok.inj hcounts)
    exact ⟨report, left, calls, hrecorded, haccounts, huploaded, hrejected⟩
  · obtain ⟨result, left, calls, hrecorded, -, hstops, -⟩ :=
      upload_accounts_for_every_file everySecondRefused shelf "42" ["a.png", "c.png", "b.png"] 0
    obtain ⟨rfl, rfl, rfl⟩ := hstops ["a.png"] "c.png" ["b.png"] rfl hfirst hmissing
    exact hrecorded

end DesignGraph.Attachment
