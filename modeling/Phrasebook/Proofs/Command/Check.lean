import Mathlib.Data.List.Forall2
import Phrasebook.Command.Check
import Phrasebook.Proofs.Command.Generate
import Phrasebook.Proofs.Json.Parts

/-! # The first file that fails

A file passes the check or fails it with a code of its own (`passes_or_failsWith`). Each file is
reported by itself, and the run ends with the code of the first one that fails, however the reports
are printed (`run_first_failure`). So the run prints what the runs on the single files print, and a
run that is content with a strict check is content without it.
-/

namespace Phrasebook.Command

open Phrasebook.Json

variable {readFile : FileReader} {file : String} {d : Dataset}

theorem ExitStatus.code_eq_zero_iff {s : ExitStatus} : s.code = 0 ↔ s = success := by
  cases s with
  | success => simp [code]
  | usage => simp [code]
  | dataError => simp [code]
  | noInput => simp [code]

namespace CheckRequest

variable {r : CheckRequest} {code : Nat}

/-! ## What is said of a file -/

/-- Nothing is found that is an error, and in a strict check nothing at all. -/
def IsClean (r : CheckRequest) (d : Dataset) : Prop :=
  (r.strict = true → Lint.findings r.expander d = []) ∧
    ∀ f ∈ Lint.findings r.expander d, f.severity ≠ .error

/-- The file holds a dataset, and it is clean. -/
def Passes (r : CheckRequest) (readFile : FileReader) (file : String) : Prop :=
  ∃ d, Dataset.load readFile file = .ok d ∧ r.IsClean d

/-- The code with which the check of a file fails. -/
inductive FailsWith (r : CheckRequest) (readFile : FileReader) (file : String) : Nat → Prop where
  | unreadable {reason : ReadFailure} (h : readFile file = .error reason) :
      FailsWith r readFile file 66
  | unparsable {content : String} {fault : Fault} (h : readFile file = .ok content)
      (bad : Dataset.ofJson content = .error fault) : FailsWith r readFile file 65
  | unclean {d : Dataset} (load : Dataset.load readFile file = .ok d) (found : ¬ r.IsClean d) :
      FailsWith r readFile file 65

/-- A finding as it is reported. -/
def findingRow (f : Finding) : List (String × String) :=
  [("severity", f.severity.label), ("kind", f.kind), ("message", f.message)]

/-- The entry for a file in the report: its findings in their order, if it holds a dataset. -/
inductive EntryFor (r : CheckRequest) (readFile : FileReader) (file : String) :
    List (String × Part) → Prop where
  | loaded {d : Dataset} (load : Dataset.load readFile file = .ok d) :
      EntryFor r readFile file [("file", .text file), ("loaded", .truth true),
        ("findings", .rows ((Lint.findings r.expander d).map findingRow))]
  | notLoaded {e : LoadError} (load : Dataset.load readFile file = .error e) :
      EntryFor r readFile file
        [("file", .text file), ("loaded", .truth false), ("findings", .rows [])]

/-! ## How the check of a file ends -/

def report (r : CheckRequest) (readFile : FileReader) (file : String) : FileReport :=
  FileReport.ofFile readFile r.expander file

theorem report_of_load (load : Dataset.load readFile file = .ok d) :
    r.report readFile file = .checked file (Lint.findings r.expander d) := by
  rw [report, FileReport.ofFile, load]

theorem report_of_load_error {e : LoadError} (load : Dataset.load readFile file = .error e) :
    r.report readFile file = .notLoaded file e := by
  rw [report, FileReport.ofFile, load]

theorem any_isFailing_iff :
    (Lint.findings r.expander d).any (FileReport.isFailing r.strict) = true ↔ ¬ r.IsClean d := by
  rw [List.any_eq_true]
  constructor
  · rintro ⟨f, found, failing⟩ ⟨strict, lenient⟩
    rcases (by simpa [FileReport.isFailing] using failing : r.strict = true ∨ f.severity = .error)
      with h | h
    · rw [strict h] at found
      contradiction
    · exact lenient f found h
  · intro unclean
    by_contra none
    refine unclean ⟨fun strict => ?_, fun f found error => ?_⟩
    · refine List.eq_nil_iff_forall_not_mem.mpr fun f found => none ⟨f, found, ?_⟩
      simp [FileReport.isFailing, strict]
    · exact none ⟨f, found, by simp [FileReport.isFailing, error]⟩

theorem status_of_passes (h : r.Passes readFile file) :
    (r.report readFile file).status r.strict = .success := by
  obtain ⟨d, load, clean⟩ := h
  rw [report_of_load load, FileReport.status, if_neg (mt any_isFailing_iff.mp (not_not.mpr clean))]

theorem status_of_failsWith (h : r.FailsWith readFile file code) :
    (r.report readFile file).status r.strict ≠ .success ∧
      ((r.report readFile file).status r.strict).code = code := by
  cases h with
  | unreadable h =>
      rw [report_of_load_error (load_of_unreadable h)]
      exact ⟨nofun, rfl⟩
  | unparsable h bad =>
      rw [report_of_load_error (load_of_unparsable h bad)]
      exact ⟨nofun, rfl⟩
  | unclean load found =>
      rw [report_of_load load, FileReport.status, if_pos (any_isFailing_iff.mpr found)]
      exact ⟨nofun, rfl⟩

theorem passes_or_failsWith (r : CheckRequest) (readFile : FileReader) (file : String) :
    r.Passes readFile file ∨ ∃ code, r.FailsWith readFile file code := by
  rcases load_cases readFile file with ⟨reason, h⟩ | ⟨content, fault, h, bad⟩ | ⟨d, load⟩
  · exact Or.inr ⟨66, .unreadable h⟩
  · exact Or.inr ⟨65, .unparsable h bad⟩
  · by_cases clean : r.IsClean d
    · exact Or.inl ⟨d, load, clean⟩
    · exact Or.inr ⟨65, .unclean load clean⟩

theorem status_eq_success_iff :
    (r.report readFile file).status r.strict = .success ↔ r.Passes readFile file := by
  refine ⟨fun h => ?_, status_of_passes⟩
  rcases passes_or_failsWith r readFile file with passes | ⟨code, fails⟩
  · exact passes
  · exact absurd h (status_of_failsWith fails).1

/-! ## How the run ends -/

/-- A run ends as the first file does, unless it passes: then the other files decide. -/
theorem status_cons (report : FileReport) (reports : List FileReport) :
    r.status (report :: reports) =
      if report.status r.strict = .success then r.status reports else report.status r.strict := by
  unfold CheckRequest.status
  by_cases success : report.status r.strict = .success
  · simp [success]
  · simp [success]

theorem run_status_eq_success_iff {files : List String} :
    r.status (files.map (r.report readFile)) = .success ↔
      ∀ file ∈ files, r.Passes readFile file := by
  induction files with
  | nil => simp [CheckRequest.status]
  | cons file files ih =>
      rw [List.map_cons, status_cons, List.forall_mem_cons, ← status_eq_success_iff, ← ih]
      by_cases success : (r.report readFile file).status r.strict = .success
      · simp [success]
      · simp [success]

theorem code_of_first_failure {before : List String} (passed : ∀ f ∈ before, r.Passes readFile f)
    (fails : r.FailsWith readFile file code) (after : List String) :
    (r.status ((before ++ file :: after).map (r.report readFile))).code = code := by
  induction before with
  | nil =>
      obtain ⟨failure, code⟩ := status_of_failsWith fails
      rw [List.nil_append, List.map_cons, status_cons, if_neg failure, code]
  | cons f before ih =>
      obtain ⟨passes, passed⟩ := List.forall_mem_cons.mp passed
      rw [List.cons_append, List.map_cons, status_cons, if_pos (status_of_passes passes), ih passed]

theorem exists_first_failure {files : List String} (h : ¬ ∀ f ∈ files, r.Passes readFile f) :
    ∃ before file after code, files = before ++ file :: after ∧
      (∀ f ∈ before, r.Passes readFile f) ∧ r.FailsWith readFile file code := by
  induction files with
  | nil => simp at h
  | cons f files ih =>
      rcases passes_or_failsWith r readFile f with passes | ⟨code, fails⟩
      · have later : ¬ ∀ f ∈ files, r.Passes readFile f := fun all =>
          h (List.forall_mem_cons.mpr ⟨passes, all⟩)
        obtain ⟨before, file, after, code, rfl, passed, fails⟩ := ih later
        exact ⟨f :: before, file, after, code, rfl, List.forall_mem_cons.mpr ⟨passes, passed⟩, fails⟩
      · exact ⟨[], f, files, code, rfl, by simp, fails⟩

theorem Passes.of_strict (h : { r with strict := true }.Passes readFile file) :
    { r with strict := false }.Passes readFile file := by
  obtain ⟨d, load, clean⟩ := h
  exact ⟨d, load, nofun, clean.2⟩

/-! ## What the run prints -/

theorem lines_flatMap {α : Type} (f : α → List String) (xs : List α) :
    lines (xs.flatMap f) = String.join (xs.map fun x => lines (f x)) := by
  induction xs with
  | nil => rfl
  | cons x xs ih =>
      rw [List.flatMap_cons, List.map_cons, String.join_cons, ← ih, lines, List.map_append,
        String.join_append, lines, lines]

def entries : Reader (List (List (String × Part))) := .list (.object .part)

/-- The entry of a report on a file. -/
def entryOf : FileReport → List (String × Part)
  | .notLoaded file _ => [("file", .text file), ("loaded", .truth false), ("findings", .rows [])]
  | .checked file findings =>
    [("file", .text file), ("loaded", .truth true),
      ("findings", .rows (findings.map findingRow))]

def entryValue (entry : List (String × Part)) : Value :=
  .object (entry.map fun m => (m.1, m.2.toValue))

theorem undoes_entries : entries.Undoes fun es => (Value.list (es.map entryValue)).prettyAt 0 :=
  Reader.undoes_prettyList (Reader.undoes_prettyObject (Reader.undoes_part 2))

theorem toValue_eq (report : FileReport) : report.toValue = entryValue (entryOf report) := by
  cases report with
  | notLoaded file e => rfl
  | checked file findings =>
      have rows : findings.map FileReport.findingValue =
          (findings.map findingRow).map Part.rowValue := by
        rw [List.map_map]
        rfl
      rw [FileReport.toValue, rows]
      rfl

theorem readAll_reports (reports : List FileReport) :
    entries.readAll (lines [(Value.list (reports.map FileReport.toValue)).toPretty]) =
      .ok (reports.map entryOf) := by
  have values : reports.map FileReport.toValue = (reports.map entryOf).map entryValue := by
    rw [List.map_map]
    exact List.map_congr_left fun report _ => toValue_eq report
  rw [lines_singleton, values]
  exact Reader.readAll_pretty_line undoes_entries _

theorem entryFor_report (r : CheckRequest) (readFile : FileReader) (file : String) :
    r.EntryFor readFile file (entryOf (r.report readFile file)) := by
  cases load : Dataset.load readFile file with
  | ok d =>
      rw [report_of_load load]
      exact .loaded load
  | error e =>
      rw [report_of_load_error load]
      exact .notLoaded load

theorem forall₂_entryFor (r : CheckRequest) (readFile : FileReader) (files : List String) :
    List.Forall₂ (r.EntryFor readFile) files
      ((files.map (r.report readFile)).map entryOf) := by
  induction files with
  | nil => exact .nil
  | cons file files ih => exact .cons (entryFor_report r readFile file) ih

/-- A check succeeds just if all files pass, and otherwise ends with the code of the first one that
fails. Neither the format nor the colour bears on that. Whichever files fail, all of them are
reported: as text one behind the other, each as it would be alone, and in JSON by one entry each.
What passes a strict check passes one that is not. -/
theorem run_first_failure (r : CheckRequest) (readFile : FileReader) (color : Bool) :
    let outcome := r.run readFile color
    (outcome.status.code = 0 ↔ ∀ file ∈ r.files, r.Passes readFile file) ∧
    (∀ code, code ≠ 0 → (outcome.status.code = code ↔
      ∃ before file after, r.files = before ++ file :: after ∧
        (∀ f ∈ before, r.Passes readFile f) ∧ r.FailsWith readFile file code)) ∧
    (∀ json color', ({ r with json := json }.run readFile color').status = outcome.status) ∧
    ({ r with json := false }.run readFile color).output =
      String.join (r.files.map fun file =>
        ({ r with files := [file], json := false }.run readFile color).output) ∧
    (∃ reported, entries.readAll ({ r with json := true }.run readFile color).output =
      .ok reported ∧ List.Forall₂ (r.EntryFor readFile) r.files reported) ∧
    (({ r with strict := true }.run readFile color).status.code = 0 →
      ({ r with strict := false }.run readFile color).status.code = 0) := by
  intro outcome
  have succeeds (r : CheckRequest) : (r.run readFile color).status.code = 0 ↔
      ∀ file ∈ r.files, r.Passes readFile file := by
    rw [← run_status_eq_success_iff]
    exact ExitStatus.code_eq_zero_iff
  refine ⟨succeeds r, ?_, fun json color' => rfl, ?_, ?_, ?_⟩
  · intro code failure
    constructor
    · intro ends
      have notAll : ¬ ∀ file ∈ r.files, r.Passes readFile file := fun all =>
        failure (ends.symm.trans ((succeeds r).mpr all))
      obtain ⟨before, file, after, code', split, passed, fails⟩ := exists_first_failure notAll
      have first := code_of_first_failure passed fails after
      rw [← split] at first
      obtain rfl : code' = code := first.symm.trans ends
      exact ⟨before, file, after, split, passed, fails⟩
    · rintro ⟨before, file, after, split, passed, fails⟩
      have first := code_of_first_failure passed fails after
      rwa [← split] at first
  · show lines ((r.files.map (r.report readFile)).flatMap (FileReport.toLines color)) = _
    rw [lines_flatMap, List.map_map]
    refine congrArg String.join (List.map_congr_left fun file _ => ?_)
    show _ = lines ([r.report readFile file].flatMap (FileReport.toLines color))
    rw [List.flatMap_singleton]
    rfl
  · exact ⟨_, readAll_reports _, forall₂_entryFor r readFile r.files⟩
  · intro strict
    refine (succeeds { r with strict := false }).mpr fun file hfile => ?_
    exact Passes.of_strict ((succeeds { r with strict := true }).mp strict file hfile)

/-- All placeholders are used. -/
def tidy : Dataset := ⟨["[a]"], Assets.ofList [("a", ["x"])]⟩

/-- One placeholder is not used. -/
def idle : Dataset := ⟨["[a]"], Assets.ofList [("a", ["x"]), ("b", ["y"])]⟩

/-- Files with these datasets, and one that breaks off. -/
def threeFiles : FileReader := fun path =>
  if path = "tidy" then .ok tidy.toValue.toCompact
  else if path = "idle" then .ok idle.toValue.toCompact
  else if path = "torn" then .ok "["
  else .error .notFound

/-- A warning is a failure in a strict check only. Of a file that breaks off and one that is not
there the first decides. -/
theorem run_first_failure_torn :
    (run ⟨["idle", "torn", "gone"], false, false, true⟩ threeFiles true).status.code = 65 ∧
      (run ⟨["idle", "gone", "torn"], false, false, false⟩ threeFiles true).status.code = 66 ∧
      (run ⟨["tidy", "idle", "gone"], true, false, false⟩ threeFiles true).status.code = 65 ∧
      (run ⟨["tidy"], true, false, true⟩ threeFiles true).status.code = 0 ∧
      (run ⟨["tidy"], false, false, true⟩ threeFiles true).status.code = 0 := by
  have loaded_tidy : Dataset.load threeFiles "tidy" = .ok tidy := by decide +kernel
  have loaded_idle : Dataset.load threeFiles "idle" = .ok idle := by decide +kernel
  have found_tidy : Lint.findings {} tidy = [] := by decide +kernel
  have found_idle : Lint.findings {} idle = [.unusedAsset "b"] := by decide +kernel
  have torn : Dataset.ofJson "[" = .error (.before .endInList []) := by decide +kernel
  have passes_idle (files : List String) (json : Bool) :
      Passes ⟨files, false, false, json⟩ threeFiles "idle" := by
    refine ⟨idle, loaded_idle, nofun, fun f found => ?_⟩
    obtain rfl : f = .unusedAsset "b" := by simpa [found_idle, expander] using found
    decide
  have passes_tidy (files : List String) (json : Bool) :
      Passes ⟨files, true, false, json⟩ threeFiles "tidy" := by
    refine ⟨tidy, loaded_tidy, fun _ => found_tidy, fun f found => ?_⟩
    simp [found_tidy, expander] at found
  have idle_fails (files : List String) (json : Bool) :
      FailsWith ⟨files, true, false, json⟩ threeFiles "idle" 65 := by
    refine .unclean loaded_idle fun clean => ?_
    have none := clean.1 rfl
    simp [found_idle, expander] at none
  obtain ⟨-, first, -⟩ :=
    run_first_failure ⟨["idle", "torn", "gone"], false, false, true⟩ threeFiles true
  obtain ⟨-, second, -⟩ :=
    run_first_failure ⟨["idle", "gone", "torn"], false, false, false⟩ threeFiles true
  obtain ⟨-, third, -⟩ :=
    run_first_failure ⟨["tidy", "idle", "gone"], true, false, false⟩ threeFiles true
  obtain ⟨succeeds, -, -, -, -, lenient⟩ :=
    run_first_failure ⟨["tidy"], true, false, true⟩ threeFiles true
  have strict := succeeds.mpr (List.forall_mem_singleton.mpr (passes_tidy _ _))
  refine ⟨?_, ?_, ?_, strict, lenient strict⟩
  · refine (first 65 (by decide)).mpr ⟨["idle"], "torn", ["gone"], rfl, ?_, .unparsable rfl torn⟩
    exact List.forall_mem_singleton.mpr (passes_idle _ _)
  · refine (second 66 (by decide)).mpr ⟨["idle"], "gone", ["torn"], rfl, ?_, .unreadable rfl⟩
    exact List.forall_mem_singleton.mpr (passes_idle _ _)
  · refine (third 65 (by decide)).mpr ⟨["tidy"], "idle", ["gone"], rfl, ?_, idle_fails _ _⟩
    exact List.forall_mem_singleton.mpr (passes_tidy _ _)

end CheckRequest

end Phrasebook.Command
