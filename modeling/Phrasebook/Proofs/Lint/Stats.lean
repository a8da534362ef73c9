import Phrasebook.Command.Check
import Phrasebook.Command.Stats
import Phrasebook.Proofs.Lint.Order

/-! # Numbers and findings

The rows of the numbers and the findings of the check come from computations of their own, and yet
tell of the same references. A row lists what the candidates of its placeholder refer to
(`mem_references_of_row_iff`), so the unknown names in it are those that are reported for the
placeholder, in the same order, and the rows among themselves are linked as the search for cycles
sees them (`rowLinks_iff`).
-/

namespace Phrasebook

/-- The name of a finding that reports an unknown placeholder at the given origin. -/
def Finding.unknownAt? (origin : Origin) : Finding → Option String
  | .unknownPlaceholder name o _ => if o = origin then some name else none
  | _ => none

theorem Finding.unknownAt?_eq_some_iff {origin : Origin} {f : Finding} {name : String} :
    f.unknownAt? origin = some name ↔ ∃ s, f = .unknownPlaceholder name origin s := by
  cases f with
  | unknownPlaceholder n o s =>
      by_cases same : o = origin
      · simp [unknownAt?, same]
      · simp [unknownAt?, same]
  | _ => simp [unknownAt?]

/-- A row refers to the placeholder of a row. -/
def RowLinks (rows : List PlaceholderStats) (k next : String) : Prop :=
  ∃ row ∈ rows, row.name = k ∧ next ∈ row.references ∧ next ∈ rows.map (·.name)

namespace Lint

variable {e : Expander} {d : Dataset} {row : PlaceholderStats}

/-! ## Rows -/

theorem map_name_stats (e : Expander) (d : Dataset) :
    (d.stats e).map (·.name) = d.assets.names := by
  rw [Dataset.stats, List.map_map]
  rfl

theorem exists_candidates_of_row (h : row ∈ d.stats e) :
    ∃ candidates, d.assets.candidates? row.name = some candidates ∧
      row.candidates = candidates.length ∧
      row.nested = candidates.countP Template.hasBrackets ∧
      row.references = Names.ofList (candidates.flatMap e.keys) := by
  obtain ⟨entry, mem, rfl⟩ := List.mem_map.mp h
  exact ⟨entry.2, Assets.candidates?_eq_some_iff.mpr mem, rfl, rfl, rfl⟩

theorem ascending_references_of_row (h : row ∈ d.stats e) : row.references.Pairwise (· < ·) := by
  obtain ⟨candidates, -, -, -, references⟩ := exists_candidates_of_row h
  rw [references]
  exact Names.ascending_ofList _

theorem mem_references_of_row_iff (h : row ∈ d.stats e) {next : String} :
    next ∈ row.references ↔ e.Refers d.assets row.name next := by
  obtain ⟨candidates, known, -, -, references⟩ := exists_candidates_of_row h
  rw [references, Names.mem_ofList, List.mem_flatMap, Expander.Refers, known]
  simp

theorem exists_row_of_contains {k : String} (h : d.assets.contains k = true) :
    ∃ row ∈ d.stats e, row.name = k := by
  rw [Assets.contains_iff, ← map_name_stats e d] at h
  exact List.mem_map.mp h

theorem rowLinks_iff {k next : String} : RowLinks (d.stats e) k next ↔ Links e d k next := by
  rw [RowLinks, Links, map_name_stats, ← Assets.contains_iff]
  constructor
  · rintro ⟨row, mem, rfl, reference, known⟩
    exact ⟨(mem_references_of_row_iff mem).mp reference, known⟩
  · rintro ⟨refers, known⟩
    obtain ⟨row, mem, rfl⟩ := exists_row_of_contains (e := e) (Expander.contains_of_refers refers)
    exact ⟨row, mem, rfl, (mem_references_of_row_iff mem).mpr refers, known⟩

/-! ## Findings -/

theorem ascending_unknownAt (e : Expander) (d : Dataset) (origin : Origin) :
    ((findings e d).filterMap (Finding.unknownAt? origin)).Pairwise (· < ·) := by
  refine List.pairwise_filterMap.mpr ((pairwise_findings e d).imp fun {f g} before n hn m hm => ?_)
  obtain ⟨_, rfl⟩ := Finding.unknownAt?_eq_some_iff.mp hn
  obtain ⟨_, rfl⟩ := Finding.unknownAt?_eq_some_iff.mp hm
  exact Finding.before_unknownPlaceholder_iff.mp before

theorem mem_unknownAt_iff {origin : Origin} {name : String} :
    name ∈ (findings e d).filterMap (Finding.unknownAt? origin) ↔
      RefersFrom e d name origin ∧ d.assets.contains name = false := by
  simp only [List.mem_filterMap, Finding.unknownAt?_eq_some_iff]
  constructor
  · rintro ⟨_, found, _, rfl⟩
    obtain ⟨unknown, -, place⟩ := unknownPlaceholder_mem_findings_iff.mp found
    exact ⟨place, unknown⟩
  · rintro ⟨place, unknown⟩
    exact ⟨_, unknownPlaceholder_mem_findings_iff.mpr ⟨unknown, rfl, place⟩, _, rfl⟩

/-- The names reported for a placeholder are the unknown ones in its row, in the same order. -/
theorem unknownAt_eq_filter (h : row ∈ d.stats e) :
    (findings e d).filterMap (Finding.unknownAt? (.asset row.name)) =
      row.references.filter (· ∉ (d.stats e).map (·.name)) := by
  refine Names.eq_of_ascending (ascending_unknownAt e d _)
    ((ascending_references_of_row h).filter _) fun name => ?_
  rw [mem_unknownAt_iff, List.mem_filter, mem_references_of_row_iff h, map_name_stats]
  refine and_congr Iff.rfl ?_
  rw [decide_eq_true_iff, ← Assets.contains_iff, Bool.not_eq_true]

theorem emptyCandidates_iff_of_row (h : row ∈ d.stats e) :
    .emptyCandidates row.name ∈ findings e d ↔ row.candidates = 0 := by
  obtain ⟨candidates, known, count, -⟩ := exists_candidates_of_row h
  rw [emptyCandidates_mem_findings_iff, known, count, List.length_eq_zero_iff, Option.some.injEq]

theorem not_unused_of_reference (h : row ∈ d.stats e) {k : String} (reference : k ∈ row.references)
    (ne : k ≠ row.name) : .unusedAsset k ∉ findings e d := by
  intro unused
  have refers : e.Refers d.assets row.name k := (mem_references_of_row_iff h).mp reference
  exact (unusedAsset_mem_findings_iff.mp unused).2
    (mem_usedNames_iff.mpr (Or.inr ⟨row.name, Ne.symm ne, refers⟩))

theorem exists_cycle_iff_rowLinks :
    (∃ chain, .cycle chain ∈ findings e d) ↔ ∃ walk, IsClosedWalk (RowLinks (d.stats e)) walk := by
  have links : RowLinks (d.stats e) = Links e d := by
    funext k next
    exact propext rowLinks_iff
  rw [links]
  constructor
  · rintro ⟨chain, found⟩
    exact ⟨chain, (isSimpleCycle_of_cycle_mem_findings found).toIsClosedWalk⟩
  · rintro ⟨walk, closed⟩
    obtain ⟨chain, found, -⟩ := exists_cycle_of_isClosedWalk closed
    exact ⟨chain, found⟩

open Command in
/-- If markers are read alike, the rows of the numbers and the findings of the check agree on the
placeholders, on what they refer to, on the empty ones, and on whether there is a cycle. -/
theorem stats_findings (d : Dataset) (stats : StatsRequest) (check : CheckRequest)
    (same : stats.optionalMarkers = check.optionalMarkers) :
    let rows := d.stats stats.expander
    let found := findings check.expander d
    rows.map (·.name) = d.assets.names ∧ (rows.map (·.name)).Pairwise (· < ·) ∧
    (∀ row ∈ rows, row.references.Pairwise (· < ·) ∧
      found.filterMap (Finding.unknownAt? (.asset row.name)) =
        row.references.filter (· ∉ rows.map (·.name)) ∧
      (.emptyCandidates row.name ∈ found ↔ row.candidates = 0) ∧
      ∀ k ∈ row.references, k ≠ row.name → k ∈ rows.map (·.name) → .unusedAsset k ∉ found) ∧
    ((∃ chain, .cycle chain ∈ found) ↔ ∃ walk, IsClosedWalk (RowLinks rows) walk) := by
  intro rows found
  have alike : stats.expander = check.expander := by
    rw [StatsRequest.expander, CheckRequest.expander, same]
  have eq : found = findings stats.expander d := by rw [alike]
  rw [eq]
  refine ⟨map_name_stats _ d, ?_, fun row mem => ⟨ascending_references_of_row mem,
    unknownAt_eq_filter mem, emptyCandidates_iff_of_row mem, fun k reference ne _ =>
      not_unused_of_reference mem reference ne⟩, exists_cycle_iff_rowLinks⟩
  exact (map_name_stats _ d).symm ▸ d.assets.ascending_names

/-- The first two placeholders lead to each other, though not under these names, unless markers may
be optional. -/
def crossed : Dataset :=
  ⟨["[a]"], Assets.ofList [("a", ["[b?]", "[x] [b?30]"]), ("b", ["[a]"]), ("c", [])]⟩

theorem stats_findings_crossed :
    (findings ⟨64, true, none⟩ crossed).filterMap (Finding.unknownAt? (.asset "a")) = ["x"] ∧
      .emptyCandidates "c" ∈ findings ⟨64, true, none⟩ crossed ∧
      ∃ walk, IsClosedWalk (RowLinks (crossed.stats ⟨64, true, none⟩)) walk := by
  obtain ⟨-, -, rows, cycle⟩ :=
    stats_findings crossed ⟨"data", false, true⟩ ⟨["data"], false, true, false⟩ rfl
  have nested : ⟨"a", 2, 2, ["b", "x"]⟩ ∈ crossed.stats ⟨64, true, none⟩ := by decide +kernel
  have empty : ⟨"c", 0, 0, []⟩ ∈ crossed.stats ⟨64, true, none⟩ := by decide +kernel
  have reported : .cycle ["a", "b", "a"] ∈ findings ⟨64, true, none⟩ crossed := by decide +kernel
  have unknown : ["b", "x"].filter (· ∉ (crossed.stats ⟨64, true, none⟩).map (·.name)) = ["x"] := by
    decide +kernel
  exact ⟨(rows _ nested).2.1.trans unknown, (rows _ empty).2.2.1.mpr rfl, cycle.mp ⟨_, reported⟩⟩

end Lint

end Phrasebook
