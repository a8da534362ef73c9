import Mathlib.Data.List.Perm.Subperm
import Phrasebook.Proofs.Expander.Failure
import Phrasebook.Proofs.Generator.Failure
import Phrasebook.Proofs.Lint.Cycles

/-! # Failures that are announced

Whatever a generation fails with, a finding has announced it (`failure_announced`). The trail of the
failing expansion leads from a template to the placeholder that the error names, so the checks come
by that placeholder too. A trail that is too long for the depth limit either leaves the assets, or
runs in a circle, or passes more placeholders than the limit allows for (`announced_of_too_deep`).
-/

namespace Phrasebook.Lint

open Phrasebook.Random

/-- A finding foretells the error. For an expansion that nests deeper than `limit` it may instead be
the number of assets that does. -/
def Announced (l : Expander) (d : Dataset) (limit : Nat) : ExpandError → Prop
  | .placeholderNotFound name suggestions =>
    ∃ origin, .unknownPlaceholder name origin suggestions ∈ findings l d
  | .emptyChoice name => .emptyCandidates name ∈ findings l d
  | .maxDepthExceeded _ _ =>
    (∃ chain, .cycle chain ∈ findings l d) ∨
      (∃ name origin suggestions, .unknownPlaceholder name origin suggestions ∈ findings l d) ∨
      limit + 1 < d.assets.size
  | .noTemplates => .noTemplates ∈ findings l d
  | .templateIndexOutOfRange _ _ => False

variable {l : Expander} {d : Dataset} {t : String}

/-! ## Trails from a template -/

theorem exists_origin_of_isTrail {ks : List String} {name : String} (ht : t ∈ d.templates)
    (trail : l.IsTrail d.assets t (ks ++ [name])) : ∃ origin, RefersFrom l d name origin := by
  rcases List.eq_nil_or_concat ks with rfl | ⟨ks, k, rfl⟩
  · obtain ⟨index, ht⟩ := List.mem_iff_getElem?.mp ht
    exact ⟨.template index, t, ht, trail.1 name rfl⟩
  · have last : [k, name] <:+: ks.concat k ++ [name] := ⟨ks, [], by simp⟩
    exact ⟨.asset k, rel_of_consecutive trail.2 last⟩

theorem exists_unknownPlaceholder_of_isTrail {ks : List String} {name : String}
    (ht : t ∈ d.templates) (trail : l.IsTrail d.assets t (ks ++ [name]))
    (unknown : d.assets.contains name = false) :
    ∃ origin, .unknownPlaceholder name origin (Suggestion.suggest name d.assets.names) ∈
      findings l d := by
  obtain ⟨origin, place⟩ := exists_origin_of_isTrail ht trail
  exact ⟨origin, unknownPlaceholder_mem_findings_iff.mpr ⟨unknown, rfl, place⟩⟩

/-- On a trail to a known placeholder all are known. -/
theorem contains_of_isTrail {ks : List String} {name : String}
    (trail : l.IsTrail d.assets t (ks ++ [name])) (known : d.assets.contains name = true) :
    ∀ k ∈ ks ++ [name], d.assets.contains k = true := by
  intro k hk
  rcases List.mem_append.mp hk with hk | hk
  · exact trail.contains_of_mem k hk
  · exact List.mem_singleton.mp hk ▸ known

/-- A trail through known placeholders is no longer than the assets are many, unless a cycle is
reported. -/
theorem length_le_size_of_isTrail {ks : List String} (trail : l.IsTrail d.assets t ks)
    (known : ∀ k ∈ ks, d.assets.contains k = true)
    (acyclic : ∀ chain, .cycle chain ∉ findings l d) : ks.length ≤ d.assets.size := by
  have linked : ks.IsChain (Links l d) :=
    trail.2.imp_of_mem_imp fun _ next _ hn refers => ⟨refers, known next hn⟩
  have nodup : ks.Nodup := by
    refine nodup_of_isChain linked fun walk hw => ?_
    obtain ⟨chain, hc, -⟩ := exists_cycle_of_isClosedWalk hw
    exact acyclic chain hc
  have sub : ks ⊆ d.assets.names := fun k hk => Assets.contains_iff.mp (known k hk)
  calc ks.length ≤ d.assets.names.length := (nodup.subperm sub).length_le
    _ = d.assets.size := List.length_map _

/-! ## Announcements -/

/-- An expansion that nests too deeply meets a cycle, an unknown placeholder, or more placeholders
than the limit allows for: its chain and the marker behind it are two names more than the limit. -/
theorem announced_of_too_deep {limit : Nat} {chain : List String} {next : String}
    (ht : t ∈ d.templates) (length : chain.length = limit + 1)
    (trail : l.IsTrail d.assets t (chain ++ [next])) :
    (∃ c, .cycle c ∈ findings l d) ∨
      (∃ name origin suggestions, .unknownPlaceholder name origin suggestions ∈ findings l d) ∨
      limit + 1 < d.assets.size := by
  by_cases cyclic : ∃ c, .cycle c ∈ findings l d
  · exact Or.inl cyclic
  refine Or.inr ?_
  cases known : d.assets.contains next with
  | false =>
      obtain ⟨origin, found⟩ := exists_unknownPlaceholder_of_isTrail ht trail known
      exact Or.inl ⟨next, origin, _, found⟩
  | true =>
      have bound := length_le_size_of_isTrail trail (contains_of_isTrail trail known)
        fun c hc => cyclic ⟨c, hc⟩
      rw [List.length_append, List.length_singleton, length] at bound
      exact Or.inr bound

/-- What an accurate error says of the assets is in the findings. -/
theorem announced_of_accurateFailure {e : Expander} {err : ExpandError}
    (same : l.optionalMarkers = e.optionalMarkers) (ht : t ∈ d.templates)
    (h : e.AccurateFailure d.assets t err) : Announced l d e.depthLimit err := by
  cases err with
  | placeholderNotFound name suggestions =>
      obtain ⟨missing, rfl, ks, -, trail⟩ := h
      refine exists_unknownPlaceholder_of_isTrail ht (trail.congr same) ?_
      rw [Assets.contains, missing]
      rfl
  | emptyChoice name => exact emptyCandidates_mem_findings_iff.mpr h.1
  | maxDepthExceeded maxDepth chain =>
      obtain ⟨-, length, next, trail⟩ := h
      exact announced_of_too_deep ht length (trail.congr same)
  | noTemplates => exact h.elim
  | templateIndexOutOfRange index count => exact h.elim

theorem announced_of_failsWith {g : Generator} {s : Words} {err : ExpandError}
    (same : l.optionalMarkers = g.expander.optionalMarkers) (h : g.FailsWith s err) :
    Announced l g.dataset g.expander.depthLimit err := by
  rcases Generator.cause_of_failsWith h with ⟨empty, rfl⟩ | ⟨t, ht, h⟩
  · exact noTemplates_mem_findings_iff.mpr empty
  · exact announced_of_accurateFailure same ht (Expander.accurateFailure_of_ends_expand h)

/-- Without error findings, cycles and too many assets there is nothing to announce. -/
theorem not_announced {limit : Nat} {err : ExpandError}
    (noError : ∀ f ∈ findings l d, f.severity ≠ .error)
    (acyclic : ∀ chain, .cycle chain ∉ findings l d) (few : d.assets.size ≤ limit + 1) :
    ¬ Announced l d limit err := by
  intro h
  cases err with
  | placeholderNotFound name suggestions =>
      obtain ⟨origin, found⟩ := h
      exact noError _ found rfl
  | emptyChoice name => exact noError _ h rfl
  | maxDepthExceeded maxDepth chain =>
      rcases h with ⟨c, found⟩ | ⟨name, origin, suggestions, found⟩ | many
      · exact acyclic c found
      · exact noError _ found rfl
      · exact Nat.not_lt.mpr few many
  | noTemplates => exact noError _ h rfl
  | templateIndexOutOfRange index count => exact h

/-- Every failure of a generation is announced by the findings, if markers are read alike. So a
dataset with no error finding, no cycle, and at most one asset more than the depth limit never makes
a generation fail. -/
theorem failure_announced (g : Generator) (l : Expander)
    (same : l.optionalMarkers = g.expander.optionalMarkers) :
    (∀ s err, g.FailsWith s err → Announced l g.dataset g.expander.depthLimit err) ∧
    ((∀ f ∈ findings l g.dataset, f.severity ≠ .error) →
      (∀ chain, .cycle chain ∉ findings l g.dataset) →
      g.dataset.assets.size ≤ g.expander.depthLimit + 1 → ∀ s, g.Succeeds s) := by
  refine ⟨fun s err => announced_of_failsWith same, fun noError acyclic few s => ?_⟩
  refine Generator.succeeds_of_not_failsWith fun err h => ?_
  exact not_announced noError acyclic few (announced_of_failsWith same h)

/-- Two placeholders, one in a candidate of the other: one too many if there may be no nesting, and
as many as a single nesting can bear. -/
def nested : Dataset := ⟨["[a]"], Assets.ofList [("a", ["[b]"]), ("b", ["x"])]⟩

theorem failure_announced_of_nested :
    Announced {} nested 0 (.maxDepthExceeded 0 ["a"]) ∧
      ∀ s, Generator.Succeeds ⟨nested, ⟨1, false, none⟩, false⟩ s := by
  have silent : findings {} nested = [] := by decide +kernel
  constructor
  · refine (failure_announced ⟨nested, ⟨0, false, none⟩, false⟩ {} rfl).1 default _ ?_
    exact .generate (by decide +kernel)
  · refine (failure_announced ⟨nested, ⟨1, false, none⟩, false⟩ {} rfl).2 ?_ ?_ (by decide)
    · simp [silent]
    · simp [silent]

end Phrasebook.Lint
