import Phrasebook.Proofs.Graph.Search
import Phrasebook.Proofs.Lint.Findings

/-! # Cycles of placeholders

The graph that is searched joins each placeholder to the known ones its candidates refer to
(`edge_graph_iff`), and lists no edge twice. So what the search says of its graph holds of the
references themselves: every reported chain is a simple cycle, no two of them have the same last
edge, and every cycle of references runs through the last edge of some chain.
-/

namespace Phrasebook

/-- The chain of a finding that reports a cycle. -/
def Finding.chain? : Finding → Option (List String)
  | .cycle chain => some chain
  | _ => none

namespace Lint

/-- A candidate of `k` refers to `next`, and the assets have `next`. -/
def Links (e : Expander) (d : Dataset) (k next : String) : Prop :=
  e.Refers d.assets k next ∧ d.assets.contains next = true

variable {e : Expander} {d : Dataset}

/-! ## The graph -/

theorem find?_entries_eq (k : String) (es : List (String × List String)) :
    (es.find? fun entry => entry.1 = k) =
      (Assets.find k es).map fun candidates => (k, candidates) := by
  induction es with
  | nil => rfl
  | cons entry es ih =>
      by_cases same : entry.1 = k
      · simp [Assets.find, ← same]
      · simp [Assets.find, same, Ne.symm same, ih]

theorem targets_graph (k : String) :
    (graph e d).targets k =
      ((d.assets.candidates? k).map fun candidates =>
        (e.references candidates).filter d.assets.contains).getD [] := by
  have found := find?_entries_eq k d.assets.entries
  simp only [graph, Graph.targets, List.find?_map, Function.comp_def, found, Option.map_map]
  rfl

theorem edge_graph_iff {k next : String} : (graph e d).Edge k next ↔ Links e d k next := by
  rw [Graph.Edge, targets_graph, Links, Expander.Refers]
  cases d.assets.candidates? k with
  | none => simp
  | some candidates => simp [Expander.mem_references_iff]

theorem graph_isSimple (e : Expander) (d : Dataset) : (graph e d).IsSimple := by
  intro k
  rw [targets_graph]
  cases d.assets.candidates? k with
  | none => exact List.nodup_nil
  | some candidates => exact List.Nodup.filter _ (Expander.references_nodup candidates)

theorem edge_graph_eq (e : Expander) (d : Dataset) : (graph e d).Edge = Links e d := by
  funext k next
  exact propext edge_graph_iff

/-! ## The chains -/

theorem filterMap_chain?_append {before after : List Finding} (chains : List (List String))
    (hb : ∀ f ∈ before, f.chain? = none) (ha : ∀ f ∈ after, f.chain? = none) :
    (before ++ chains.map Finding.cycle ++ after).filterMap Finding.chain? = chains := by
  rw [List.filterMap_append, List.filterMap_append, List.filterMap_eq_nil_iff.mpr hb,
    List.filterMap_eq_nil_iff.mpr ha, List.nil_append, List.append_nil, List.filterMap_map]
  exact List.filterMap_some

/-- The chains in the findings are those of the search. -/
theorem filterMap_chain?_findings (e : Expander) (d : Dataset) :
    (findings e d).filterMap Finding.chain? = (graph e d).cycles := by
  refine filterMap_chain?_append _ (fun f hf => ?_) (fun f hf => ?_)
  · rcases List.mem_append.mp hf with hf | inAssets
    · rcases List.mem_append.mp hf with start | inTemplates
      · split at start
        · obtain rfl := List.mem_singleton.mp start
          rfl
        · simp at start
      · obtain ⟨_, _, hf⟩ := List.mem_flatMap.mp inTemplates
        obtain ⟨_, _, _, rfl⟩ := mem_checkTemplate_iff.mp hf
        rfl
    · obtain ⟨_, _, hf⟩ := List.mem_flatMap.mp inAssets
      rcases mem_checkAsset_iff.mp hf with ⟨_, rfl⟩ | ⟨_, _, _, rfl⟩
      · rfl
      · rfl
  · obtain ⟨name, -, rfl⟩ := List.mem_map.mp hf
    rfl

theorem exists_cycle_of_isClosedWalk {walk : List String} (h : IsClosedWalk (Links e d) walk) :
    ∃ chain, .cycle chain ∈ findings e d ∧ ∃ a b, [a, b] <:+ chain ∧ [a, b] <:+: walk := by
  rw [← edge_graph_eq] at h
  obtain ⟨chain, hc, last⟩ := Graph.exists_chain_of_isClosedWalk (graph_isSimple e d) h
  exact ⟨chain, cycle_mem_findings_iff.mpr hc, last⟩

theorem isSimpleCycle_of_cycle_mem_findings {chain : List String}
    (h : .cycle chain ∈ findings e d) : IsSimpleCycle (Links e d) chain := by
  rw [← edge_graph_eq]
  exact Graph.isSimpleCycle_of_mem_cycles (graph_isSimple e d) (cycle_mem_findings_iff.mp h)

/-- The cycles that are reported are simple cycles of references with different last edges, and
every closed walk of references has the last edge of one of them. So some cycle is reported just if
there is one. -/
theorem cycle_findings (e : Expander) (d : Dataset) :
    (∀ chain, .cycle chain ∈ findings e d → IsSimpleCycle (Links e d) chain) ∧
    ((findings e d).filterMap Finding.chain?).Pairwise
      (fun c c' => ∀ a b, [a, b] <:+ c → ¬ [a, b] <:+ c') ∧
    (∀ walk, IsClosedWalk (Links e d) walk →
      ∃ chain, .cycle chain ∈ findings e d ∧ ∃ a b, [a, b] <:+ chain ∧ [a, b] <:+: walk) ∧
    ((∃ chain, .cycle chain ∈ findings e d) ↔ ∃ walk, IsClosedWalk (Links e d) walk) := by
  refine ⟨fun chain => isSimpleCycle_of_cycle_mem_findings, ?_,
    fun walk => exists_cycle_of_isClosedWalk, ?_⟩
  · rw [filterMap_chain?_findings]
    exact Graph.cycles_pairwise_apart (graph_isSimple e d)
  · constructor
    · rintro ⟨chain, hc⟩
      exact ⟨chain, (isSimpleCycle_of_cycle_mem_findings hc).toIsClosedWalk⟩
    · rintro ⟨walk, hw⟩
      obtain ⟨chain, hc, -⟩ := exists_cycle_of_isClosedWalk hw
      exact ⟨chain, hc⟩

/-- Two placeholders that lead to each other, the second also to itself. -/
def entangled : Dataset := ⟨[], Assets.ofList [("a", ["[b]"]), ("b", ["[a]", "[b]"])]⟩

theorem cycle_findings_of_entangled :
    IsClosedWalk (Links {} entangled) ["a", "b", "a"] ∧
      ∃ chain, .cycle chain ∈ findings {} entangled ∧
        ∃ x y, [x, y] <:+ chain ∧ [x, y] <:+: ["a", "b", "a"] := by
  have known : entangled.assets.candidates? "a" = some ["[b]"] := by decide +kernel
  have known' : entangled.assets.candidates? "b" = some ["[a]", "[b]"] := by decide +kernel
  have toB : Expander.keys {} "[b]" = ["b"] := by decide +kernel
  have toA : Expander.keys {} "[a]" = ["a"] := by decide +kernel
  have out : Links {} entangled "a" "b" :=
    ⟨⟨_, "[b]", known, by simp, by simp [toB]⟩, by rw [Assets.contains, known']; rfl⟩
  have back : Links {} entangled "b" "a" :=
    ⟨⟨_, "[a]", known', by simp, by simp [toA]⟩, by rw [Assets.contains, known]; rfl⟩
  have walk : IsClosedWalk (Links {} entangled) ["a", "b", "a"] :=
    ⟨by decide, List.isChain_cons_cons.mpr ⟨out, List.isChain_pair.mpr back⟩, rfl⟩
  exact ⟨walk, (cycle_findings {} entangled).2.2.1 _ walk⟩

end Lint

end Phrasebook
