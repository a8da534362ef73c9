import Mathlib.Data.List.Chain
import Mathlib.Data.List.Nodup
import Phrasebook.Lint.Cycles

/-! # Walks that come back

A closed walk ends where it starts, and a simple cycle passes no other node twice. The path of a
depth-first search gives simple cycles (`isSimpleCycle_of_path`): from the first occurrence of a
node on, with that node again at the end. Without closed walks no walk passes a node twice
(`nodup_of_isChain`).

`Settled.exists_reported` is the reason why reported edges suffice. If nodes are settled one by one,
each when all its edges lead to settled nodes or are reported, then nodes that are all reached from
each other use a reported edge.
-/

namespace Phrasebook

variable {α : Type} {R : α → α → Prop}

/-! ## Closed walks -/

/-- A walk along `R` that ends where it starts. -/
structure IsClosedWalk (R : α → α → Prop) (walk : List α) : Prop where
  two_le_length : 2 ≤ walk.length
  linked : walk.IsChain R
  closed : walk.head? = walk.getLast?

/-- A closed walk that passes no node twice, the start apart. -/
structure IsSimpleCycle (R : α → α → Prop) (walk : List α) : Prop extends IsClosedWalk R walk where
  nodup : walk.dropLast.Nodup

theorem pair_suffix_append_iff {l : List α} {a b c d : α} :
    [a, b] <:+ l ++ [c, d] ↔ a = c ∧ b = d := by
  constructor
  · rintro ⟨p, hp⟩
    have := (List.append_inj' hp rfl).2
    simpa using this
  · rintro ⟨rfl, rfl⟩
    exact List.suffix_append l [a, b]

theorem exists_pair_of_mem_tail {l : List α} {w : α} (h : w ∈ l.tail) : ∃ v, [v, w] <:+: l := by
  cases l with
  | nil => simp at h
  | cons x xs =>
      obtain ⟨p, q, rfl⟩ := List.append_of_mem h
      rcases List.eq_nil_or_concat p with rfl | ⟨p, v, rfl⟩
      · exact ⟨x, [], q, by simp⟩
      · exact ⟨v, x :: p, q, by simp⟩

theorem exists_pair_of_mem_dropLast {l : List α} {v : α} (h : v ∈ l.dropLast) :
    ∃ w, [v, w] <:+: l := by
  rcases List.eq_nil_or_concat l with rfl | ⟨l, x, rfl⟩
  · simp at h
  · rw [List.concat_eq_append, List.dropLast_concat] at h
    obtain ⟨p, q, rfl⟩ := List.append_of_mem h
    cases q with
    | nil => exact ⟨x, p, [], by simp⟩
    | cons w q => exact ⟨w, p, q ++ [x], by simp⟩

theorem rel_of_consecutive {l : List α} {v w : α} (linked : l.IsChain R) (h : [v, w] <:+: l) :
    R v w := List.isChain_pair.mp ( List.IsChain.infix linked h)

namespace IsClosedWalk

variable {walk : List α}

theorem mem_tail (h : IsClosedWalk R walk) {w : α} (hw : w ∈ walk) : w ∈ walk.tail := by
  obtain ⟨two, -, closed⟩ := h
  cases walk with
  | nil => simp at hw
  | cons x xs =>
      rcases List.mem_cons.mp hw with rfl | hw
      · have ne : xs ≠ [] := by
          rintro rfl
          simp at two
        rw [List.head?_cons, List.getLast?_cons, List.getLast?_eq_some_getLast ne] at closed
        rw [Option.some.inj closed]
        exact List.getLast_mem ne
      · exact hw

theorem mem_dropLast (h : IsClosedWalk R walk) {w : α} (hw : w ∈ walk) : w ∈ walk.dropLast := by
  obtain ⟨two, -, closed⟩ := h
  rcases List.eq_nil_or_concat walk with rfl | ⟨xs, x, rfl⟩
  · simp at hw
  · rw [List.concat_eq_append] at two hw closed ⊢
    rw [List.dropLast_concat]
    rcases List.mem_append.mp hw with hw | hw
    · exact hw
    · obtain rfl := List.mem_singleton.mp hw
      cases xs with
      | nil => simp at two
      | cons y ys =>
          rw [List.getLast?_concat] at closed
          exact Option.some.inj closed ▸ List.mem_cons_self

/-- Every node of a closed walk is reached from a node of the walk. -/
theorem exists_pred (h : IsClosedWalk R walk) {w : α} (hw : w ∈ walk) :
    ∃ v ∈ walk, [v, w] <:+: walk := by
  obtain ⟨v, hv⟩ := exists_pair_of_mem_tail (h.mem_tail hw)
  exact ⟨v, hv.mem List.mem_cons_self, hv⟩

/-- Every node of a closed walk has an edge. -/
theorem exists_succ (h : IsClosedWalk R walk) {v : α} (hv : v ∈ walk) : ∃ w, R v w := by
  obtain ⟨w, hw⟩ := exists_pair_of_mem_dropLast (h.mem_dropLast hv)
  exact ⟨w, rel_of_consecutive h.linked hw⟩

end IsClosedWalk

/-- A walk through a graph without closed walks passes no node twice. -/
theorem nodup_of_isChain {walk : List α} (linked : walk.IsChain R)
    (acyclic : ∀ w, ¬ IsClosedWalk R w) : walk.Nodup := by
  induction walk with
  | nil => exact .nil
  | cons x walk ih =>
      refine List.nodup_cons.mpr ⟨fun again => ?_, ih linked.tail⟩
      obtain ⟨p, q, rfl⟩ := List.append_of_mem again
      have loop : x :: p ++ [x] <+: x :: (p ++ x :: q) := ⟨q, by simp⟩
      refine acyclic (x :: p ++ [x]) ⟨by simp, linked.prefix loop, ?_⟩
      rw [List.getLast?_concat]
      rfl

/-! ## Cycles from a path -/

theorem exists_dropWhile_eq [DecidableEq α] {path : List α} {target : α} (h : target ∈ path) :
    ∃ xs ys, path = xs ++ target :: ys ∧ path.dropWhile (· ≠ target) = target :: ys := by
  induction path with
  | nil => simp at h
  | cons x path ih =>
      by_cases same : x = target
      · exact ⟨[], path, by rw [same, List.nil_append], by simp [same]⟩
      · obtain ⟨xs, ys, rfl, drop⟩ := ih ((List.mem_cons.mp h).resolve_left (Ne.symm same))
        exact ⟨x :: xs, ys, rfl, by rw [List.dropWhile_cons_of_pos (by simpa using same), drop]⟩

/-- An edge from the end of a path back to the path closes a simple cycle, and is its last edge. -/
theorem isSimpleCycle_of_path [DecidableEq α] {path : List α} {node target : α}
    (linked : (path ++ [node]).IsChain R) (nodup : (path ++ [node]).Nodup) (edge : R node target)
    (h : target ∈ path ++ [node]) :
    IsSimpleCycle R ((path ++ [node]).dropWhile (· ≠ target) ++ [target]) ∧
      ∃ zs, (path ++ [node]).dropWhile (· ≠ target) ++ [target] = zs ++ [node, target] := by
  obtain ⟨xs, ys, eq, drop⟩ := exists_dropWhile_eq h
  have suffix : target :: ys <:+ path ++ [node] := ⟨xs, eq.symm⟩
  have last : (target :: ys).getLast? = some node := by
    rw [← List.getLast?_append_cons xs, ← eq, List.getLast?_concat]
  rw [drop]
  refine ⟨⟨⟨by simp, ?_, by rw [List.getLast?_concat]; rfl⟩, ?_⟩, ?_⟩
  · refine List.isChain_append.mpr ⟨linked.suffix suffix, .singleton target, ?_⟩
    simpa [last] using edge
  · rw [List.dropLast_concat]
    exact nodup.sublist suffix.sublist
  · obtain ⟨zs, hz⟩ := List.getLast?_eq_some_iff.mp last
    exact ⟨zs, by rw [hz, List.append_assoc]; rfl⟩

/-! ## Settled nodes -/

/-- Nodes settled from the last to the first: each one's edges are reported or lead to nodes that
were settled before it. -/
def Settled (R reported : α → α → Prop) : List α → Prop
  | [] => True
  | n :: rest => (∀ t, R n t → reported n t ∨ t ∈ rest) ∧ Settled R reported rest

theorem Settled.mono {reported reported' : α → α → Prop} {nodes : List α}
    (h : Settled R reported nodes) (le : ∀ a b, reported a b → reported' a b) :
    Settled R reported' nodes := by
  induction nodes with
  | nil => trivial
  | cons n rest ih => exact ⟨fun t ht => (h.1 t ht).imp (le n t) id, ih h.2⟩

theorem Settled.mem_of_rel {reported : α → α → Prop} {nodes : List α}
    (h : Settled R reported nodes) {v w : α} (hv : v ∈ nodes) (edge : R v w) :
    reported v w ∨ w ∈ nodes := by
  induction nodes with
  | nil => simp at hv
  | cons n rest ih =>
      rcases List.mem_cons.mp hv with rfl | hv
      · exact (h.1 w edge).imp id (List.mem_cons_of_mem v)
      · exact (ih h.2 hv).imp id (List.mem_cons_of_mem n)

/-- Among settled nodes that are all reached from each other, an edge is reported. -/
theorem Settled.exists_reported {reported : α → α → Prop} {nodes : List α}
    (h : Settled R reported nodes) {S : α → α → Prop} (le : ∀ v w, S v w → R v w)
    {walk : List α} (ne : walk ≠ []) (sub : walk ⊆ nodes)
    (pred : ∀ w ∈ walk, ∃ v ∈ walk, S v w) : ∃ v w, S v w ∧ reported v w := by
  by_contra no
  have silent (v w : α) (hS : S v w) : ¬ reported v w := fun hr => no ⟨v, w, hS, hr⟩
  induction nodes with
  | nil => exact ne (List.subset_nil.mp sub)
  | cons n rest ih =>
      -- Nothing in the walk leads to `n`, which was settled last, so the walk is within the rest.
      refine ih h.2 fun w hw => ?_
      obtain ⟨v, hv, hS⟩ := pred w hw
      have later : reported v w ∨ w ∈ rest := by
        rcases List.mem_cons.mp (sub hv) with rfl | hv
        · exact h.1 w (le v w hS)
        · exact h.2.mem_of_rel hv (le v w hS)
      exact later.resolve_left (silent v w hS)

end Phrasebook
