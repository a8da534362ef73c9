import Phrasebook.Proofs.Text.EditDistance
import Phrasebook.Suggestion

/-! # The nearest names

The names that can be reached by few enough edits, sorted by the least number of edits and then by
code point: the suggestions are the first three of them. Names that differ are never in the same
place of this order, so there is only one way to sort them and it does not matter in which order
they were given (`suggest_nearest`).
-/

namespace Phrasebook.Suggestion

open Text (Edits editDistance)

/-- A name other than the target can be reached from it, by one edit if the target has at most three
characters and by two if it has more. -/
def Qualifies (target name : String) : Prop :=
  name ≠ target ∧
    ∃ k ≤ if target.length ≤ 3 then 1 else 2, Edits k target.toList name.toList

/-- The least number of edits that lead from the target to a name. -/
def NeedsEdits (target name : String) (n : Nat) : Prop :=
  Edits n target.toList name.toList ∧ ∀ k, Edits k target.toList name.toList → n ≤ k

/-- The first name needs fewer edits, or as many and is not behind the second one by code point. -/
def NoLater (target x y : String) : Prop :=
  ∃ m n, NeedsEdits target x m ∧ NeedsEdits target y n ∧ (m < n ∨ m = n ∧ x ≤ y)

variable {target name x y : String} {available other : List String}

theorem qualifies_iff :
    Qualifies target name ↔ name ≠ target ∧ editDistance target name ≤ bound target :=
  and_congr_right fun _ => Text.editDistance_le_iff.symm

theorem needsEdits_iff {n : Nat} : NeedsEdits target name n ↔ n = editDistance target name := by
  constructor
  · rintro ⟨edits, least⟩
    obtain ⟨k, le, enough⟩ := Text.editDistance_le_iff.mp (Nat.le_refl (editDistance target name))
    have ge := Text.editDistance_le_iff.mpr ⟨n, Nat.le_refl n, edits⟩
    exact Nat.le_antisymm (Nat.le_trans (least k enough) le) ge
  · rintro rfl
    refine ⟨?_, fun k edits => Text.editDistance_le_iff.mpr ⟨k, Nat.le_refl k, edits⟩⟩
    rw [Text.editDistance_eq]
    exact Text.edits_distance _ _

theorem noLater_iff :
    NoLater target x y ↔ editDistance target x < editDistance target y ∨
      editDistance target x = editDistance target y ∧ x ≤ y := by
  simp [NoLater, needsEdits_iff]

instance (target name : String) : Decidable (Qualifies target name) :=
  decidable_of_iff _ qualifies_iff.symm

instance (target x y : String) : Decidable (NoLater target x y) :=
  decidable_of_iff _ noLater_iff.symm

theorem NoLater.antisymm (h : NoLater target x y) (h' : NoLater target y x) : x = y := by
  rw [noLater_iff] at h h'
  rcases h with less | ⟨same, le⟩
  · omega
  · rcases h' with less | ⟨-, ge⟩
    · omega
    · exact String.le_antisymm le ge

/-! ## Sorting -/

theorem precedes_iff {x y : Nat × String} :
    precedes x y = true ↔ x.1 < y.1 ∨ x.1 = y.1 ∧ x.2 ≤ y.2 := by
  simp [precedes]

theorem precedes_trans (x y z : Nat × String) (h : precedes x y = true)
    (h' : precedes y z = true) : precedes x z = true := by
  rw [precedes_iff] at h h' ⊢
  rcases h with less | ⟨same, le⟩
  · omega
  · rcases h' with less | ⟨same', le'⟩
    · omega
    · exact Or.inr ⟨same.trans same', String.le_trans le le'⟩

theorem precedes_total (x y : Nat × String) : (precedes x y || precedes y x) = true := by
  rw [Bool.or_eq_true, precedes_iff, precedes_iff]
  rcases Nat.lt_trichotomy x.1 y.1 with less | same | more
  · exact Or.inl (Or.inl less)
  · rcases String.le_total x.2 y.2 with le | ge
    · exact Or.inl (Or.inr ⟨same, le⟩)
    · exact Or.inr (Or.inr ⟨same.symm, ge⟩)
  · exact Or.inr (Or.inl more)

/-- All names near the target, the nearest first. -/
def ranked (target : String) (available : List String) : List String :=
  ((near target available).mergeSort precedes).map (·.2)

theorem suggest_eq_take (target : String) (available : List String) :
    suggest target available = (ranked target available).take 3 := by
  rw [suggest, ranked, List.map_take]
  rfl

theorem map_near (target : String) (available : List String) :
    (near target available).map (·.2) = available.filter fun name => Qualifies target name := by
  rw [near, List.filter_map, List.map_map, List.filter_filter]
  have snd : ((fun scored : Nat × String => scored.2) ∘
      fun name => (editDistance target name, name)) = id := rfl
  rw [snd, List.map_id]
  refine List.filter_congr fun name _ => ?_
  simp [qualifies_iff, Bool.and_comm]

theorem ranked_perm (target : String) (available : List String) :
    (ranked target available).Perm (available.filter fun name => Qualifies target name) := by
  rw [← map_near]
  exact (List.mergeSort_perm _ _).map _

/-- Every name stands beside its distance. -/
theorem fst_of_mem_near {scored : Nat × String} (h : scored ∈ near target available) :
    scored.1 = editDistance target scored.2 := by
  obtain ⟨name, -, rfl⟩ := List.mem_map.mp (List.mem_of_mem_filter h)
  rfl

theorem pairwise_ranked (target : String) (available : List String) :
    (ranked target available).Pairwise (NoLater target) := by
  have sorted := List.pairwise_mergeSort precedes_trans precedes_total (near target available)
  rw [ranked, List.pairwise_map]
  refine sorted.imp_of_mem fun {x y} hx hy h => ?_
  have dx := fst_of_mem_near (List.mem_mergeSort.mp hx)
  have dy := fst_of_mem_near (List.mem_mergeSort.mp hy)
  rw [noLater_iff, ← dx, ← dy]
  exact precedes_iff.mp h

/-- There is only one way to sort the names. -/
theorem eq_of_pairwise_noLater {names names' : List String} (perm : names.Perm names')
    (h : names.Pairwise (NoLater target)) (h' : names'.Pairwise (NoLater target)) :
    names = names' :=
  perm.eq_of_pairwise (fun _ _ _ _ => NoLater.antisymm) h h'

/-- The suggestions are the first three of the names that qualify, those with the fewest edits first
and the smaller one of two with as many; all others come behind them. The order in which the names
are given does not count. -/
theorem suggest_nearest (target : String) (available : List String) :
    (∃ omitted : List String,
      (suggest target available ++ omitted).Perm
        (available.filter fun name => Qualifies target name) ∧
      (suggest target available ++ omitted).Pairwise (NoLater target) ∧
      (suggest target available).length = min 3 (suggest target available ++ omitted).length) ∧
    ∀ other : List String, other.Perm available →
      suggest target other = suggest target available := by
  constructor
  · refine ⟨(ranked target available).drop 3, ?_⟩
    rw [suggest_eq_take, List.take_append_drop]
    exact ⟨ranked_perm target available, pairwise_ranked target available, List.length_take⟩
  · intro other perm
    have same : ranked target other = ranked target available := by
      refine eq_of_pairwise_noLater ?_ (pairwise_ranked _ _) (pairwise_ranked _ _)
      exact (ranked_perm target other).trans
        ((perm.filter _).trans (ranked_perm target available).symm)
    rw [suggest_eq_take, suggest_eq_take, same]

/-- A name that is given twice is suggested twice. `cart` and `cut` need as few edits as the others
but come behind them, and `chats` needs one too many. -/
theorem suggest_nearest_cat :
    ["cut", "bat", "chats", "at", "cat", "bat", "cart"].Perm
        ["bat", "at", "bat", "cart", "cat", "cut", "chats"] ∧
      suggest "cat" ["cut", "bat", "chats", "at", "cat", "bat", "cart"] = ["at", "bat", "bat"] := by
  have perm : ["cut", "bat", "chats", "at", "cat", "bat", "cart"].Perm
      ["bat", "at", "bat", "cart", "cat", "cut", "chats"] := by decide +kernel
  refine ⟨perm, ?_⟩
  obtain ⟨⟨omitted, all, sorted, three⟩, order⟩ :=
    suggest_nearest "cat" ["bat", "at", "bat", "cart", "cat", "cut", "chats"]
  rw [order _ perm]
  have near : (["bat", "at", "bat", "cart", "cat", "cut", "chats"].filter
      fun name => Qualifies "cat" name) = ["bat", "at", "bat", "cart", "cut"] := by decide +kernel
  rw [near] at all
  have ranking : suggest "cat" ["bat", "at", "bat", "cart", "cat", "cut", "chats"] ++ omitted =
      ["at", "bat", "bat"] ++ ["cart", "cut"] :=
    eq_of_pairwise_noLater (all.trans (by decide +kernel)) sorted (by decide +kernel)
  rw [ranking] at three
  exact List.append_inj_left ranking three

end Phrasebook.Suggestion
