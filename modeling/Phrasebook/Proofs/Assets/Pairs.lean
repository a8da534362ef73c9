import Mathlib.Data.List.Nodup
import Phrasebook.Assets
import Phrasebook.Names

/-! # Assets from pairs

Assets are known by what can be looked up in them (`eq_of_candidates?_eq`), since an order leaves one
list for the same entries (`eq_of_ordered`). Of pairs that are written one after the other, the last
one with a name is found under it (`candidates?_ofList`). So pairs with different names give the same
assets whatever order they come in (`ofList_eq_of_perm`).
-/

namespace Phrasebook

theorem nodup_of_ordered {α : Type} {R : α → α → Prop} {xs : List α}
    (asymm : ∀ x ∈ xs, ∀ y, R x y → ¬ R y x) (h : xs.Pairwise R) : xs.Nodup := by
  refine h.imp_of_mem fun {x y} hx _ before => ?_
  rintro rfl
  exact asymm x hx x before before

/-- Lists in the same order that have the same elements are the same. -/
theorem eq_of_ordered {α : Type} {R : α → α → Prop} {xs ys : List α}
    (asymm : ∀ x ∈ xs, ∀ y, R x y → ¬ R y x) (hx : xs.Pairwise R) (hy : ys.Pairwise R)
    (mem : ∀ x, x ∈ xs ↔ x ∈ ys) : xs = ys := by
  have nodup : xs.Nodup := nodup_of_ordered asymm hx
  have nodup' : ys.Nodup := nodup_of_ordered (fun y h => asymm y ((mem y).mpr h)) hy
  have perm : xs.Perm ys := (List.perm_ext_iff_of_nodup nodup nodup').mpr mem
  refine perm.eq_of_pairwise (fun x y mx _ before after => ?_) hx hy
  exact absurd after (asymm x mx y before)

theorem Names.eq_of_ascending {ns ms : List String} (hn : ns.Pairwise (· < ·))
    (hm : ms.Pairwise (· < ·)) (mem : ∀ x, x ∈ ns ↔ x ∈ ms) : ns = ms :=
  eq_of_ordered (fun _ _ _ lt => String.lt_asymm lt) hn hm mem

namespace Assets

variable {a : Assets} {name : String} {candidates : List String}
  {pairs : List (String × List String)}

theorem ascending_names (a : Assets) : a.names.Pairwise (· < ·) :=
  List.pairwise_map.mpr a.ascending

theorem nodup_names (a : Assets) : a.names.Nodup := Names.nodup_of_ascending a.ascending_names

/-- Assets with the same candidates for every name are the same. -/
theorem eq_of_candidates?_eq {a b : Assets}
    (h : ∀ name, a.candidates? name = b.candidates? name) : a = b := by
  have mem (e : String × List String) : e ∈ a.entries ↔ e ∈ b.entries := by
    have same := h e.1
    constructor
    · intro he
      exact candidates?_eq_some_iff.mp (same ▸ candidates?_eq_some_iff.mpr he)
    · intro he
      exact candidates?_eq_some_iff.mp (same ▸ candidates?_eq_some_iff.mpr he)
  exact Assets.ext (eq_of_ordered (fun _ _ _ lt => String.lt_asymm lt) a.ascending b.ascending mem)

theorem insertAll_cons (a : Assets) (pair : String × List String)
    (pairs : List (String × List String)) :
    a.insertAll (pair :: pairs) = (a.insert pair.1 pair.2).insertAll pairs := rfl

/-- The candidates of the last pair with a name. -/
def lastOf (pairs : List (String × List String)) (name : String) : Option (List String) :=
  (pairs.filter fun pair => pair.1 = name).getLast?.map (·.2)

theorem lastOf_cons (pair : String × List String) (pairs : List (String × List String))
    (name : String) :
    lastOf (pair :: pairs) name =
      (lastOf pairs name).or (if name = pair.1 then some pair.2 else none) := by
  by_cases same : name = pair.1
  · cases later : (pairs.filter fun pair => pair.1 = name).getLast? with
    | none => simp [lastOf, same.symm, List.getLast?_cons, later]
    | some last => simp [lastOf, same.symm, List.getLast?_cons, later]
  · simp [lastOf, same, Ne.symm same]

/-- Of pairs with a name the last one counts, and the assets at hand if there is none. -/
theorem candidates?_insertAll (a : Assets) (pairs : List (String × List String)) (name : String) :
    (a.insertAll pairs).candidates? name = (lastOf pairs name).or (a.candidates? name) := by
  induction pairs generalizing a with
  | nil => rfl
  | cons pair pairs ih =>
      rw [insertAll_cons, ih, candidates?_insert, lastOf_cons, Option.or_assoc]
      by_cases same : name = pair.1
      · simp [same]
      · simp [same]

theorem candidates?_ofList (pairs : List (String × List String)) (name : String) :
    (ofList pairs).candidates? name = lastOf pairs name := by
  rw [ofList, candidates?_insertAll, candidates?_empty, Option.or_none]

theorem lastOf_eq_none_iff : lastOf pairs name = none ↔ name ∉ pairs.map (·.1) := by
  induction pairs with
  | nil => simp [lastOf]
  | cons pair pairs ih =>
      rw [lastOf_cons, Option.or_eq_none_iff, ih, List.map_cons, List.mem_cons, not_or]
      by_cases same : name = pair.1
      · simp [same]
      · simp [same]

theorem lastOf_of_mem (nodup : (pairs.map (·.1)).Nodup) (h : (name, candidates) ∈ pairs) :
    lastOf pairs name = some candidates := by
  induction pairs with
  | nil => simp at h
  | cons pair pairs ih =>
      rw [List.map_cons, List.nodup_cons] at nodup
      rw [lastOf_cons]
      rcases List.mem_cons.mp h with rfl | h
      · rw [lastOf_eq_none_iff.mpr nodup.1, if_pos rfl, Option.none_or]
      · rw [ih nodup.2 h, Option.some_or]

/-- The entries of assets give these assets back, in whatever order they come. -/
theorem ofList_eq_of_perm (h : pairs.Perm a.entries) : ofList pairs = a := by
  have names : (pairs.map (·.1)).Perm a.names := h.map _
  refine eq_of_candidates?_eq fun name => ?_
  rw [candidates?_ofList]
  cases known : a.candidates? name with
  | some candidates =>
      have entry : (name, candidates) ∈ pairs := h.mem_iff.mpr (candidates?_eq_some_iff.mp known)
      exact lastOf_of_mem (names.nodup_iff.mpr a.nodup_names) entry
  | none =>
      apply lastOf_eq_none_iff.mpr
      intro mem
      have contained := contains_iff.mpr (names.mem_iff.mp mem)
      rw [contains, known] at contained
      contradiction

end Assets

end Phrasebook
