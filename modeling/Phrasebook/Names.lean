/-! # Sets of names

A set of names is listed in ascending order, each name once. Names are ordered by code point.
`mem_ofList` and `ascending_ofList` say that `ofList` lists the names of any list in this way.
-/

namespace Phrasebook.Names

/-- Puts a name at its place, unless it is there already. -/
def insert (name : String) : List String → List String
  | [] => [name]
  | n :: ns =>
    if name < n then name :: n :: ns else if name = n then n :: ns else n :: insert name ns

/-- The names of a list, ascending and each once. -/
def ofList (names : List String) : List String := names.foldr insert []

theorem mem_insert {name x : String} {ns : List String} :
    x ∈ insert name ns ↔ x = name ∨ x ∈ ns := by
  induction ns with
  | nil => simp [insert]
  | cons n ns ih => grind [insert]

theorem ascending_insert (name : String) {ns : List String} (h : ns.Pairwise (· < ·)) :
    (insert name ns).Pairwise (· < ·) := by
  induction ns with
  | nil => simp [insert]
  | cons n ns ih => grind [insert, mem_insert, List.pairwise_cons]

theorem mem_ofList {x : String} {names : List String} : x ∈ ofList names ↔ x ∈ names := by
  induction names with
  | nil => simp [ofList]
  | cons n ns ih => simpa [ofList, mem_insert] using or_congr Iff.rfl ih

theorem ascending_ofList (names : List String) : (ofList names).Pairwise (· < ·) := by
  induction names with
  | nil => simp [ofList]
  | cons n ns ih => exact ascending_insert n ih

theorem nodup_of_ascending {names : List String} (h : names.Pairwise (· < ·)) : names.Nodup := by
  refine h.imp fun {x y} lt => ?_
  rintro rfl
  exact String.lt_irrefl x lt

end Phrasebook.Names
