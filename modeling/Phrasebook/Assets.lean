/-! # Assets

The assets hold, for each placeholder name, the list of its candidates. Entries are kept in strictly
ascending order of their names, so two assets with the same candidates for every name are equal.
`candidates?_insert` is the law of writing: the last list written under a name counts.
-/

namespace Phrasebook

/-- Candidate lists by placeholder name. -/
@[ext]
structure Assets where
  /-- The names with their candidates. -/
  entries : List (String × List String)
  ascending : entries.Pairwise fun x y => x.1 < y.1

namespace Assets

instance : DecidableEq Assets := fun a b =>
  decidable_of_iff (a.entries = b.entries) Assets.ext_iff.symm

/-- Puts an entry at its place, over the entry of the same name if there is one. -/
def put (name : String) (candidates : List String) :
    List (String × List String) → List (String × List String)
  | [] => [(name, candidates)]
  | e :: es =>
    if name < e.1 then (name, candidates) :: e :: es
    else if name = e.1 then (name, candidates) :: es
    else e :: put name candidates es

/-- The candidates under a name. -/
def find (name : String) : List (String × List String) → Option (List String)
  | [] => none
  | e :: es => if name = e.1 then some e.2 else find name es

theorem fst_of_mem_put {name : String} {candidates : List String} {e : String × List String}
    {es : List (String × List String)} (h : e ∈ put name candidates es) :
    e.1 = name ∨ e ∈ es := by
  induction es with
  | nil => simp_all [put]
  | cons d es ih =>
      unfold put at h
      split at h
      · rcases List.mem_cons.mp h with rfl | h
        · exact Or.inl rfl
        · exact Or.inr h
      · split at h
        · rcases List.mem_cons.mp h with rfl | h
          · exact Or.inl rfl
          · exact Or.inr (List.mem_cons_of_mem d h)
        · rcases List.mem_cons.mp h with rfl | h
          · exact Or.inr List.mem_cons_self
          · exact (ih h).imp id (List.mem_cons_of_mem d)

theorem ascending_put (name : String) (candidates : List String)
    {es : List (String × List String)} (h : es.Pairwise fun x y => x.1 < y.1) :
    (put name candidates es).Pairwise fun x y => x.1 < y.1 := by
  induction es with
  | nil => simp [put]
  | cons d es ih =>
      obtain ⟨hd, hes⟩ := List.pairwise_cons.mp h
      unfold put
      split
      · rename_i lt
        refine List.pairwise_cons.mpr ⟨fun e he => ?_, h⟩
        rcases List.mem_cons.mp he with rfl | he
        · exact lt
        · exact String.lt_trans lt (hd e he)
      · rename_i notLt
        split
        · rename_i eq
          exact List.pairwise_cons.mpr ⟨fun e he => by simpa [eq] using hd e he, hes⟩
        · rename_i ne
          refine List.pairwise_cons.mpr ⟨fun e he => ?_, ih hes⟩
          rcases fst_of_mem_put he with eq | he
          · rw [eq]
            rcases Std.lt_trichotomy name d.1 with lt | eq | lt
            · exact absurd lt notLt
            · exact absurd eq ne
            · exact lt
          · exact hd e he

def empty : Assets := ⟨[], .nil⟩

instance : EmptyCollection Assets := ⟨empty⟩

instance : Inhabited Assets := ⟨empty⟩

/-- Writes the candidates of a name, over those it had before. -/
def insert (a : Assets) (name : String) (candidates : List String) : Assets :=
  ⟨put name candidates a.entries, ascending_put name candidates a.ascending⟩

/-- Writes pairs one after the other. -/
def insertAll (a : Assets) (pairs : List (String × List String)) : Assets :=
  pairs.foldl (fun a e => a.insert e.1 e.2) a

/-- The assets of a list of pairs; of pairs with one name the last one counts. -/
def ofList (pairs : List (String × List String)) : Assets := empty.insertAll pairs

/-- The candidates of a name, if it is there. -/
def candidates? (a : Assets) (name : String) : Option (List String) := find name a.entries

def contains (a : Assets) (name : String) : Bool := (a.candidates? name).isSome

/-- The names in ascending order. -/
def names (a : Assets) : List String := a.entries.map (·.1)

def size (a : Assets) : Nat := a.entries.length

def isEmpty (a : Assets) : Bool := a.entries.isEmpty

theorem find_put (name other : String) (candidates : List String)
    (es : List (String × List String)) :
    find other (put name candidates es) =
      if other = name then some candidates else find other es := by
  induction es with
  | nil => simp [put, find]
  | cons d es ih =>
      unfold put
      split
      · simp [find]
      · split
        · rename_i eq
          by_cases h : other = name <;> simp [find, h, ← eq]
        · rename_i ne
          by_cases h : other = name
          · subst h
            simp [find, ih, ne]
          · simp [find, ih, h]

theorem mem_of_find {name : String} {candidates : List String} {es : List (String × List String)}
    (h : find name es = some candidates) : (name, candidates) ∈ es := by
  induction es with
  | nil => simp [find] at h
  | cons d es ih =>
      unfold find at h
      split at h
      · rename_i eq
        obtain rfl := Option.some.inj h
        rw [eq]
        exact List.mem_cons_self
      · exact List.mem_cons_of_mem d (ih h)

theorem find_of_mem {name : String} {candidates : List String} {es : List (String × List String)}
    (ascending : es.Pairwise fun x y => x.1 < y.1) (h : (name, candidates) ∈ es) :
    find name es = some candidates := by
  induction es with
  | nil => simp at h
  | cons d es ih =>
      obtain ⟨hd, hes⟩ := List.pairwise_cons.mp ascending
      unfold find
      rcases List.mem_cons.mp h with rfl | h
      · rw [if_pos rfl]
      · have ne : name ≠ d.1 := by
          rintro rfl
          exact String.lt_irrefl d.1 (hd (d.1, candidates) h)
        rw [if_neg ne, ih hes h]

/-- The entries are what can be looked up. -/
theorem candidates?_eq_some_iff {a : Assets} {name : String} {candidates : List String} :
    a.candidates? name = some candidates ↔ (name, candidates) ∈ a.entries :=
  ⟨mem_of_find, find_of_mem a.ascending⟩

theorem contains_iff {a : Assets} {name : String} : a.contains name = true ↔ name ∈ a.names := by
  rw [contains, Option.isSome_iff_exists, names, List.mem_map]
  constructor
  · rintro ⟨candidates, h⟩
    exact ⟨_, candidates?_eq_some_iff.mp h, rfl⟩
  · rintro ⟨entry, h, rfl⟩
    exact ⟨entry.2, candidates?_eq_some_iff.mpr h⟩

@[simp]
theorem candidates?_empty (name : String) : empty.candidates? name = none := rfl

theorem candidates?_insert (a : Assets) (name other : String) (candidates : List String) :
    (a.insert name candidates).candidates? other =
      if other = name then some candidates else a.candidates? other :=
  find_put name other candidates a.entries

end Assets

end Phrasebook
