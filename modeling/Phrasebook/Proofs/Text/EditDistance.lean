import Mathlib.Data.List.Infix
import Phrasebook.Text.EditDistance

/-! # The least number of edits

An edit puts one character in, takes one out or replaces one. The edit distance is the least number
of edits that lead from one text to another (`editDistance_le_iff`). The rows by which it is
computed are the values of a recursion on both texts (`distanceRow_eq`). That many edits are enough
because each case of the recursion names an edit (`edits_distance`), and fewer are not because one
edit changes the distance from any text by one at most (`distance_le_of_edit`).
-/

namespace Phrasebook.Text

/-! ## Edits -/

/-- One character is put in, taken out or replaced. -/
inductive Edit : List Char → List Char → Prop where
  | insert (c : Char) (cs : List Char) : Edit cs (c :: cs)
  | delete (c : Char) (cs : List Char) : Edit (c :: cs) cs
  | replace (c d : Char) (cs : List Char) : Edit (c :: cs) (d :: cs)
  /-- The edit stands behind a character that is kept. -/
  | behind (c : Char) {cs ds : List Char} (h : Edit cs ds) : Edit (c :: cs) (c :: ds)

/-- A number of edits leads from one text to another. -/
inductive Edits : Nat → List Char → List Char → Prop where
  | refl (cs : List Char) : Edits 0 cs cs
  | tail {n : Nat} {cs ds es : List Char} (h : Edits n cs ds) (edit : Edit ds es) :
      Edits (n + 1) cs es

theorem Edits.head {n : Nat} {cs ds es : List Char} (edit : Edit cs ds) (h : Edits n ds es) :
    Edits (n + 1) cs es := by
  induction h with
  | refl => exact .tail (.refl cs) edit
  | tail _ last ih => exact .tail (ih edit) last

theorem Edits.behind {n : Nat} {cs ds : List Char} (h : Edits n cs ds) (c : Char) :
    Edits n (c :: cs) (c :: ds) := by
  induction h with
  | refl => exact .refl _
  | tail _ edit ih => exact .tail ih (.behind c edit)

/-! ## The recursion -/

/-- The distance of two texts by their first characters. -/
def distance : List Char → List Char → Nat
  | [], ys => ys.length
  | x :: xs, [] => (x :: xs).length
  | x :: xs, y :: ys =>
    least (distance xs (y :: ys) + 1) (distance (x :: xs) ys + 1)
      (distance xs ys + if x = y then 0 else 1)
termination_by xs ys => xs.length + ys.length

variable {xs ys zs : List Char} {x y : Char}

@[simp]
theorem distance_nil_left (ys : List Char) : distance [] ys = ys.length := by rw [distance]

@[simp]
theorem distance_nil_right (xs : List Char) : distance xs [] = xs.length := by
  cases xs with
  | nil => rw [distance]
  | cons x xs => rw [distance]

theorem distance_cons_cons (x y : Char) (xs ys : List Char) :
    distance (x :: xs) (y :: ys) =
      least (distance xs (y :: ys) + 1) (distance (x :: xs) ys + 1)
        (distance xs ys + if x = y then 0 else 1) := by rw [distance]

/-! ## The rows -/

/-- A row holds the distances to every ending of the other text. -/
theorem emptyRow_eq (ys : List Char) : emptyRow ys = ys.tails.map (distance []) := by
  induction ys with
  | nil => simp [emptyRow]
  | cons y ys ih => simp [emptyRow, ih]

theorem nextRow_eq (x : Char) (xs ys : List Char) :
    nextRow x ys (ys.tails.map (distance xs)) = ys.tails.map (distance (x :: xs)) := by
  induction ys with
  | nil => simp [nextRow]
  | cons y ys ih =>
      obtain ⟨rest, tails⟩ : ∃ rest, ys.tails = ys :: rest := by
        cases ys with
        | nil => exact ⟨[], rfl⟩
        | cons z ys => exact ⟨ys.tails, List.tails_cons z ys⟩
      rw [tails, List.map_cons, List.map_cons] at ih
      simp only [List.tails_cons, tails, List.map_cons, nextRow, ih, List.headD_cons,
        distance_cons_cons]

theorem distanceRow_eq (xs ys : List Char) : distanceRow ys xs = ys.tails.map (distance xs) := by
  induction xs with
  | nil => exact emptyRow_eq ys
  | cons x xs ih => rw [distanceRow, ih, nextRow_eq]

theorem editDistance_eq (s t : String) : editDistance s t = distance s.toList t.toList := by
  rw [editDistance, distanceRow_eq]
  cases t.toList with
  | nil => simp
  | cons y ys => simp

/-! ## That many edits are enough -/

theorem edits_insert (ys : List Char) : Edits ys.length [] ys := by
  induction ys with
  | nil => exact .refl []
  | cons y ys ih => exact .tail ih (.insert y ys)

theorem edits_delete (xs : List Char) : Edits xs.length xs [] := by
  induction xs with
  | nil => exact .refl []
  | cons x xs ih => exact .head (.delete x xs) ih

theorem least_cases (a b c : Nat) : least a b c = a ∨ least a b c = b ∨ least a b c = c := by
  unfold least
  omega

theorem edits_distance (xs ys : List Char) : Edits (distance xs ys) xs ys := by
  induction xs, ys using distance.induct with
  | case1 ys =>
      rw [distance_nil_left]
      exact edits_insert ys
  | case2 x xs =>
      rw [distance_nil_right]
      exact edits_delete (x :: xs)
  | case3 x xs y ys deleted inserted kept =>
      rw [distance_cons_cons]
      rcases least_cases (distance xs (y :: ys) + 1) (distance (x :: xs) ys + 1)
        (distance xs ys + if x = y then 0 else 1) with eq | eq | eq
      · rw [eq]
        exact .head (.delete x xs) deleted
      · rw [eq]
        exact .tail inserted (.insert y ys)
      · rw [eq]
        by_cases same : x = y
        · rw [if_pos same, same]
          exact kept.behind y
        · rw [if_neg same]
          exact .head (.replace x y xs) (kept.behind y)

/-! ## Fewer edits are not -/

theorem distance_self (xs : List Char) : distance xs xs = 0 := by
  induction xs with
  | nil => simp
  | cons x xs ih => simp [distance_cons_cons, ih, least]

theorem distance_cons_left_le (x : Char) (xs ys : List Char) :
    distance (x :: xs) ys ≤ distance xs ys + 1 := by
  cases ys with
  | nil => simp
  | cons y ys =>
      rw [distance_cons_cons, least]
      omega

theorem distance_cons_right_le (y : Char) (xs ys : List Char) :
    distance xs (y :: ys) ≤ distance xs ys + 1 := by
  cases xs with
  | nil => simp
  | cons x xs =>
      rw [distance_cons_cons, least]
      omega

theorem distance_cons_cons_le (x y : Char) (xs ys : List Char) :
    distance (x :: xs) (y :: ys) ≤ distance xs ys + 1 := by
  rw [distance_cons_cons, least]
  split
  · omega
  · omega

/-- From any text, one edit more or less makes a difference of one at most. -/
theorem distance_le_of_edit (edit : Edit ys zs) (xs : List Char) :
    distance xs zs ≤ distance xs ys + 1 := by
  induction edit generalizing xs with
  | insert c cs => exact distance_cons_right_le c xs cs
  | delete c cs =>
      induction xs with
      | nil =>
          rw [distance_nil_left, distance_nil_left, List.length_cons]
          omega
      | cons x xs ih =>
          have left := distance_cons_left_le x xs cs
          rw [distance_cons_cons, least]
          omega
  | replace c d cs =>
      induction xs with
      | nil => simp
      | cons x xs ih =>
          have left := distance_cons_left_le x xs (d :: cs)
          have right := distance_cons_right_le d (x :: xs) cs
          have both := distance_cons_cons_le x d xs cs
          rw [distance_cons_cons x c, least]
          omega
  | @behind c cs ds _ shorter =>
      induction xs with
      | nil =>
          have length := shorter []
          simpa using length
      | cons x xs ih =>
          have here := shorter (x :: xs)
          have next := shorter xs
          rw [distance_cons_cons, distance_cons_cons, least, least]
          omega

theorem distance_le_of_edits {n : Nat} (h : Edits n xs ys) : distance xs ys ≤ n := by
  induction h with
  | refl cs => rw [distance_self]
  | tail _ edit ih => exact Nat.le_trans (distance_le_of_edit edit _) (Nat.succ_le_succ ih)

/-- The edit distance is the least number of edits. -/
theorem editDistance_le_iff {s t : String} {n : Nat} :
    editDistance s t ≤ n ↔ ∃ k ≤ n, Edits k s.toList t.toList := by
  rw [editDistance_eq]
  constructor
  · intro h
    exact ⟨_, h, edits_distance _ _⟩
  · rintro ⟨k, le, edits⟩
    exact Nat.le_trans (distance_le_of_edits edits) le

end Phrasebook.Text
