import Phrasebook.Proofs.Random.Runs

/-! # The picks on the way to an end

`Ends` says where a draw can end; `EndsBy` says by which picks it comes there, whatever the words
are. A composed draw makes the picks of its parts one after the other (`endsBy_bind_iff`). Where the
picks come from words, each of them takes one or two (`makes_run`).
-/

namespace Phrasebook.Random

namespace Draw

variable {ε α β : Type}

/-- A draw comes to an end by picks, which are listed with their bounds. -/
inductive EndsBy : Draw ε α → List (Nat × Nat) → Except ε α → Prop where
  | done (a : α) : EndsBy (.done a) [] (.ok a)
  | fail (e : ε) : EndsBy (.fail e) [] (.error e)
  | pick {n : Nat} {pos : 0 < n} {next : Fin n → Draw ε α} {picks : List (Nat × Nat)}
      {r : Except ε α} (i : Fin n) (h : EndsBy (next i) picks r) :
      EndsBy (.pick n pos next) ((n, i.val) :: picks) r

theorem endsBy_run (d : Draw ε α) (s : Words) : d.EndsBy (d.picks s) (d.run s).1 := by
  induction d generalizing s with
  | done a => exact .done a
  | fail e => exact .fail e
  | pick n pos next ih => exact .pick _ (ih _ _)

variable {picks : List (Nat × Nat)}

@[simp]
theorem endsBy_done_iff {a : α} {r : Except ε α} :
    (done a).EndsBy picks r ↔ picks = [] ∧ r = .ok a := by
  constructor
  · intro h
    cases h
    exact ⟨rfl, rfl⟩
  · rintro ⟨rfl, rfl⟩
    exact .done a

@[simp]
theorem endsBy_fail_iff {e : ε} {r : Except ε α} :
    (fail e).EndsBy picks r ↔ picks = [] ∧ r = .error e := by
  constructor
  · intro h
    cases h
    exact ⟨rfl, rfl⟩
  · rintro ⟨rfl, rfl⟩
    exact .fail e

@[simp]
theorem endsBy_pick_iff {n : Nat} {pos : 0 < n} {next : Fin n → Draw ε α} {r : Except ε α} :
    (pick n pos next).EndsBy picks r ↔
      ∃ i more, (next i).EndsBy more r ∧ picks = (n, i.val) :: more := by
  constructor
  · intro h
    cases h with
    | pick i h => exact ⟨i, _, h, rfl⟩
  · rintro ⟨i, more, h, rfl⟩
    exact .pick i h

theorem endsBy_element_iff {xs : List α} {ne : xs ≠ []} {r : Except ε α} :
    (element xs ne).EndsBy picks r ↔
      ∃ i x, xs[i]? = some x ∧ picks = [(xs.length, i)] ∧ r = .ok x := by
  simp only [element, endsBy_pick_iff, endsBy_done_iff]
  constructor
  · rintro ⟨i, more, ⟨rfl, rfl⟩, rfl⟩
    exact ⟨i, xs.get i, List.getElem?_eq_getElem i.isLt, rfl, rfl⟩
  · rintro ⟨i, x, hx, rfl, rfl⟩
    obtain ⟨hi, rfl⟩ := List.getElem?_eq_some_iff.mp hx
    exact ⟨⟨i, hi⟩, [], ⟨rfl, rfl⟩, rfl⟩

theorem endsBy_bind_iff {d : Draw ε α} {f : α → Draw ε β} {r : Except ε β} :
    (d >>= f).EndsBy picks r ↔
      (∃ a before after, d.EndsBy before (.ok a) ∧ (f a).EndsBy after r ∧
        picks = before ++ after) ∨
      ∃ e, d.EndsBy picks (.error e) ∧ r = .error e := by
  change (d.bind f).EndsBy picks r ↔ _
  induction d generalizing picks with
  | done a => simp [bind, and_assoc]
  | fail e => simp [bind, and_assoc]
  | pick n pos next ih =>
      simp only [bind, endsBy_pick_iff, ih]
      constructor
      · rintro ⟨i, more, ⟨a, before, after, ha, h, rfl⟩ | ⟨e, he, rfl⟩, rfl⟩
        · exact Or.inl ⟨a, _, after, ⟨i, before, ha, rfl⟩, h, rfl⟩
        · exact Or.inr ⟨e, ⟨i, more, he, rfl⟩, rfl⟩
      · rintro (⟨a, _, after, ⟨i, before, ha, rfl⟩, h, rfl⟩ | ⟨e, ⟨i, more, he, rfl⟩, rfl⟩)
        · exact ⟨i, before ++ after, Or.inl ⟨a, before, after, ha, h, rfl⟩, rfl⟩
        · exact ⟨i, more, Or.inr ⟨e, he, rfl⟩, rfl⟩

/-- A value that is only dressed up takes no picks. -/
theorem endsBy_bind_pure_iff {d : Draw ε α} {f : α → β} {r : Except ε β} :
    (do return f (← d) : Draw ε β).EndsBy picks r ↔ ∃ r', d.EndsBy picks r' ∧ r = r'.map f := by
  rw [endsBy_bind_iff]
  constructor
  · rintro (⟨a, before, after, ha, h, rfl⟩ | ⟨e, he, rfl⟩)
    · obtain ⟨rfl, rfl⟩ := endsBy_done_iff.mp h
      exact ⟨.ok a, by rwa [List.append_nil], rfl⟩
    · exact ⟨.error e, he, rfl⟩
  · rintro ⟨e | a, h, rfl⟩
    · exact Or.inr ⟨e, h, rfl⟩
    · exact Or.inl ⟨a, picks, [], h, .done _, (List.append_nil picks).symm⟩

end Draw

/-- The words make the picks one after the other, each out of one word or two. -/
inductive Words.Makes : Words → List (Nat × Nat) → Words → Prop where
  | nil (s : Words) : Makes s [] s
  | cons {s rest : Words} {n : Nat} {picks : List (Nat × Nat)} (pos : 0 < n)
      (cost : s.pickCost n = 1 ∨ s.pickCost n = 2) (h : Makes (s.afterPick n) picks rest) :
      Makes s ((n, (s.pick n pos).val) :: picks) rest

theorem Words.pickCost_eq_one_or_two (s : Words) (n : Nat) :
    s.pickCost n = 1 ∨ s.pickCost n = 2 := by
  unfold Words.pickCost
  split
  · exact Or.inr rfl
  · exact Or.inl rfl

theorem Draw.makes_run {ε α : Type} (d : Draw ε α) (s : Words) :
    s.Makes (d.picks s) (d.run s).2 := by
  induction d generalizing s with
  | done a => exact .nil s
  | fail e => exact .nil s
  | pick n pos next ih => exact .cons pos (s.pickCost_eq_one_or_two n) (ih _ _)

end Phrasebook.Random
