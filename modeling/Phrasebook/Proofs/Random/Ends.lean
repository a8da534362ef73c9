import Phrasebook.Proofs.Random.Runs

/-! # The ends of composed draws

The ends of a draw are known from the ends of its parts. `ends_bind_iff` is the main rule: a draw
that goes on with another one fails where the first part fails, and otherwise ends where the second
part does.
-/

namespace Phrasebook.Random.Draw

variable {ε α β : Type}

@[simp]
theorem ends_done_iff {a : α} {r : Except ε α} : (done a).Ends r ↔ r = .ok a := by
  constructor
  · intro h
    cases h
    rfl
  · rintro rfl
    exact .done a

@[simp]
theorem ends_fail_iff {e : ε} {r : Except ε α} : (fail e).Ends r ↔ r = .error e := by
  constructor
  · intro h
    cases h
    rfl
  · rintro rfl
    exact .fail e

@[simp]
theorem ends_pick_iff {n : Nat} {pos : 0 < n} {next : Fin n → Draw ε α} {r : Except ε α} :
    (pick n pos next).Ends r ↔ ∃ i, (next i).Ends r := by
  constructor
  · intro h
    cases h with
    | pick i h => exact ⟨i, h⟩
  · rintro ⟨i, h⟩
    exact .pick i h

theorem ends_element_iff {xs : List α} {ne : xs ≠ []} {r : Except ε α} :
    (element xs ne).Ends r ↔ ∃ x ∈ xs, r = .ok x := by
  simp only [element, ends_pick_iff, ends_done_iff]
  constructor
  · rintro ⟨i, rfl⟩
    exact ⟨xs.get i, List.get_mem xs i, rfl⟩
  · rintro ⟨x, hx, rfl⟩
    obtain ⟨i, rfl⟩ := List.mem_iff_get.mp hx
    exact ⟨i, rfl⟩

theorem ends_bind_iff {d : Draw ε α} {f : α → Draw ε β} {r : Except ε β} :
    (d >>= f).Ends r ↔
      (∃ a, d.Ends (.ok a) ∧ (f a).Ends r) ∨ ∃ e, d.Ends (.error e) ∧ r = .error e := by
  change (d.bind f).Ends r ↔ _
  induction d with
  | done a => simp [bind]
  | fail e => simp [bind]
  | pick n pos next ih =>
      simp only [bind, ends_pick_iff, ih]
      constructor
      · rintro ⟨i, ⟨a, ha, h⟩ | ⟨e, he, h⟩⟩
        · exact Or.inl ⟨a, ⟨i, ha⟩, h⟩
        · exact Or.inr ⟨e, ⟨i, he⟩, h⟩
      · rintro (⟨a, ⟨i, ha⟩, h⟩ | ⟨e, ⟨i, he⟩, h⟩)
        · exact ⟨i, Or.inl ⟨a, ha, h⟩⟩
        · exact ⟨i, Or.inr ⟨e, he, h⟩⟩

theorem ends_pure_iff {a : α} {r : Except ε α} : (pure a : Draw ε α).Ends r ↔ r = .ok a :=
  ends_done_iff

/-- A value that is only dressed up leaves the failures as they are. -/
theorem ends_error_bind_pure_iff {d : Draw ε α} {f : α → β} {e : ε} :
    (do return f (← d) : Draw ε β).Ends (.error e) ↔ d.Ends (.error e) := by
  rw [ends_bind_iff]
  simp [ends_pure_iff]

theorem ends_ok_bind_pure_iff {d : Draw ε α} {f : α → β} {b : β} :
    (do return f (← d) : Draw ε β).Ends (.ok b) ↔ ∃ a, d.Ends (.ok a) ∧ b = f a := by
  rw [ends_bind_iff]
  simp [ends_pure_iff]

end Phrasebook.Random.Draw
