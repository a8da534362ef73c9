import Phrasebook.Random.Draw

/-! # The runs of composed draws

How a composed draw runs on a stream, from the runs of its parts: `run_bind_ok_iff` for a run that
comes to a value, `run_bind_error_iff` for one that fails.
-/

namespace Phrasebook.Random.Draw

variable {ε α β γ : Type}

theorem bind_done (d : Draw ε α) : d.bind done = d := by
  induction d with
  | done a => rfl
  | fail e => rfl
  | pick n pos next ih => exact congrArg (pick n pos) (funext ih)

theorem bind_bind (d : Draw ε α) (f : α → Draw ε β) (g : β → Draw ε γ) :
    (d.bind f).bind g = d.bind fun a => (f a).bind g := by
  induction d with
  | done a => rfl
  | fail e => rfl
  | pick n pos next ih => exact congrArg (pick n pos) (funext ih)

instance : LawfulMonad (Draw ε) := LawfulMonad.mk' _ bind_done (fun _ _ => rfl) bind_bind

@[simp]
theorem run_pure (a : α) (s : Words) : (pure a : Draw ε α).run s = (.ok a, s) := rfl

/-- A function on the value leaves failures and words as they are. -/
theorem run_map (f : α → β) (d : Draw ε α) (s : Words) :
    (f <$> d).run s = Prod.map (Except.map f) id (d.run s) := by
  rw [map_eq_pure_bind, run_bind]
  rcases d.run s with ⟨e | a, between⟩
  · rfl
  · rfl

variable {d : Draw ε α} {f : α → Draw ε β} {s rest : Words}

theorem run_bind_ok_iff {b : β} :
    (d >>= f).run s = (.ok b, rest) ↔
      ∃ a between, d.run s = (.ok a, between) ∧ (f a).run between = (.ok b, rest) := by
  rw [run_bind]
  rcases d.run s with ⟨e | a, between⟩
  · simp
  · simp [and_assoc]

theorem run_bind_error_iff {e : ε} :
    (d >>= f).run s = (.error e, rest) ↔ d.run s = (.error e, rest) ∨
      ∃ a between, d.run s = (.ok a, between) ∧ (f a).run between = (.error e, rest) := by
  rw [run_bind]
  rcases d.run s with ⟨e | a, between⟩
  · simp
  · simp [and_assoc]

/-! Two draws, one after the other, whose values are put together. -/

theorem run_pair_ok_iff {d' : Draw ε β} {f : α → β → γ} {c : γ} :
    (do let a ← d; let b ← d'; return f a b : Draw ε γ).run s = (.ok c, rest) ↔
      ∃ a mid b, d.run s = (.ok a, mid) ∧ d'.run mid = (.ok b, rest) ∧ f a b = c := by
  rw [run_bind_ok_iff]
  constructor
  · rintro ⟨a, mid, first, h⟩
    obtain ⟨b, behind, second, last⟩ := run_bind_ok_iff.mp h
    obtain ⟨joined, rfl⟩ : f a b = c ∧ behind = rest := by simpa using last
    exact ⟨a, mid, b, first, second, joined⟩
  · rintro ⟨a, mid, b, first, second, rfl⟩
    exact ⟨a, mid, first, run_bind_ok_iff.mpr ⟨b, rest, second, run_pure _ _⟩⟩

theorem run_pair_error_iff {d' : Draw ε β} {f : α → β → γ} {e : ε} :
    (do let a ← d; let b ← d'; return f a b : Draw ε γ).run s = (.error e, rest) ↔
      d.run s = (.error e, rest) ∨
        ∃ a mid, d.run s = (.ok a, mid) ∧ d'.run mid = (.error e, rest) := by
  rw [run_bind_error_iff]
  refine or_congr Iff.rfl (exists_congr fun a => exists_congr fun mid => and_congr Iff.rfl ?_)
  rw [run_bind_error_iff]
  simp

theorem taken_le_run (d : Draw ε α) (s : Words) : s.taken ≤ (d.run s).2.taken := by
  induction d generalizing s with
  | done a => exact Nat.le_refl _
  | fail e => exact Nat.le_refl _
  | pick n pos next ih => exact Nat.le_trans (Nat.le_add_right _ _) (ih _ (s.afterPick n))

end Phrasebook.Random.Draw
