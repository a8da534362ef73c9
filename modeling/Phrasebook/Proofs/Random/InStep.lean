import Phrasebook.Proofs.Random.Runs

/-! # Draws in step

Two draws are in step if they make the same picks and come to the same values, while their failures
may differ: a failure of the first is matched by one that is `alike`, or it is a `cut`, behind which
the second draw may go on as it likes. `InStep.bind` carries this through composed draws, and
`InStep.run` says what it means for the runs on one stream.
-/

namespace Phrasebook.Random.Draw

variable {ε α β : Type} {alike : ε → ε → Prop} {cut : ε → Prop}

/-- The second draw keeps step with the first, up to failures that are alike, until a cut. -/
inductive InStep (alike : ε → ε → Prop) (cut : ε → Prop) : Draw ε α → Draw ε α → Prop where
  | done (a : α) : InStep alike cut (.done a) (.done a)
  | fail {e e' : ε} (h : alike e e') : InStep alike cut (.fail e) (.fail e')
  | cut {e : ε} (h : cut e) (d : Draw ε α) : InStep alike cut (.fail e) d
  | pick {n : Nat} {pos : 0 < n} {next next' : Fin n → Draw ε α}
      (h : ∀ i, InStep alike cut (next i) (next' i)) :
      InStep alike cut (.pick n pos next) (.pick n pos next')

/-- A draw keeps step with itself, if the failures it can come to are like themselves. -/
theorem InStep.refl {d : Draw ε α} (ha : ∀ e, d.Ends (.error e) → alike e e) :
    d.InStep alike cut d := by
  induction d with
  | done a => exact .done a
  | fail e => exact .fail (ha e (.fail e))
  | pick n pos next ih => exact .pick fun i => ih i fun e he => ha e (.pick i he)

theorem InStep.bind {d d' : Draw ε α} {f f' : α → Draw ε β} (h : d.InStep alike cut d')
    (hf : ∀ a, d.Ends (.ok a) → (f a).InStep alike cut (f' a)) :
    (d >>= f).InStep alike cut (d' >>= f') := by
  change (d.bind f).InStep alike cut (d'.bind f')
  induction h with
  | done a => exact hf a (.done a)
  | fail h => exact .fail h
  | cut h d => exact .cut h (d.bind f')
  | pick _ ih => exact .pick fun i => ih i fun a ha => hf a (.pick i ha)

theorem InStep.bind_pure {d d' : Draw ε α} (h : d.InStep alike cut d') (f : α → β) :
    (do return f (← d) : Draw ε β).InStep alike cut (do return f (← d')) :=
  h.bind fun a _ => .done (f a)

/-- Outcomes that are the same but for failures that are alike, with the same words taken. -/
inductive SameOutcome (alike : ε → ε → Prop) :
    Except ε α × Words → Except ε α × Words → Prop where
  | ok (a : α) (s : Words) : SameOutcome alike (.ok a, s) (.ok a, s)
  | error {e e' : ε} (h : alike e e') (s : Words) :
      SameOutcome alike (.error e, s) (.error e', s)

theorem SameOutcome.eq {x y : Except ε α × Words} (h : SameOutcome Eq x y) : y = x := by
  cases h with
  | ok a s => rfl
  | error h s => rw [h]

theorem sameOutcome_ok_iff {a : α} {s : Words} {y : Except ε α × Words} :
    SameOutcome alike (.ok a, s) y ↔ y = (.ok a, s) := by
  constructor
  · intro h
    cases h with
    | ok a s => rfl
  · rintro rfl
    exact .ok a s

theorem sameOutcome_error_iff {e : ε} {s : Words} {y : Except ε α × Words} :
    SameOutcome alike (.error e, s) y ↔ ∃ e', alike e e' ∧ y = (.error e', s) := by
  constructor
  · intro h
    cases h with
    | error h s => exact ⟨_, h, rfl⟩
  · rintro ⟨e', h, rfl⟩
    exact .error h s

/-- On one stream, draws in step come to the same outcome, or the first one to a cut that takes no
more words than the other. -/
theorem InStep.run {d d' : Draw ε α} (h : d.InStep alike cut d') (s : Words) :
    SameOutcome alike (d.run s) (d'.run s) ∨
      ∃ e, (d.run s).1 = .error e ∧ cut e ∧ (d.run s).2.taken ≤ (d'.run s).2.taken := by
  induction h generalizing s with
  | done a => exact Or.inl (.ok a s)
  | fail h => exact Or.inl (.error h s)
  | @cut e h d => exact Or.inr ⟨e, rfl, h, taken_le_run d s⟩
  | @pick n pos next next' _ ih => exact ih (s.pick n pos) (s.afterPick n)

theorem InStep.sameOutcome {d d' : Draw ε α} (h : d.InStep alike (fun _ => False) d')
    (s : Words) : SameOutcome alike (d.run s) (d'.run s) := by
  rcases h.run s with same | ⟨e, -, no, -⟩
  · exact same
  · exact no.elim

end Phrasebook.Random.Draw
