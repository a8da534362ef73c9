import Phrasebook.Random.Below

/-! # Draws

A draw is a computation that makes uniform picks and ends in a value or a failure. It is kept as a
tree: a pick below `n` has one branch for each number below `n`. What a stream of words makes of it
(`run`), which picks it then makes (`picks`) and which ends it can come to (`Ends`) are read off
the same tree. A pick that was made before a failure stays made. `run_bind` and `picks_bind` say
that a draw goes on with the words that the one before it left over, and `ends_run` that a run
never comes to an end that the tree does not have.
-/

namespace Phrasebook.Random

/-- A computation that makes uniform picks and ends in a value or a failure. -/
inductive Draw (ε α : Type) : Type where
  /-- Ends in a value. -/
  | done (a : α)
  /-- Ends in a failure. -/
  | fail (e : ε)
  /-- Picks a number below `n` and goes on from there. -/
  | pick (n : Nat) (pos : 0 < n) (next : Fin n → Draw ε α)

namespace Draw

variable {ε α β : Type}

/-- Goes on with `f` from the values in which a draw ends. -/
def bind : Draw ε α → (α → Draw ε β) → Draw ε β
  | done a, f => f a
  | fail e, _ => fail e
  | pick n pos next, f => pick n pos fun i => (next i).bind f

instance : Monad (Draw ε) where
  pure := done
  bind := bind

/-- Picks one element of a list that is not empty. -/
def element (xs : List α) (ne : xs ≠ []) : Draw ε α :=
  pick xs.length (List.length_pos_iff.mpr ne) fun i => done (xs.get i)

/-- What a stream makes of a draw, and the stream behind the words that were taken. -/
def run : Draw ε α → Words → Except ε α × Words
  | done a, s => (.ok a, s)
  | fail e, s => (.error e, s)
  | pick n pos next, s => (next (s.pick n pos)).run (s.afterPick n)

@[simp]
theorem run_done (a : α) (s : Words) : (done a : Draw ε α).run s = (.ok a, s) := rfl

@[simp]
theorem run_fail (e : ε) (s : Words) : (fail e : Draw ε α).run s = (.error e, s) := rfl

/-- A draw runs on the words that the one before it left over, unless that one failed. -/
theorem run_bind (d : Draw ε α) (f : α → Draw ε β) (s : Words) :
    (d >>= f).run s =
      match d.run s with
      | (.ok a, rest) => (f a).run rest
      | (.error e, rest) => (.error e, rest) := by
  change (d.bind f).run s = _
  induction d generalizing s with
  | done a => rfl
  | fail e => rfl
  | pick n pos next ih => exact ih _ _

/-- The picks that a stream makes of a draw, in order: the bound and the number picked. -/
def picks : Draw ε α → Words → List (Nat × Nat)
  | done _, _ => []
  | fail _, _ => []
  | pick n pos next, s => (n, s.pick n pos) :: (next (s.pick n pos)).picks (s.afterPick n)

theorem picks_bind (d : Draw ε α) (f : α → Draw ε β) (s : Words) :
    (d >>= f).picks s =
      d.picks s ++
        match d.run s with
        | (.ok a, rest) => (f a).picks rest
        | (.error _, _) => [] := by
  change (d.bind f).picks s = _
  induction d generalizing s with
  | done a => rfl
  | fail e => rfl
  | pick n pos next ih => exact congrArg _ (ih _ _)

/-- The ends that a draw can come to, whatever is picked. -/
inductive Ends : Draw ε α → Except ε α → Prop where
  | done (a : α) : Ends (.done a) (.ok a)
  | fail (e : ε) : Ends (.fail e) (.error e)
  | pick {n : Nat} {pos : 0 < n} {next : Fin n → Draw ε α} {r : Except ε α} (i : Fin n)
      (h : Ends (next i) r) : Ends (.pick n pos next) r

theorem ends_run (d : Draw ε α) (s : Words) : d.Ends (d.run s).1 := by
  induction d generalizing s with
  | done a => exact .done a
  | fail e => exact .fail e
  | pick n pos next ih => exact .pick _ (ih _ _)

end Draw

end Phrasebook.Random
