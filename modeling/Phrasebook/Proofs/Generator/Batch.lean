import Mathlib.Control.Monad.Basic
import Phrasebook.Generator
import Phrasebook.Proofs.Random.Runs

/-! # Batches

`Produces` makes draws one after the other, each on the words that the one before it left over. A
batch that comes to an end has made as many phrases as it should (`run_batch_ok_iff`); one that fails
has made fewer, and the next draw is the one that fails (`run_batch_error_iff`).

A batch is the same as a shorter one and then the rest of it (`batch_add`). So the numbers of phrases
that are asked for make a family that is stable under prefixes (`prefixStable_batch`).
-/

namespace Phrasebook.Generator

open Phrasebook.Random

/-- Draws made one after the other come to these phrases and leave these words over. -/
inductive Produces (draw : Draw ExpandError String) : Words → List String → Words → Prop where
  | nil (s : Words) : Produces draw s [] s
  | cons {s mid rest : Words} {phrase : String} {phrases : List String}
      (first : draw.run s = (.ok phrase, mid)) (others : Produces draw mid phrases rest) :
      Produces draw s (phrase :: phrases) rest

variable {draw : Draw ExpandError String} {s rest : Words} {phrases : List String}
  {err : ExpandError} {count : Nat}

/-! ## One more draw -/

theorem run_batch_succ_ok_iff :
    (batch draw (count + 1)).run s = (.ok phrases, rest) ↔
      ∃ phrase mid made, draw.run s = (.ok phrase, mid) ∧
        (batch draw count).run mid = (.ok made, rest) ∧ phrase :: made = phrases := by
  rw [batch]
  exact Draw.run_pair_ok_iff

theorem run_batch_succ_error_iff :
    (batch draw (count + 1)).run s = (.error err, rest) ↔
      draw.run s = (.error err, rest) ∨
        ∃ phrase mid, draw.run s = (.ok phrase, mid) ∧
          (batch draw count).run mid = (.error err, rest) := by
  rw [batch]
  exact Draw.run_pair_error_iff

/-! ## Whole batches -/

theorem run_batch_ok_iff :
    (batch draw count).run s = (.ok phrases, rest) ↔
      phrases.length = count ∧ Produces draw s phrases rest := by
  induction count generalizing s phrases with
  | zero =>
      rw [List.length_eq_zero_iff]
      constructor
      · intro h
        obtain ⟨rfl, rfl⟩ : [] = phrases ∧ s = rest := by simpa [batch, Draw.run] using h
        exact ⟨rfl, .nil s⟩
      · rintro ⟨rfl, h⟩
        cases h
        rfl
  | succ count ih =>
      rw [run_batch_succ_ok_iff]
      constructor
      · rintro ⟨phrase, mid, made, first, others, rfl⟩
        obtain ⟨length, produces⟩ := ih.mp others
        exact ⟨by rw [List.length_cons, length], .cons first produces⟩
      · rintro ⟨length, h⟩
        cases h with
        | nil => simp at length
        | cons first others => exact ⟨_, _, _, first, ih.mpr ⟨Nat.succ.inj length, others⟩, rfl⟩

theorem run_batch_error_iff :
    (batch draw count).run s = (.error err, rest) ↔
      ∃ made mid, made.length < count ∧ Produces draw s made mid ∧
        draw.run mid = (.error err, rest) := by
  induction count generalizing s with
  | zero => simp [batch]
  | succ count ih =>
      rw [run_batch_succ_error_iff]
      constructor
      · rintro (fails | ⟨phrase, mid, first, h⟩)
        · exact ⟨[], s, Nat.succ_pos count, .nil s, fails⟩
        · obtain ⟨made, behind, length, produces, fails⟩ := ih.mp h
          exact ⟨phrase :: made, behind, Nat.succ_lt_succ length, .cons first produces, fails⟩
      · rintro ⟨made, mid, length, produces, fails⟩
        cases produces with
        | nil => exact .inl fails
        | cons first others =>
            exact .inr ⟨_, _, first,
              ih.mpr ⟨_, mid, Nat.lt_of_succ_lt_succ length, others, fails⟩⟩

/-! ## Longer batches -/

/-- A batch is made in two parts, the second with the words that the first leaves over. -/
theorem batch_add (draw : Draw ExpandError String) (n m : Nat) :
    batch draw (n + m) = do
      let phrases ← batch draw n
      let others ← batch draw m
      return phrases ++ others := by
  induction n with
  | zero =>
      rw [Nat.zero_add]
      show _ = batch draw m >>= fun others => pure ([] ++ others)
      simp only [List.nil_append, bind_pure]
  | succ n ih =>
      rw [Nat.succ_add, batch, batch, ih]
      simp only [bind_assoc, pure_bind, List.cons_append]

theorem run_batch_add_ok_iff {n m : Nat} :
    (batch draw (n + m)).run s = (.ok phrases, rest) ↔
      ∃ first mid others, (batch draw n).run s = (.ok first, mid) ∧
        (batch draw m).run mid = (.ok others, rest) ∧ first ++ others = phrases := by
  rw [batch_add]
  exact Draw.run_pair_ok_iff

theorem run_batch_add_error_iff {n m : Nat} :
    (batch draw (n + m)).run s = (.error err, rest) ↔
      (batch draw n).run s = (.error err, rest) ∨
        ∃ first mid, (batch draw n).run s = (.ok first, mid) ∧
          (batch draw m).run mid = (.error err, rest) := by
  rw [batch_add]
  exact Draw.run_pair_error_iff

/-- Runs for more phrases follow from runs for fewer: they go on with the words left over, unless
there was a failure. On the same words a longer batch begins with the shorter one, or fails as that
one does. -/
structure PrefixStable (many : Nat → Draw ExpandError (List String)) : Prop where
  fails : ∀ n m s err rest, (many n).run s = (.error err, rest) →
    (many (n + m)).run s = (.error err, rest)
  joins : ∀ n m s phrases mid others rest, (many n).run s = (.ok phrases, mid) →
    (many m).run mid = (.ok others, rest) → (many (n + m)).run s = (.ok (phrases ++ others), rest)
  failsBehind : ∀ n m s phrases mid err rest, (many n).run s = (.ok phrases, mid) →
    (many m).run mid = (.error err, rest) → (many (n + m)).run s = (.error err, rest)
  begins : ∀ n m s phrases rest, n ≤ m → (many m).run s = (.ok phrases, rest) →
    ∃ mid, (many n).run s = (.ok (phrases.take n), mid)
  failsAlike : ∀ n m s err rest, n ≤ m → (many n).run s = (.error err, rest) →
    (many m).run s = (.error err, rest)

theorem prefixStable_batch (draw : Draw ExpandError String) : PrefixStable (batch draw) where
  fails n m s err rest h := run_batch_add_error_iff.mpr (Or.inl h)
  joins n m s phrases mid others rest made made' :=
    run_batch_add_ok_iff.mpr ⟨phrases, mid, others, made, made', rfl⟩
  failsBehind n m s phrases mid err rest made h :=
    run_batch_add_error_iff.mpr (Or.inr ⟨phrases, mid, made, h⟩)
  begins n m s phrases rest le h := by
    rw [← Nat.add_sub_of_le le] at h
    obtain ⟨first, mid, others, made, -, rfl⟩ := run_batch_add_ok_iff.mp h
    have length : first.length = n := (run_batch_ok_iff.mp made).1
    exact ⟨mid, by rw [List.take_left' length, made]⟩
  failsAlike n m s err rest le h := by
    rw [← Nat.add_sub_of_le le]
    exact run_batch_add_error_iff.mpr (Or.inl h)

/-- Phrases in any number are made as some of them are and then the others, from templates picked at
random as well as from the one at a position. -/
theorem generateMany_prefixStable (g : Generator) :
    PrefixStable g.generateMany ∧ ∀ index, PrefixStable (g.generateManyIndexed index) :=
  ⟨prefixStable_batch g.generate, fun index => prefixStable_batch (g.generateIndexed index)⟩

/-- One of the two candidates asks for a placeholder that is not there. -/
def luckless : Generator where
  dataset := ⟨["[a]"], Assets.ofList [("a", ["x", "[b]"])]⟩

/-- The third phrase fails, and so no batch is longer than two. -/
theorem generateMany_prefixStable_luckless :
    (∃ mid, (luckless.generateManyIndexed 0 1).run (.ofArray #[0, 0, 4294967295]) =
        (.ok ["x"], mid)) ∧
      ((luckless.generateManyIndexed 0 1000).run (.ofArray #[0, 0, 4294967295])).1 =
        .error (.placeholderNotFound "b" ["a"]) := by
  obtain ⟨-, stable⟩ := generateMany_prefixStable luckless
  have two : ((luckless.generateManyIndexed 0 2).run (.ofArray #[0, 0, 4294967295])).1 =
      .ok ["x", "x"] := by decide +kernel
  have three : ((luckless.generateManyIndexed 0 3).run (.ofArray #[0, 0, 4294967295])).1 =
      .error (.placeholderNotFound "b" ["a"]) := by decide +kernel
  constructor
  · exact (stable 0).begins 1 2 _ _ _ (by decide) (Prod.ext two rfl)
  · rw [(stable 0).failsAlike 3 1000 _ _ _ (by decide) (Prod.ext three rfl)]

end Phrasebook.Generator
