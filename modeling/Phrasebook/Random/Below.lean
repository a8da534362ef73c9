import Phrasebook.Random.Words

/-! # Uniform picks from words

A word `w` is a fraction `w / 2 ^ 32` of the numbers below `n`; the pick is the whole part of
`w * n / 2 ^ 32`. Where the remainder is so large that the whole part may be one too small, a second
word extends the fraction to 64 bits and settles the carry.

`pickValue_lt` is the bound: the carry never leads to `n` itself.
-/

namespace Phrasebook.Random

def wordCount : Nat := Nat.pow 2 32

/-- The whole part of the pick that the first word makes. -/
def scaled (w : UInt32) (n : Nat) : Nat := w.toNat * n / wordCount

/-- The remainder of the pick that the first word makes. -/
def remainder (w : UInt32) (n : Nat) : Nat := w.toNat * n % wordCount

/-- Whether a second word has to settle the carry. -/
def needsSecond (w : UInt32) (n : Nat) : Bool := wordCount - n < remainder w n

/-- The carry that the second word brings. -/
def carry (w second : UInt32) (n : Nat) : Nat :=
  if wordCount ≤ remainder w n + scaled second n then 1 else 0

/-- The pick that two words make. The second one counts only if the first leaves the carry open. -/
def pickValue (w second : UInt32) (n : Nat) : Nat :=
  if needsSecond w n then scaled w n + carry w second n else scaled w n

theorem scaled_lt (w : UInt32) {n : Nat} (pos : 0 < n) : scaled w n < n := by
  have hw : w.toNat < wordCount := w.toNat_lt
  exact Nat.div_lt_of_lt_mul (Nat.mul_lt_mul_of_pos_right hw pos)

/-- A remainder that leaves the carry open does not belong to the greatest pick. -/
theorem scaled_succ_lt {w : UInt32} {n : Nat} (pos : 0 < n) (h : needsSecond w n = true) :
    scaled w n + 1 < n := by
  have hw : w.toNat < wordCount := w.toNat_lt
  have hlt := scaled_lt w pos
  simp only [needsSecond, decide_eq_true_eq] at h
  refine Nat.lt_of_le_of_ne hlt fun heq => ?_
  have hdiv := Nat.div_add_mod (w.toNat * n) wordCount
  have hsplit : wordCount * (scaled w n + 1) = wordCount * scaled w n + wordCount := by
    rw [Nat.mul_add, Nat.mul_one]
  have hmul : w.toNat * n + n ≤ wordCount * n := by
    rw [← Nat.succ_mul]
    exact Nat.mul_le_mul_right n hw
  rw [heq] at hsplit
  simp only [scaled, remainder] at hsplit h
  omega

theorem pickValue_lt (w second : UInt32) {n : Nat} (pos : 0 < n) : pickValue w second n < n := by
  unfold pickValue
  split
  · rename_i h
    have := scaled_succ_lt pos h
    unfold carry
    split <;> omega
  · exact scaled_lt w pos

namespace Words

/-- The number below `n` that the stream picks next. -/
def pick (s : Words) (n : Nat) (pos : 0 < n) : Fin n :=
  ⟨pickValue s.head (s.drop 1).head n, pickValue_lt _ _ pos⟩

/-- The number of words that the next pick below `n` takes. -/
def pickCost (s : Words) (n : Nat) : Nat := if needsSecond s.head n then 2 else 1

/-- The stream behind the next pick below `n`. -/
def afterPick (s : Words) (n : Nat) : Words := s.drop (s.pickCost n)

end Words

end Phrasebook.Random
