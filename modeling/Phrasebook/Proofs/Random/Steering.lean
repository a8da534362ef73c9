import Phrasebook.Proofs.Random.Ends

/-! # Words that steer a draw

Any number below `n` can be picked, if there are at least as many words as numbers: the word that
is the `i`-th part of all words, rounded up, picks `i`. So there are words for every end of a draw,
and `exists_run_iff_ends` says that a run over all streams comes to exactly the ends of the tree.
-/

namespace Phrasebook.Random

/-! ## One pick -/

/-- The least word that picks `i` below `n`. -/
def pickWord (n i : Nat) : Nat := (i * wordCount + (n - 1)) / n

theorem pickWord_mul_le (n i : Nat) : pickWord n i * n ≤ i * wordCount + (n - 1) :=
  Nat.div_mul_le_self _ _

theorem le_pickWord_mul {n : Nat} (pos : 0 < n) (i : Nat) :
    i * wordCount ≤ pickWord n i * n := by
  have h := Nat.lt_div_mul_add pos (a := i * wordCount + (n - 1))
  unfold pickWord
  omega

theorem pickWord_lt {n i : Nat} (hi : i < n) (hn : n ≤ wordCount) : pickWord n i < wordCount := by
  have pos : 0 < n := by omega
  have le := pickWord_mul_le n i
  have mul : (i + 1) * wordCount ≤ n * wordCount := Nat.mul_le_mul_right wordCount hi
  rw [Nat.add_mul, Nat.one_mul] at mul
  have lt : pickWord n i * n < wordCount * n := by
    rw [Nat.mul_comm wordCount n]
    omega
  exact Nat.lt_of_mul_lt_mul_right lt

theorem scaled_pickWord {n i : Nat} (hi : i < n) (hn : n ≤ wordCount) :
    scaled (UInt32.ofNat (pickWord n i)) n = i := by
  have pos : 0 < n := by omega
  have word : (UInt32.ofNat (pickWord n i)).toNat = pickWord n i :=
    UInt32.toNat_ofNat_of_lt' (pickWord_lt hi hn)
  have le := pickWord_mul_le n i
  have ge := le_pickWord_mul pos i
  unfold scaled
  rw [word]
  apply Nat.div_eq_of_lt_le
  · exact ge
  · rw [Nat.add_mul, Nat.one_mul]
    omega

/-- A second word of zero brings no carry. -/
theorem carry_zero (w : UInt32) (n : Nat) : carry w 0 n = 0 := by
  have hr : remainder w n < wordCount := Nat.mod_lt _ (by decide)
  have hs : scaled 0 n = 0 := by simp [scaled]
  unfold carry
  rw [if_neg (by omega)]

namespace Words

/-- The next words of a stream are the listed ones. -/
def StartsWith : Words → List UInt32 → Prop
  | _, [] => True
  | s, w :: ws => s.head = w ∧ (s.drop 1).StartsWith ws

theorem startsWith_append_iff {s : Words} {us ws : List UInt32} :
    s.StartsWith (us ++ ws) ↔ s.StartsWith us ∧ (s.drop us.length).StartsWith ws := by
  induction us generalizing s with
  | nil => simp [StartsWith, drop]
  | cons u us ih =>
      simp only [List.cons_append, StartsWith, ih, List.length_cons, drop_drop, and_assoc]
      rw [Nat.add_comm 1]

theorem startsWith_of_getD {word : Nat → UInt32} {taken : Nat} {ws : List UInt32}
    (h : ∀ i, word (taken + i) = ws.getD i 0) : StartsWith ⟨word, taken⟩ ws := by
  induction ws generalizing taken with
  | nil => trivial
  | cons w ws ih =>
      refine ⟨h 0, ih fun i => ?_⟩
      have later := h (i + 1)
      rwa [List.getD_cons_succ, Nat.add_comm i 1, ← Nat.add_assoc] at later

theorem startsWith_ofArray (ws : List UInt32) : (ofArray ws.toArray).StartsWith ws :=
  startsWith_of_getD fun i => by simp [Array.getD_eq_getD_getElem?, List.getD_eq_getElem?_getD]

theorem exists_words_of_pick {n : Nat} (pos : 0 < n) (hn : n ≤ wordCount) (i : Fin n) :
    ∃ ws : List UInt32, ∀ s : Words, s.StartsWith ws →
      s.pick n pos = i ∧ s.afterPick n = s.drop ws.length := by
  have value := scaled_pickWord i.isLt hn
  by_cases second : needsSecond (UInt32.ofNat (pickWord n i)) n
  · refine ⟨[UInt32.ofNat (pickWord n i), 0], ?_⟩
    rintro s ⟨first, next, -⟩
    refine ⟨Fin.ext ?_, ?_⟩
    · simp only [pick, first, next, pickValue, second, if_true, carry_zero, value, Nat.add_zero]
    · simp [afterPick, pickCost, first, second]
  · refine ⟨[UInt32.ofNat (pickWord n i)], ?_⟩
    rintro s ⟨first, -⟩
    refine ⟨Fin.ext ?_, ?_⟩
    · simp only [pick, first, pickValue, if_neg second, value]
    · simp [afterPick, pickCost, first, second]

end Words

/-! ## A whole draw -/

namespace Draw

variable {ε α β : Type}

/-- No pick is made below more numbers than there are words. -/
def Narrow : Draw ε α → Prop
  | done _ => True
  | fail _ => True
  | pick n _ next => n ≤ wordCount ∧ ∀ i, (next i).Narrow

theorem narrow_bind {d : Draw ε α} {f : α → Draw ε β} (hd : d.Narrow)
    (hf : ∀ a, d.Ends (.ok a) → (f a).Narrow) : (d >>= f).Narrow := by
  change (d.bind f).Narrow
  induction d with
  | done a => exact hf a (.done a)
  | fail e => trivial
  | pick n pos next ih =>
      exact ⟨hd.1, fun i => ih i (hd.2 i) fun a ha => hf a (.pick i ha)⟩

theorem narrow_element {xs : List α} (ne : xs ≠ []) (h : xs.length ≤ wordCount) :
    (element xs ne : Draw ε α).Narrow := ⟨h, fun _ => trivial⟩

/-- Some words lead to a given end, whatever comes behind them. -/
theorem exists_words_of_ends {d : Draw ε α} {r : Except ε α} (narrow : d.Narrow)
    (h : d.Ends r) : ∃ ws : List UInt32, ∀ s : Words, s.StartsWith ws →
      d.run s = (r, s.drop ws.length) := by
  induction h with
  | done a => exact ⟨[], fun s _ => rfl⟩
  | fail e => exact ⟨[], fun s _ => rfl⟩
  | @pick n pos next r i _ ih =>
      obtain ⟨us, hus⟩ := Words.exists_words_of_pick pos narrow.1 i
      obtain ⟨ws, hws⟩ := ih (narrow.2 i)
      refine ⟨us ++ ws, fun s hs => ?_⟩
      obtain ⟨hu, hw⟩ := Words.startsWith_append_iff.mp hs
      obtain ⟨value, rest⟩ := hus s hu
      rw [run, value, rest, hws _ hw, Words.drop_drop, List.length_append]

theorem exists_run_iff_ends {d : Draw ε α} {r : Except ε α} (narrow : d.Narrow) :
    (∃ s : Words, (d.run s).1 = r) ↔ d.Ends r := by
  constructor
  · rintro ⟨s, rfl⟩
    exact ends_run d s
  · intro h
    obtain ⟨ws, hws⟩ := exists_words_of_ends narrow h
    exact ⟨Words.ofArray ws.toArray, by rw [hws _ (Words.startsWith_ofArray ws)]⟩

end Draw

end Phrasebook.Random
