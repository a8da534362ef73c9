import Mathlib.Data.List.Induction
import Mathlib.Data.Nat.Digits.Lemmas
import Phrasebook.Marker

/-! # The spelling of an optional marker

A name is read as an optional marker just if it is spelled in one way: a key, a question mark and at
most three digits (`asOptional_eq_some_iff`). Digits hold no question mark, so it is the last one of
the name and there is no second way to take the name apart (`Spells.unique`).
-/

namespace Phrasebook

namespace OptionalMarker

/-- A name is a key that is not empty, a question mark and up to three digits. -/
structure Spells (name key digits : String) : Prop where
  name_eq : name = key ++ "?" ++ digits
  key_ne : key ≠ ""
  few : digits.length ≤ 3
  digit : ∀ d ∈ digits.toList, d.isDigit = true

def digitValue (d : Char) : Nat := d.toNat - '0'.toNat

/-- The number that a row of digits stands for, the ones at its end. -/
def decimal (digits : String) : Nat := Nat.ofDigits 10 (digits.toList.reverse.map digitValue)

/-- The chance that digits stand for: a half if there are none, and never more than a hundred. -/
def percent (digits : String) : Nat := if digits = "" then 50 else min 100 (decimal digits)

/-! ## The last question mark -/

theorem splitLast_eq_none_iff {cs : List Char} : splitLast cs = none ↔ '?' ∉ cs := by
  induction cs with
  | nil => simp [splitLast]
  | cons c cs ih =>
      rw [splitLast, List.mem_cons, not_or, ← ih]
      cases splitLast cs with
      | some parts => simp
      | none =>
          by_cases mark : c = '?'
          · simp [mark]
          · simp [mark, Ne.symm mark]

theorem splitLast_append (key : List Char) {suffix : List Char} (last : '?' ∉ suffix) :
    splitLast (key ++ '?' :: suffix) = some (key, suffix) := by
  induction key with
  | nil => simp [splitLast, splitLast_eq_none_iff.mpr last]
  | cons k key ih => simp [splitLast, ih]

/-- A text is split at its last question mark. -/
theorem splitLast_eq_some_iff {cs key suffix : List Char} :
    splitLast cs = some (key, suffix) ↔ cs = key ++ '?' :: suffix ∧ '?' ∉ suffix := by
  constructor
  · intro h
    have mark : '?' ∈ cs.reverse := by
      rw [List.mem_reverse]
      by_contra none
      rw [splitLast_eq_none_iff.mpr none] at h
      contradiction
    -- The first mark from behind is the last one.
    obtain ⟨behind, front, eq, last⟩ := List.eq_append_cons_of_mem mark
    obtain rfl : cs = front.reverse ++ '?' :: behind.reverse := by
      rw [← List.reverse_reverse cs, eq]
      simp
    rw [splitLast_append _ (by simpa using last)] at h
    obtain ⟨rfl, rfl⟩ : front.reverse = key ∧ behind.reverse = suffix := by simpa using h
    exact ⟨rfl, by simpa using last⟩
  · rintro ⟨rfl, last⟩
    exact splitLast_append key last

/-! ## Digits -/

/-- The value of a row of digits grows by a factor of ten with every digit behind it. -/
theorem digitsValue_eq (digits : List Char) :
    digitsValue digits = Nat.ofDigits 10 (digits.reverse.map digitValue) := by
  unfold digitsValue
  induction digits using List.reverseRecOn with
  | nil => rfl
  | append_singleton ds d ih =>
      rw [List.foldl_append, ih, List.reverse_append, List.reverse_singleton,
        List.singleton_append, List.map_cons, Nat.ofDigits_cons, Nat.add_comm]
      rfl

theorem digitValue_lt {d : Char} (h : d.isDigit = true) : digitValue d < 10 := by
  obtain ⟨-, le⟩ : 48 ≤ d.val ∧ d.val ≤ 57 := by simpa [Char.isDigit] using h
  have bound : d.toNat ≤ 57 := UInt32.le_iff_toNat_le.mp le
  have zero : '0'.toNat = 48 := rfl
  unfold digitValue
  omega

/-- Three digits are not enough for a number that does not fit into sixteen bits. -/
theorem decimal_lt {digits : String} (few : digits.length ≤ 3)
    (digit : ∀ d ∈ digits.toList, d.isDigit = true) : decimal digits < 1000 := by
  have values : ∀ v ∈ digits.toList.reverse.map digitValue, v < 10 := by
    intro v hv
    obtain ⟨d, hd, rfl⟩ := List.mem_map.mp hv
    exact digitValue_lt (digit d (List.mem_reverse.mp hd))
  calc decimal digits
    _ < 10 ^ (digits.toList.reverse.map digitValue).length :=
      Nat.ofDigits_lt_base_pow_length (by decide) values
    _ = 10 ^ digits.length := by simp [String.length_toList]
    _ ≤ 10 ^ 3 := Nat.pow_le_pow_right (by decide) few

theorem percent_le (digits : String) : percent digits ≤ 100 := by
  unfold percent
  split
  · decide
  · exact Nat.min_le_left _ _

theorem chance?_eq_some_iff {digits : String} {chance : Nat} :
    chance? digits.toList = some chance ↔
      digits.length ≤ 3 ∧ (∀ d ∈ digits.toList, d.isDigit = true) ∧ chance = percent digits := by
  have value : (if digits.toList.isEmpty then defaultChance
      else min 100 (digitsValue digits.toList)) = percent digits := by
    simp [percent, decimal, digitsValue_eq, defaultChance]
  unfold chance?
  rw [value]
  by_cases suffix : digits.toList.length ≤ maxDigits ∧ digits.toList.all Char.isDigit
  · rw [if_pos suffix]
    obtain ⟨few, digit⟩ := suffix
    simp only [Option.some.injEq]
    exact ⟨fun eq => ⟨few, List.all_eq_true.mp digit, eq.symm⟩, fun ⟨_, _, eq⟩ => eq.symm⟩
  · rw [if_neg suffix]
    constructor
    · intro h
      contradiction
    · rintro ⟨few, digit, -⟩
      exact absurd ⟨few, List.all_eq_true.mpr digit⟩ suffix

/-! ## Names -/

variable {name key key' digits digits' : String}

theorem Spells.splitLast (h : Spells name key digits) :
    splitLast name.toList = some (key.toList, digits.toList) := by
  refine splitLast_eq_some_iff.mpr ⟨by simp [h.name_eq], fun mark => ?_⟩
  have digit := h.digit '?' mark
  contradiction

/-- There is no other way to take the name apart. -/
theorem Spells.unique (h : Spells name key digits) (h' : Spells name key' digits') :
    key = key' ∧ digits = digits' := by
  have parts := h.splitLast.symm.trans h'.splitLast
  simpa [String.toList_inj] using parts

end OptionalMarker

open OptionalMarker in
theorem Marker.asOptional_eq_some_iff {m : Marker} {o : OptionalMarker} :
    m.asOptional = some o ↔ ∃ digits, Spells m.name o.key digits ∧ o.chance = percent digits := by
  unfold asOptional
  constructor
  · intro h
    split at h
    · rename_i key suffix parts
      obtain ⟨eq, -⟩ := splitLast_eq_some_iff.mp parts
      split at h
      · contradiction
      · rename_i keyed
        obtain ⟨chance, value, rfl⟩ := Option.map_eq_some_iff.mp h
        rw [← String.toList_ofList (l := suffix)] at value
        obtain ⟨few, digit, rfl⟩ := chance?_eq_some_iff.mp value
        refine ⟨String.ofList suffix, ⟨?_, ?_, few, digit⟩, rfl⟩
        · rw [← String.toList_inj, eq]
          simp
        · intro blank
          rw [String.ofList_eq_empty_iff] at blank
          exact keyed (List.isEmpty_iff.mpr blank)
    · contradiction
  · rintro ⟨digits, spells, chance⟩
    have value : chance? digits.toList = some o.chance :=
      chance?_eq_some_iff.mpr ⟨spells.few, spells.digit, chance⟩
    have keyed : ¬ o.key.toList.isEmpty = true := by
      rw [List.isEmpty_iff, String.toList_eq_nil_iff]
      exact spells.key_ne
    rw [spells.splitLast]
    simp only [value, if_neg keyed, Option.map_some, String.ofList_toList]

end Phrasebook
