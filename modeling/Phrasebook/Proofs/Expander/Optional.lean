import Phrasebook.Proofs.Expander.Machine
import Phrasebook.Proofs.Marker.Spelling

/-! # The key of a marker

Which placeholder a marker stands for is read off the spelling of its name, and an expansion knows
the marker by no other one: whether it is kept is settled without the assets (`keeps`), and once it
is kept nothing but its key is looked up (`resolve_eq_keeps`, `resolve_congr`).
-/

namespace Phrasebook.Expander

open Phrasebook.Random
open OptionalMarker (Spells decimal percent)

variable {e : Expander} {a a' : Assets} {m : Marker} {k digits : String}
  {enter : String → Template → Draw ExpandError String}

/-- Whether a marker is kept. Only one that is read as optional is rolled for. -/
def keeps (e : Expander) (m : Marker) : Draw ExpandError Bool :=
  match e.optional? m with
  | none => .done true
  | some o => do
    let n ← roll
    return decide (n ≤ o.chance)

theorem key_of_spells (h : Spells m.name k digits) :
    e.key m = if e.optionalMarkers then k else m.name := by
  have read : m.asOptional = some ⟨k, percent digits⟩ :=
    Marker.asOptional_eq_some_iff.mpr ⟨digits, h, rfl⟩
  unfold key optional?
  cases e.optionalMarkers with
  | true => simp [read]
  | false => rfl

theorem key_of_forall_not_spells (h : ∀ k digits, ¬ Spells m.name k digits) :
    e.key m = m.name := by
  have none : m.asOptional = none := by
    rw [Option.eq_none_iff_forall_ne_some]
    intro o read
    obtain ⟨digits, spells, -⟩ := Marker.asOptional_eq_some_iff.mp read
    exact h o.key digits spells
  simp [key, optional?, none]

/-- A marker that is kept does what its key does, and one that is dropped does nothing. -/
theorem resolve_eq_keeps (m : Marker) :
    e.resolve a enter m = (do
      let kept ← e.keeps m
      if kept then e.substitute a enter (e.key m) else .done "") := by
  unfold resolve keeps key
  cases e.optional? m with
  | none => rfl
  | some o =>
      simp only [bind_assoc]
      refine bind_congr fun n => ?_
      by_cases kept : n ≤ o.chance
      · have notLess : ¬ o.chance < n := by omega
        simp [kept, notLess]
      · have less : o.chance < n := by omega
        simp [kept, less]

/-- Of the assets only the candidates of the key are looked at, and all names if it has none. -/
theorem resolve_congr (known : a'.candidates? (e.key m) = a.candidates? (e.key m))
    (names : a.candidates? (e.key m) = none → a'.names = a.names) :
    e.resolve a' enter m = e.resolve a enter m := by
  have same : e.substitute a' enter (e.key m) = e.substitute a enter (e.key m) := by
    unfold substitute
    rw [known]
    cases h : a.candidates? (e.key m) with
    | none => rw [names h]
    | some candidates => rfl
  rw [resolve_eq_keeps, resolve_eq_keeps, same]

/-- A marker is read as optional just if its name is spelled so, which it is in one way at most, and
its numbers are small enough for sixteen and eight bits. The key of that spelling, or else the name,
is the only placeholder that is looked up for the marker. -/
theorem key_of_spelling (e : Expander) (m : Marker) :
    (∀ o, m.asOptional = some o ↔
      ∃ digits, Spells m.name o.key digits ∧ o.chance = percent digits) ∧
    (∀ k digits k' digits', Spells m.name k digits → Spells m.name k' digits' →
      k = k' ∧ digits = digits') ∧
    (∀ k digits, Spells m.name k digits →
      decimal digits < UInt16.size ∧ percent digits < UInt8.size) ∧
    (∀ k digits, Spells m.name k digits →
      e.key m = if e.optionalMarkers then k else m.name) ∧
    ((∀ k digits, ¬ Spells m.name k digits) → e.key m = m.name) ∧
    ∀ (a : Assets) (enter : String → Template → Draw ExpandError String),
      e.resolve a enter m = (do
        let kept ← e.keeps m
        if kept then e.substitute a enter (e.key m) else .done "") ∧
      ∀ a' : Assets, a'.candidates? (e.key m) = a.candidates? (e.key m) →
        (a.candidates? (e.key m) = none → a'.names = a.names) →
        e.resolve a' enter m = e.resolve a enter m := by
  refine ⟨fun o => Marker.asOptional_eq_some_iff, fun _ _ _ _ => Spells.unique, ?_, ?_, ?_, ?_⟩
  · intro k digits h
    have value : decimal digits < 1000 := OptionalMarker.decimal_lt h.few h.digit
    have chance : percent digits ≤ 100 := OptionalMarker.percent_le digits
    have sixteen : UInt16.size = 65536 := rfl
    have eight : UInt8.size = 256 := rfl
    omega
  · exact fun k digits => key_of_spells
  · exact key_of_forall_not_spells
  · exact fun a enter => ⟨resolve_eq_keeps m, fun a' => resolve_congr⟩

/-- Of two question marks the last one counts, and leading zeros do not. Four digits are too many.
-/
theorem key_of_spelling_marks :
    (⟨"a?b?007"⟩ : Marker).asOptional = some ⟨"a?b", 7⟩ ∧
      key ⟨64, true, none⟩ ⟨"a?b?007"⟩ = "a?b" ∧
      key ⟨64, false, none⟩ ⟨"a?b?007"⟩ = "a?b?007" ∧
      key ⟨64, true, none⟩ ⟨"a?1000"⟩ = "a?1000" ∧
      resolve ⟨64, true, none⟩ (Assets.ofList [("a", ["y"]), ("a?b", ["x"])])
          (fun _ _ => .done "") ⟨"a?b?007"⟩ =
        resolve ⟨64, true, none⟩ (Assets.ofList [("a?b", ["x"])])
          (fun _ _ => .done "") ⟨"a?b?007"⟩ := by
  have digit : "007".toList.all Char.isDigit = true := by decide +kernel
  have spells : Spells "a?b?007" "a?b" "007" :=
    ⟨by decide +kernel, by decide, by decide +kernel, List.all_eq_true.mp digit⟩
  have tooLong (k digits : String) : ¬ Spells "a?1000" k digits := by
    intro h
    have split : OptionalMarker.splitLast "a?1000".toList = some (['a'], ['1', '0', '0', '0']) := by
      decide +kernel
    have parts := Prod.mk.inj (Option.some.inj (split.symm.trans h.splitLast))
    have length : digits.toList.length = 4 := by rw [← parts.2]; rfl
    have few : digits.toList.length ≤ 3 := h.few
    omega
  obtain ⟨grammar, -, -, on, -, looked⟩ := key_of_spelling ⟨64, true, none⟩ ⟨"a?b?007"⟩
  obtain ⟨-, -, -, off, -⟩ := key_of_spelling ⟨64, false, none⟩ ⟨"a?b?007"⟩
  obtain ⟨-, -, -, -, verbatim, -⟩ := key_of_spelling ⟨64, true, none⟩ ⟨"a?1000"⟩
  refine ⟨?_, on _ _ spells, off _ _ spells, verbatim tooLong, ?_⟩
  · exact (grammar ⟨"a?b", 7⟩).mpr ⟨"007", spells, by decide +kernel⟩
  · refine (looked _ _).2 _ (by decide +kernel) fun missing => ?_
    have known : (Assets.ofList [("a?b", ["x"])]).candidates?
        (key ⟨64, true, none⟩ ⟨"a?b?007"⟩) = some ["x"] := by decide +kernel
    rw [known] at missing
    contradiction

end Phrasebook.Expander
