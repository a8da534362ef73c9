import Phrasebook.Proofs.Expander.Outcomes
import Phrasebook.Proofs.Random.InStep

/-! # Expansions in step

When two expansions of the same segments keep step, though their settings, their assets and what
they enter may differ: for each marker they must read it alike, know the same candidates, choose
alike among them, and keep step inside the candidates that are entered.
-/

namespace Phrasebook.Expander

open Phrasebook.Random

variable {e e' : Expander} {a a' : Assets}
  {enter enter' : String → Template → Draw ExpandError String}
  {alike : ExpandError → ExpandError → Prop} {cut : ExpandError → Prop}

theorem inStep_replacement {enter enter' : Template → Draw ExpandError String} {c : String}
    (inner : (Template.parse c).markers ≠ [] →
      (enter (Template.parse c)).InStep alike cut (enter' (Template.parse c))) :
    (replacement enter c).InStep alike cut (replacement enter' c) := by
  rw [replacement_eq, replacement_eq]
  split
  · exact .done c
  · rename_i literal
    exact inner (mt Template.isLiteral_iff.mpr literal)

theorem inStep_substitute {key : String}
    (empty : alike (.emptyChoice key) (.emptyChoice key))
    (known : a'.candidates? key = a.candidates? key)
    (missing : a.candidates? key = none →
      alike (.placeholderNotFound key (Suggestion.suggest key a.names))
        (.placeholderNotFound key (Suggestion.suggest key a'.names)))
    (choice : ∀ candidates, a.candidates? key = some candidates →
      e'.choose key candidates = e.choose key candidates)
    (inner : ∀ candidates c, a.candidates? key = some candidates → c ∈ candidates →
      (Template.parse c).markers ≠ [] →
      (enter key (Template.parse c)).InStep alike cut (enter' key (Template.parse c))) :
    (e.substitute a enter key).InStep alike cut (e'.substitute a' enter' key) := by
  unfold substitute
  rw [known]
  cases h : a.candidates? key with
  | none => exact .fail (missing h)
  | some candidates =>
      simp only [choice candidates h]
      have choosing : (e.choose key candidates).InStep alike cut (e.choose key candidates) := by
        refine Draw.InStep.refl fun err herr => ?_
        obtain ⟨-, rfl⟩ := ends_choose_error_iff.mp herr
        exact empty
      -- Only a candidate that can be picked has to be in step, and it is one of the list.
      refine choosing.bind fun c hc => inStep_replacement fun markers => ?_
      exact inner candidates c h (ends_choose_ok_iff.mp hc).1 markers

theorem inStep_resolve {m : Marker}
    (read : e'.optional? m = e.optional? m)
    (h : (e.substitute a enter (e.key m)).InStep alike cut (e'.substitute a' enter' (e.key m))) :
    (e.resolve a enter m).InStep alike cut (e'.resolve a' enter' m) := by
  unfold resolve
  unfold key at h
  rw [read]
  cases ho : e.optional? m with
  | none => simpa only [ho] using h
  | some o =>
      rw [ho] at h
      have rolling : roll.InStep alike cut roll :=
        Draw.InStep.refl fun err herr => by simp [roll] at herr
      refine rolling.bind fun n _ => ?_
      split
      · exact .done ""
      · exact h

theorem inStep_fill {segs : List Segment}
    (h : ∀ m ∈ segs.filterMap Segment.marker?,
      (e.resolve a enter m).InStep alike cut (e'.resolve a' enter' m)) :
    (e.fill a enter segs).InStep alike cut (e'.fill a' enter' segs) := by
  induction segs with
  | nil => exact .done ""
  | cons seg segs ih =>
      cases seg with
      | literal text => exact (ih h).bind_pure (text ++ ·)
      | marker m =>
          have rest := ih fun n hn => h n (List.mem_cons_of_mem m hn)
          exact (h m List.mem_cons_self).bind fun head _ => rest.bind_pure (head ++ ·)

end Phrasebook.Expander
