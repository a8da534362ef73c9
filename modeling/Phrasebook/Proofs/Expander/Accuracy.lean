import Phrasebook.Proofs.Expander.Depth
import Phrasebook.Proofs.Expander.Failure
import Phrasebook.Proofs.Expander.Machine

/-! # What an error says

An error of an expansion can be taken at its word: the placeholder that it names is missing or has
no candidate, and is led to by the phrase; a chain that it lists is a chain of placeholders down to
the limit and one beyond it, with still more to come. The machine that makes the steps of the
expansion never goes deeper than the limit, whichever way the expansion ends.
-/

namespace Phrasebook.Expander

open Phrasebook.Random

/-- Some known placeholders, no more than may be nested, lead from the phrase to the name. -/
def LedTo (e : Expander) (a : Assets) (phrase name : String) : Prop :=
  ∃ ks : List String, ks.length ≤ e.depthLimit ∧ (∀ k ∈ ks, a.contains k = true) ∧
    e.IsTrail a phrase (ks ++ [name])

variable {e : Expander} {a : Assets} {phrase : String}

theorem ledTo_of_isTrail {ks : List String} {name : String} (limit : ks.length ≤ e.depthLimit)
    (h : e.IsTrail a phrase (ks ++ [name])) : e.LedTo a phrase name :=
  ⟨ks, limit, h.contains_of_mem, h⟩

/-- The error with which a run fails names a missing placeholder, one without candidates, or the
chain of placeholders that went too deep; and no run ever is deeper than the limit. -/
theorem run_expand_accurate (e : Expander) (a : Assets) (phrase : String) (s : Words) :
    (∀ err, ((e.expand a phrase).run s).1 = .error err →
      (∃ name, err = .placeholderNotFound name (Suggestion.suggest name a.names) ∧
        a.contains name = false ∧ e.LedTo a phrase name) ∨
      (∃ name, err = .emptyChoice name ∧ a.candidates? name = some [] ∧ e.LedTo a phrase name) ∨
      ∃ chain, err = .maxDepthExceeded e.depthLimit chain ∧ chain.length = e.depthLimit + 1 ∧
        (∀ k ∈ chain, a.contains k = true) ∧ e.IsTrail a phrase chain ∧
        ∀ k ∈ chain.getLast?, a.Nests k) ∧
    e.Steps a (startState phrase s)
      (.halted ((e.expand a phrase).run s).1 ((e.expand a phrase).run s).2) ∧
    ∀ st, e.Steps a (startState phrase s) st → st.depth ≤ e.depthLimit := by
  refine ⟨fun err failed => ?_, steps_expand phrase s, fun st => depth_le_of_steps⟩
  have accurate : e.AccurateFailure a phrase err :=
    accurateFailure_of_ends_expand (failed ▸ Draw.ends_run _ s)
  cases err with
  | placeholderNotFound name suggestions =>
      obtain ⟨missing, rfl, ks, limit, trail⟩ := accurate
      have unknown : a.contains name = false := by rw [Assets.contains, missing]; rfl
      exact Or.inl ⟨name, rfl, unknown, ledTo_of_isTrail limit trail⟩
  | emptyChoice name =>
      obtain ⟨empty, ks, limit, trail⟩ := accurate
      exact Or.inr (Or.inl ⟨name, rfl, empty, ledTo_of_isTrail limit trail⟩)
  | maxDepthExceeded maxDepth chain =>
      obtain ⟨rfl, length, next, trail⟩ := accurate
      exact Or.inr (Or.inr ⟨chain, rfl, length, trail.contains_of_mem, trail.of_snoc,
        trail.nests_of_mem_getLast?⟩)
  | noTemplates => exact accurate.elim
  | templateIndexOutOfRange index count => exact accurate.elim

/-- The first marker nests once and is done with; the chain is that of the second one alone. -/
theorem run_expand_accurate_winding :
    ((expand ⟨1, false, none⟩ winding "[a] [b]").run (.ofArray #[0, 4294967295, 0, 0])).1 =
        .error (.maxDepthExceeded 1 ["b", "a"]) ∧
      IsTrail ⟨1, false, none⟩ winding "[a] [b]" ["b", "a"] ∧ winding.Nests "a" ∧
      (startState "[a] [b]" (.ofArray #[0, 4294967295, 0, 0])).depth ≤ 1 := by
  have accurate := run_expand_accurate ⟨1, false, none⟩ winding "[a] [b]"
    (.ofArray #[0, 4294967295, 0, 0])
  have failed : ((expand ⟨1, false, none⟩ winding "[a] [b]").run
      (.ofArray #[0, 4294967295, 0, 0])).1 = .error (.maxDepthExceeded 1 ["b", "a"]) := by
    decide +kernel
  refine ⟨failed, ?_⟩
  obtain ⟨_, eq, -⟩ | ⟨_, eq, -⟩ | ⟨chain, eq, -, -, trail, nests⟩ := accurate.1 _ failed
  · contradiction
  · contradiction
  · obtain ⟨-, rfl⟩ := ExpandError.maxDepthExceeded.inj eq
    exact ⟨trail, nests "a" rfl, accurate.2.2 _ .refl⟩

end Phrasebook.Expander
