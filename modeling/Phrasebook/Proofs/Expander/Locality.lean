import Phrasebook.Proofs.Expander.InStep
import Phrasebook.Proofs.Expander.Reference

/-! # What an expansion depends on

An expansion looks up no placeholder but those that its phrase leads to, and reads no marker but
those it meets on the way. So it is kept in step by other assets and other settings as long as these
make no difference there (`inStep_expandWithin_of_coincide`). Other assets may still have other names
to suggest for a missing one (`inStep_expand_of_agree`); with the assets left as they are, every run
is the same (`run_expand_of_coincide`).
-/

namespace Phrasebook

open Phrasebook.Random

/-- The same error, up to the suggestions for a missing placeholder. -/
inductive ExpandError.Alike : ExpandError → ExpandError → Prop where
  | refl (err : ExpandError) : Alike err err
  | suggestions (name : String) (xs ys : List String) :
      Alike (.placeholderNotFound name xs) (.placeholderNotFound name ys)

namespace Expander

/-- Two expanders over their assets find the same in everything that a text leads to: the readings of
its markers, the candidates of the placeholders, and which of them a pick is made from. -/
structure Coincide (e e' : Expander) (a a' : Assets) (text : String) : Prop where
  depth : e'.depthLimit = e.depthLimit
  read : ∀ m ∈ (Template.parse text).markers, e'.optional? m = e.optional? m
  readBehind : ∀ candidates, a.Offers e.Reads text candidates → ∀ c ∈ candidates,
    ∀ m ∈ (Template.parse c).markers, e'.optional? m = e.optional? m
  known : ∀ k, a.Reaches e.Reads text k → a'.candidates? k = a.candidates? k
  eligible : ∀ candidates, a.Offers e.Reads text candidates →
    e'.eligible candidates = e.eligible candidates

/-- Two assets have the same candidates for every placeholder that a text leads to. -/
def Agree (e : Expander) (a a' : Assets) (text : String) : Prop :=
  ∀ k, a.Reaches e.Reads text k → a'.candidates? k = a.candidates? k

variable {e e' : Expander} {a a' : Assets} {text : String}

/-- What a candidate leads to is among what the text leads to that it is a candidate for. -/
theorem Coincide.of_candidate {k c : String} {candidates : List String}
    (h : e.Coincide e' a a' text) (hk : e.Reads text k)
    (known : a.candidates? k = some candidates) (hc : c ∈ candidates) :
    e.Coincide e' a a' c := by
  have reaches (next : String) (hn : a.Reaches e.Reads c next) : a.Reaches e.Reads text next :=
    Assets.Reaches.of_candidate (.here hk) known hc hn
  have offers (more : List String) (hm : a.Offers e.Reads c more) : a.Offers e.Reads text more := by
    obtain ⟨next, hn, offered⟩ := hm
    exact ⟨next, reaches next hn, offered⟩
  exact {
    depth := h.depth
    read := h.readBehind candidates ⟨k, .here hk, known⟩ c hc
    readBehind := fun more hm => h.readBehind more (offers more hm)
    known := fun next hn => h.known next (reaches next hn)
    eligible := fun more hm => h.eligible more (offers more hm) }

theorem choose_congr {key : String} {candidates : List String}
    (h : e'.eligible candidates = e.eligible candidates) :
    e'.choose key candidates = e.choose key candidates := by
  simp only [choose, h]

section InStep

variable {alike : ExpandError → ExpandError → Prop}

/-- Templates are in step if the candidates entered from them are. -/
theorem inStep_fill_of_coincide {enter enter' : String → Template → Draw ExpandError String}
    (refl : ∀ err, alike err err)
    (missing : ∀ k, alike (.placeholderNotFound k (Suggestion.suggest k a.names))
      (.placeholderNotFound k (Suggestion.suggest k a'.names)))
    (h : e.Coincide e' a a' text)
    (inner : ∀ key c, e.Coincide e' a a' c →
      (enter key (Template.parse c)).InStep alike (fun _ => False)
        (enter' key (Template.parse c))) :
    (e.fill a enter (Template.parse text).segments).InStep alike (fun _ => False)
      (e'.fill a' enter' (Template.parse text).segments) := by
  refine inStep_fill fun m hm => inStep_resolve (h.read m hm) ?_
  have read : e.Reads text (e.key m) := mem_keys_iff.mpr ⟨m, hm, rfl⟩
  refine inStep_substitute (refl _) (h.known _ (.here read)) (fun _ => missing _) ?_ ?_
  · intro candidates known
    exact choose_congr (h.eligible candidates ⟨_, .here read, known⟩)
  · intro candidates c known hc _
    exact inner _ c (h.of_candidate read known hc)

theorem inStep_expandWithin_of_coincide (refl : ∀ err, alike err err)
    (missing : ∀ k, alike (.placeholderNotFound k (Suggestion.suggest k a.names))
      (.placeholderNotFound k (Suggestion.suggest k a'.names)))
    (h : e.Coincide e' a a' text) (room : Nat) (chain : List String) :
    (e.expandWithin a room chain (Template.parse text)).InStep alike (fun _ => False)
      (e'.expandWithin a' room chain (Template.parse text)) := by
  induction room generalizing chain text with
  | zero =>
      rw [expandWithin_eq, expandWithin_eq]
      refine inStep_fill_of_coincide refl missing h fun key c _ => ?_
      rw [entering, entering, h.depth]
      exact .fail (refl _)
  | succ room ih =>
      exact inStep_fill_of_coincide refl missing h fun key c deeper => ih deeper (chain ++ [key])

end InStep

theorem inStep_expand_of_agree (agree : e.Agree a a' text) :
    (e.expand a text).InStep ExpandError.Alike (fun _ => False) (e.expand a' text) := by
  have coincide : e.Coincide e a a' text :=
    ⟨rfl, fun _ _ => rfl, fun _ _ _ _ _ _ => rfl, agree, fun _ _ => rfl⟩
  exact inStep_expandWithin_of_coincide .refl (fun _ => .suggestions _ _ _) coincide _ []

theorem run_expand_of_coincide (h : e.Coincide e' a a text) (s : Words) :
    (e'.expand a text).run s = (e.expand a text).run s := by
  have step : (e.expand a text).InStep Eq (fun _ => False) (e'.expand a text) := by
    rw [expand, expand, h.depth]
    exact inStep_expandWithin_of_coincide (fun _ => rfl) (fun _ => rfl) h _ []
  exact (step.sameOutcome s).eq

end Expander

end Phrasebook
