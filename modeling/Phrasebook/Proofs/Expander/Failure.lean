import Mathlib.Data.List.Chain
import Phrasebook.Proofs.Expander.Outcomes
import Phrasebook.Proofs.Expander.Reference
import Phrasebook.Proofs.Graph.Walk

/-! # How an expansion fails

A failing expansion has gone down a trail of placeholders: the first stands in the phrase, and each
next one in a candidate of the one before. `accurateFailure_of_ends_expand` says that the error
names the end of such a trail truly, and how long the trail is. The invariant of the recursion is
that the chain it carries, with any key of the template at hand behind it, is a trail.
-/

namespace Phrasebook.Expander

open Phrasebook.Random

/-! ## Trails -/

/-- Placeholders that lead on from a phrase, each through a candidate of the one before. All but the
last have candidates, so they are in the assets. -/
def IsTrail (e : Expander) (a : Assets) (phrase : String) (ks : List String) : Prop :=
  (∀ k ∈ ks.head?, k ∈ e.keys phrase) ∧ ks.IsChain (e.Refers a)

variable {e : Expander} {a : Assets} {phrase : String}

theorem isTrail_singleton {k : String} (h : k ∈ e.keys phrase) : e.IsTrail a phrase [k] :=
  ⟨by simpa using h, .singleton k⟩

theorem IsTrail.snoc {ks : List String} {k next : String} (h : e.IsTrail a phrase (ks ++ [k]))
    (refers : e.Refers a k next) : e.IsTrail a phrase (ks ++ [k] ++ [next]) := by
  refine ⟨?_, List.isChain_append.mpr ⟨h.2, .singleton next, ?_⟩⟩
  · intro first hf
    refine h.1 first ?_
    rwa [List.head?_append_of_ne_nil _ (by simp)] at hf
  · simpa using refers

theorem IsTrail.of_snoc {ks : List String} {next : String}
    (h : e.IsTrail a phrase (ks ++ [next])) : e.IsTrail a phrase ks := by
  refine ⟨fun first hf => h.1 first ?_, (List.isChain_append.mp h.2).1⟩
  rw [List.head?_append, hf]
  rfl

theorem IsTrail.contains_of_mem {ks : List String} {next : String}
    (h : e.IsTrail a phrase (ks ++ [next])) : ∀ k ∈ ks, a.contains k = true := by
  intro k hk
  obtain ⟨after, pair⟩ :=
    exists_pair_of_mem_dropLast (by rwa [List.dropLast_concat] : k ∈ (ks ++ [next]).dropLast)
  exact contains_of_refers (rel_of_consecutive h.2 pair)

theorem IsTrail.nests_of_mem_getLast? {ks : List String} {next : String}
    (h : e.IsTrail a phrase (ks ++ [next])) : ∀ k ∈ ks.getLast?, a.Nests k :=
  fun k hk => nests_of_refers ((List.isChain_append.mp h.2).2.2 k hk next rfl)

theorem IsTrail.congr {l : Expander} {ks : List String} (h : e.IsTrail a phrase ks)
    (same : l.optionalMarkers = e.optionalMarkers) : l.IsTrail a phrase ks := by
  refine ⟨?_, h.2.imp fun _ _ => (refers_congr same).mpr⟩
  rw [keys_congr same]
  exact h.1

/-! ## Errors and their trails -/

/-- What an error says of the assets and the phrase that were expanded. -/
def AccurateFailure (e : Expander) (a : Assets) (phrase : String) : ExpandError → Prop
  | .placeholderNotFound name suggestions =>
    a.candidates? name = none ∧ suggestions = Suggestion.suggest name a.names ∧
      ∃ ks, ks.length ≤ e.depthLimit ∧ e.IsTrail a phrase (ks ++ [name])
  | .emptyChoice name =>
    a.candidates? name = some [] ∧
      ∃ ks, ks.length ≤ e.depthLimit ∧ e.IsTrail a phrase (ks ++ [name])
  | .maxDepthExceeded maxDepth chain =>
    maxDepth = e.depthLimit ∧ chain.length = e.depthLimit + 1 ∧
      ∃ next, e.IsTrail a phrase (chain ++ [next])
  | .noTemplates => False
  | .templateIndexOutOfRange _ _ => False

/-- A row of segments fails at one marker that may be kept: its placeholder is missing or has no
candidate, or a candidate with markers of its own fails. -/
theorem ends_fill_error_cases {enter : String → Template → Draw ExpandError String}
    {segs : List Segment} {err : ExpandError} (h : (e.fill a enter segs).Ends (.error err)) :
    ∃ m ∈ segs.filterMap Segment.marker?, e.MayKeep m ∧
      ((a.candidates? (e.key m) = none ∧
        err = .placeholderNotFound (e.key m) (Suggestion.suggest (e.key m) a.names)) ∨
      (a.candidates? (e.key m) = some [] ∧ err = .emptyChoice (e.key m)) ∨
      ∃ candidates c, a.candidates? (e.key m) = some candidates ∧ c ∈ candidates ∧
        (Template.parse c).markers ≠ [] ∧
        (enter (e.key m) (Template.parse c)).Ends (.error err)) := by
  obtain ⟨m, hm, hr⟩ := exists_marker_of_ends_fill_error h
  obtain ⟨may, hs⟩ := ends_resolve_error_iff.mp hr
  refine ⟨m, hm, may, ?_⟩
  rcases ends_substitute_error_iff.mp hs with
    missing | empty | ⟨candidates, c, known, offered, hc⟩
  · exact Or.inl missing
  · exact Or.inr (Or.inl empty)
  · rw [replacement_eq] at hc
    split at hc
    · simp at hc
    · rename_i literal
      exact Or.inr (Or.inr ⟨candidates, c, known, offered.1,
        mt Template.isLiteral_iff.mpr literal, hc⟩)

/-- A template behind a chain fails accurately, if the candidates that are entered from it do. -/
theorem accurateFailure_of_ends_fill {enter : String → Template → Draw ExpandError String}
    {chain : List String} {t : Template} {err : ExpandError}
    (limit : chain.length ≤ e.depthLimit)
    (trail : ∀ m ∈ t.markers, e.IsTrail a phrase (chain ++ [e.key m]))
    (inner : ∀ key c, (∀ n ∈ (Template.parse c).markers,
        e.IsTrail a phrase (chain ++ [key] ++ [e.key n])) → (Template.parse c).markers ≠ [] →
      (enter key (Template.parse c)).Ends (.error err) → e.AccurateFailure a phrase err)
    (h : (e.fill a enter t.segments).Ends (.error err)) : e.AccurateFailure a phrase err := by
  obtain ⟨m, hm, -, ⟨missing, rfl⟩ | ⟨empty, rfl⟩ | ⟨candidates, c, known, hc, markers, hf⟩⟩ :=
    ends_fill_error_cases h
  · exact ⟨missing, rfl, chain, limit, trail m hm⟩
  · exact ⟨empty, chain, limit, trail m hm⟩
  · refine inner (e.key m) c (fun n hn => (trail m hm).snoc ?_) markers hf
    exact ⟨candidates, c, known, hc, mem_keys_iff.mpr ⟨n, hn, rfl⟩⟩

theorem accurateFailure_of_ends_expandWithin {room : Nat} {chain : List String} {t : Template}
    {err : ExpandError} (limit : chain.length + room = e.depthLimit)
    (trail : ∀ m ∈ t.markers, e.IsTrail a phrase (chain ++ [e.key m]))
    (h : (e.expandWithin a room chain t).Ends (.error err)) : e.AccurateFailure a phrase err := by
  -- The chain grows as the room shrinks, so together they stay at the limit.
  induction room generalizing chain t with
  | zero =>
      rw [expandWithin_eq] at h
      refine accurateFailure_of_ends_fill (by omega) trail (fun key c deeper markers hf => ?_) h
      obtain rfl := Except.error.inj (Draw.ends_fail_iff.mp hf)
      obtain ⟨n, hn⟩ := List.exists_mem_of_ne_nil _ markers
      refine ⟨rfl, ?_, e.key n, deeper n hn⟩
      rw [List.length_append, List.length_singleton]
      omega
  | succ room ih =>
      rw [expandWithin_eq] at h
      refine accurateFailure_of_ends_fill (by omega) trail (fun key c deeper _ hf => ?_) h
      refine ih ?_ deeper hf
      rw [List.length_append, List.length_singleton]
      omega

theorem accurateFailure_of_ends_expand {err : ExpandError}
    (h : (e.expand a phrase).Ends (.error err)) : e.AccurateFailure a phrase err := by
  refine accurateFailure_of_ends_expandWithin (Nat.zero_add _) (fun m hm => ?_) h
  exact isTrail_singleton (mem_keys_iff.mpr ⟨m, hm, rfl⟩)

end Phrasebook.Expander
