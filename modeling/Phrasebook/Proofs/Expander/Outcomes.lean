import Phrasebook.Expander.Expand
import Phrasebook.Proofs.Random.Steering
import Phrasebook.Proofs.Template.Segmentation

/-! # Outcomes of one step of an expansion

What a pick, a placeholder, a marker and a row of segments can come to, each said once. The handler
`enter` for candidates with markers of their own is left open, so nothing here depends on how deep
the expansion is. A marker has two outcomes of its own, `ends_resolve_iff`: it may be dropped, or it
is kept and does what its placeholder does.
-/

namespace Phrasebook

open Phrasebook.Random

/-- Every candidate list is short enough for one word to pick from it. -/
def Assets.IsNarrow (a : Assets) : Prop :=
  ∀ name candidates, a.candidates? name = some candidates → candidates.length < wordCount

theorem Assets.isNarrow_of_forall_mem {a : Assets}
    (h : ∀ entry ∈ a.entries, entry.2.length < wordCount) : a.IsNarrow :=
  fun _ _ known => h _ (candidates?_eq_some_iff.mp known)

namespace Expander

variable {e : Expander} {a : Assets} {enter : String → Template → Draw ExpandError String}

/-! ## Candidates -/

/-- A pick may come to a candidate that matches the search term, and to any candidate if there is no
term or none matches. -/
def IsEligible (e : Expander) (candidates : List String) (c : String) : Prop :=
  c ∈ candidates ∧ ∀ term, e.searchTerm? = some term →
    (∃ d ∈ candidates, isMatch term d = true) → isMatch term c = true

theorem mem_eligible_iff {candidates : List String} {c : String} :
    c ∈ e.eligible candidates ↔ e.IsEligible candidates c := by
  unfold eligible IsEligible
  cases e.searchTerm? with
  | none => simp
  | some term =>
      by_cases h : (candidates.filter (isMatch term)).isEmpty
      · have no (d : String) (hd : d ∈ candidates) : ¬ isMatch term d = true :=
          List.filter_eq_nil_iff.mp (List.isEmpty_iff.mp h) d hd
        simp only [h, if_true, Option.some.injEq, forall_eq', iff_self_and]
        rintro - ⟨d, hd, hm⟩
        exact absurd hm (no d hd)
      · obtain ⟨d, hd⟩ := List.exists_mem_of_ne_nil _ (mt List.isEmpty_iff.mpr h)
        obtain ⟨hd, hm⟩ := List.mem_filter.mp hd
        simp only [h, Bool.false_eq_true, if_false, List.mem_filter, Option.some.injEq, forall_eq']
        exact and_congr_right fun _ => ⟨fun hc _ => hc, fun hc => hc ⟨d, hd, hm⟩⟩

/-- Without a search term a pick may come to any candidate. -/
theorem isEligible_iff_mem (h : e.searchTerm? = none) {candidates : List String} {c : String} :
    e.IsEligible candidates c ↔ c ∈ candidates := by
  simp [IsEligible, h]

theorem eligible_eq_nil_iff {candidates : List String} :
    e.eligible candidates = [] ↔ candidates = [] := by
  unfold eligible
  cases e.searchTerm? with
  | none => rfl
  | some term =>
      by_cases h : (candidates.filter (isMatch term)).isEmpty
      · simp only [h, if_true]
      · have ne : candidates.filter (isMatch term) ≠ [] := mt List.isEmpty_iff.mpr h
        simp only [h, Bool.false_eq_true, if_false, ne, false_iff]
        rintro rfl
        exact ne rfl

theorem length_eligible_le (candidates : List String) :
    (e.eligible candidates).length ≤ candidates.length := by
  unfold eligible
  cases e.searchTerm? with
  | none => exact le_rfl
  | some term =>
      simp only
      split
      · exact le_rfl
      · exact List.length_filter_le _ _

theorem ends_choose_ok_iff {key : String} {candidates : List String} {c : String} :
    (e.choose key candidates).Ends (.ok c) ↔ e.IsEligible candidates c := by
  rw [← mem_eligible_iff, choose]
  split
  · rename_i h
    simp [h]
  · simp [Draw.ends_element_iff]

theorem ends_choose_error_iff {key : String} {candidates : List String} {err : ExpandError} :
    (e.choose key candidates).Ends (.error err) ↔ candidates = [] ∧ err = .emptyChoice key := by
  rw [← eligible_eq_nil_iff (e := e), choose]
  split
  · rename_i h
    simp [h]
  · rename_i h
    simp [Draw.ends_element_iff, h]

/-- The quick test for brackets changes nothing. -/
theorem replacement_eq (enter : Template → Draw ExpandError String) (c : String) :
    replacement enter c =
      if (Template.parse c).isLiteral then .done c else enter (Template.parse c) := by
  unfold replacement
  split
  · rfl
  · rename_i h
    rw [if_pos (Template.isLiteral_of_not_hasBrackets h)]

/-- A candidate with markers of its own is entered. -/
theorem replacement_of_markers {enter : Template → Draw ExpandError String} {c : String}
    (h : (Template.parse c).markers ≠ []) : replacement enter c = enter (Template.parse c) := by
  rw [replacement_eq, if_neg (mt Template.isLiteral_iff.mp h)]

/-! ## Placeholders -/

theorem ends_substitute_ok_iff {key x : String} :
    (e.substitute a enter key).Ends (.ok x) ↔
      ∃ candidates c, a.candidates? key = some candidates ∧ e.IsEligible candidates c ∧
        (replacement (enter key) c).Ends (.ok x) := by
  unfold substitute
  cases h : a.candidates? key with
  | none => simp
  | some candidates => simp [Draw.ends_bind_iff, ends_choose_ok_iff]

theorem ends_substitute_error_iff {key : String} {err : ExpandError} :
    (e.substitute a enter key).Ends (.error err) ↔
      (a.candidates? key = none ∧
        err = .placeholderNotFound key (Suggestion.suggest key a.names)) ∨
      (a.candidates? key = some [] ∧ err = .emptyChoice key) ∨
      ∃ candidates c, a.candidates? key = some candidates ∧ e.IsEligible candidates c ∧
        (replacement (enter key) c).Ends (.error err) := by
  unfold substitute
  cases h : a.candidates? key with
  | none => simp
  | some candidates =>
      simp only [Draw.ends_bind_iff, ends_choose_ok_iff, ends_choose_error_iff, Except.error.injEq,
        reduceCtorEq, false_and, false_or, Option.some.injEq, exists_and_left, exists_eq_left']
      constructor
      · rintro (⟨c, hc, hr⟩ | ⟨_, ⟨rfl, rfl⟩, rfl⟩)
        · exact Or.inr ⟨c, hc, hr⟩
        · exact Or.inl ⟨rfl, rfl⟩
      · rintro (⟨rfl, rfl⟩ | ⟨c, hc, hr⟩)
        · exact Or.inr ⟨_, ⟨rfl, rfl⟩, rfl⟩
        · exact Or.inl ⟨c, hc, hr⟩

/-! ## Markers -/

/-- A marker may be dropped if it is optional and its chance is not a full hundred. -/
def MayDrop (e : Expander) (m : Marker) : Prop :=
  ∃ o, e.optional? m = some o ∧ o.chance < 100

/-- A marker may be kept unless it is optional without any chance. -/
def MayKeep (e : Expander) (m : Marker) : Prop :=
  ∀ o, e.optional? m = some o → o.chance ≠ 0

theorem ends_resolve_iff {m : Marker} {r : Except ExpandError String} :
    (e.resolve a enter m).Ends r ↔
      (e.MayDrop m ∧ r = .ok "") ∨ (e.MayKeep m ∧ (e.substitute a enter (e.key m)).Ends r) := by
  unfold resolve key MayDrop MayKeep
  cases e.optional? m with
  | none => simp
  | some o =>
      simp only [Option.some.injEq, exists_eq_left', forall_eq']
      change ((Draw.pick 100 _ _).bind _).Ends r ↔ _
      simp only [Draw.bind, Draw.ends_pick_iff]
      constructor
      · rintro ⟨i, h⟩
        by_cases drop : o.chance < i.val + 1
        · rw [if_pos drop, Draw.ends_done_iff] at h
          exact Or.inl ⟨by omega, h⟩
        · rw [if_neg drop] at h
          exact Or.inr ⟨by omega, h⟩
      · rintro (⟨low, rfl⟩ | ⟨pos, h⟩)
        · exact ⟨⟨99, by decide⟩, by rw [if_pos (by simpa using low)]; exact .done ""⟩
        · exact ⟨⟨0, by decide⟩, by rwa [if_neg (by simp only; omega)]⟩

theorem ends_resolve_error_iff {m : Marker} {err : ExpandError} :
    (e.resolve a enter m).Ends (.error err) ↔
      e.MayKeep m ∧ (e.substitute a enter (e.key m)).Ends (.error err) := by
  simp [ends_resolve_iff]

/-! ## Segments -/

@[simp]
theorem ends_fill_nil_iff {r : Except ExpandError String} :
    (e.fill a enter []).Ends r ↔ r = .ok "" := Draw.ends_done_iff

theorem ends_fill_literal_ok_iff {text o : String} {rest : List Segment} :
    (e.fill a enter (.literal text :: rest)).Ends (.ok o) ↔
      ∃ tail, (e.fill a enter rest).Ends (.ok tail) ∧ o = text ++ tail := by
  rw [fill]
  exact Draw.ends_ok_bind_pure_iff

theorem ends_fill_literal_error_iff {text : String} {rest : List Segment} {err : ExpandError} :
    (e.fill a enter (.literal text :: rest)).Ends (.error err) ↔
      (e.fill a enter rest).Ends (.error err) := by
  rw [fill]
  exact Draw.ends_error_bind_pure_iff

theorem ends_fill_marker_ok_iff {m : Marker} {o : String} {rest : List Segment} :
    (e.fill a enter (.marker m :: rest)).Ends (.ok o) ↔
      ∃ head tail, (e.resolve a enter m).Ends (.ok head) ∧ (e.fill a enter rest).Ends (.ok tail) ∧
        o = head ++ tail := by
  rw [fill, Draw.ends_bind_iff]
  simp only [Draw.ends_ok_bind_pure_iff, reduceCtorEq, and_false, exists_const, or_false,
    exists_and_left]

theorem ends_fill_marker_error_iff {m : Marker} {rest : List Segment} {err : ExpandError} :
    (e.fill a enter (.marker m :: rest)).Ends (.error err) ↔
      (e.resolve a enter m).Ends (.error err) ∨
        (∃ head, (e.resolve a enter m).Ends (.ok head)) ∧
          (e.fill a enter rest).Ends (.error err) := by
  rw [fill, Draw.ends_bind_iff]
  simp only [Draw.ends_error_bind_pure_iff, Except.error.injEq, exists_eq_right', exists_and_right]
  exact or_comm

/-- A failure comes from one of the markers. -/
theorem exists_marker_of_ends_fill_error {segs : List Segment} {err : ExpandError}
    (h : (e.fill a enter segs).Ends (.error err)) :
    ∃ m ∈ segs.filterMap Segment.marker?, (e.resolve a enter m).Ends (.error err) := by
  induction segs with
  | nil => simp at h
  | cons seg segs ih =>
      cases seg with
      | literal text =>
          obtain ⟨m, hm, hr⟩ := ih (ends_fill_literal_error_iff.mp h)
          exact ⟨m, by simpa [Segment.marker?] using hm, hr⟩
      | marker m =>
          rcases ends_fill_marker_error_iff.mp h with hr | ⟨-, h⟩
          · exact ⟨m, by simp [Segment.marker?], hr⟩
          · obtain ⟨n, hn, hr⟩ := ih h
            exact ⟨n, by simp [Segment.marker?, hn], hr⟩

/-- Where a marker can fail, so can the segments around it: at that marker, or at one before. -/
theorem exists_ends_fill_error {segs : List Segment} {m : Marker} {err : ExpandError}
    (hm : m ∈ segs.filterMap Segment.marker?) (h : (e.resolve a enter m).Ends (.error err)) :
    ∃ err, (e.fill a enter segs).Ends (.error err) := by
  induction segs with
  | nil => simp at hm
  | cons seg segs ih =>
      cases seg with
      | literal text =>
          obtain ⟨err, ht⟩ := ih hm
          exact ⟨err, ends_fill_literal_error_iff.mpr ht⟩
      | marker n =>
          rcases List.mem_cons.mp hm with rfl | hm
          · exact ⟨err, ends_fill_marker_error_iff.mpr (Or.inl h)⟩
          · obtain ⟨err, ht⟩ := ih hm
            have some_end := (e.resolve a enter n).ends_run default
            cases hn : ((e.resolve a enter n).run default).1 with
            | error first =>
                exact ⟨first, ends_fill_marker_error_iff.mpr (Or.inl (hn ▸ some_end))⟩
            | ok head =>
                exact ⟨err, ends_fill_marker_error_iff.mpr (Or.inr ⟨⟨head, hn ▸ some_end⟩, ht⟩)⟩

/-! ## Depth -/

/-- What is done with a candidate of `key` that has markers, where `room` more may be entered. -/
def entering (e : Expander) (a : Assets) :
    (room : Nat) → (chain : List String) → (key : String) → Template → Draw ExpandError String
  | 0, chain, key, _ => .fail (.maxDepthExceeded e.depthLimit (chain ++ [key]))
  | room + 1, chain, key, t => e.expandWithin a room (chain ++ [key]) t

theorem expandWithin_eq (e : Expander) (a : Assets) (room : Nat) (chain : List String)
    (t : Template) :
    e.expandWithin a room chain t = e.fill a (e.entering a room chain) t.segments := by
  cases room with
  | zero => rfl
  | succ room => rfl

theorem ends_entering_ok_iff {room : Nat} {chain : List String} {key x : String} {t : Template} :
    (e.entering a room chain key t).Ends (.ok x) ↔
      ∃ less, room = less + 1 ∧ (e.expandWithin a less (chain ++ [key]) t).Ends (.ok x) := by
  cases room with
  | zero => simp [entering]
  | succ room => simp [entering]

/-! ## Candidate lists that words can pick from -/

theorem narrow_roll : roll.Narrow := ⟨by decide, fun _ => trivial⟩

theorem narrow_choose {key : String} {candidates : List String}
    (h : candidates.length ≤ wordCount) : (e.choose key candidates).Narrow := by
  unfold choose
  split
  · trivial
  · exact Draw.narrow_element _ ((length_eligible_le candidates).trans h)

theorem narrow_substitute (narrow : a.IsNarrow)
    (enterNarrow : ∀ key t, (enter key t).Narrow) (key : String) :
    (e.substitute a enter key).Narrow := by
  unfold substitute
  cases h : a.candidates? key with
  | none => trivial
  | some candidates =>
      refine Draw.narrow_bind (narrow_choose (narrow key candidates h).le) fun c _ => ?_
      rw [replacement_eq]
      split
      · trivial
      · exact enterNarrow key _

theorem narrow_resolve (narrow : a.IsNarrow)
    (enterNarrow : ∀ key t, (enter key t).Narrow) (m : Marker) :
    (e.resolve a enter m).Narrow := by
  unfold resolve
  cases e.optional? m with
  | none => exact narrow_substitute narrow enterNarrow m.name
  | some o =>
      refine Draw.narrow_bind narrow_roll fun n _ => ?_
      split
      · trivial
      · exact narrow_substitute narrow enterNarrow o.key

theorem narrow_fill (narrow : a.IsNarrow)
    (enterNarrow : ∀ key t, (enter key t).Narrow) (segs : List Segment) :
    (e.fill a enter segs).Narrow := by
  induction segs with
  | nil => trivial
  | cons seg segs ih =>
      cases seg with
      | literal text => exact Draw.narrow_bind ih fun _ _ => trivial
      | marker m =>
          refine Draw.narrow_bind (narrow_resolve narrow enterNarrow m) fun _ _ => ?_
          exact Draw.narrow_bind ih fun _ _ => trivial

theorem narrow_expandWithin (narrow : a.IsNarrow) (room : Nat)
    (chain : List String) (t : Template) : (e.expandWithin a room chain t).Narrow := by
  induction room generalizing chain t with
  | zero =>
      rw [expandWithin_eq]
      exact narrow_fill narrow (fun key t => by trivial) t.segments
  | succ room ih => exact narrow_fill narrow (fun key => ih (chain ++ [key])) t.segments

end Expander

end Phrasebook
