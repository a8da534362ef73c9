import Phrasebook.Proofs.Expander.Depth
import Phrasebook.Proofs.Random.Runs

/-! # A nested candidate by itself

A candidate that is entered is expanded as it would be by itself, with one less to nest. Seen from
outside only a failure for its depth is another one: it tells of the limit outside, and its chain
begins with the placeholder through which the candidate was entered. The invariant of the recursion
is that the two expansions have the same room left and that the chain of the one is that of the
other behind this placeholder (`inStep_expandWithin_behind`).
-/

namespace Phrasebook

open Phrasebook.Random

/-- A failure inside a candidate of `k` and the same failure seen from outside, where candidates may
be nested one deeper. -/
inductive ExpandError.SeenOutside (limit : Nat) (k : String) :
    ExpandError → ExpandError → Prop where
  | same {err : ExpandError} (h : ¬ err.IsTooDeep) : SeenOutside limit k err err
  | tooDeep (chain : List String) :
      SeenOutside limit k (.maxDepthExceeded limit chain)
        (.maxDepthExceeded (limit + 1) (k :: chain))

/-- A name without a closing bracket and a line break is read as a marker between brackets. -/
theorem Template.segments_marker {k : String} (close : ']' ∉ k.toList) (line : '\n' ∉ k.toList) :
    (parse ("[" ++ k ++ "]")).segments = [.marker ⟨k⟩] := by
  refine segments_eq_of_isSegmentation (isSegmentation_cons_iff.mpr ⟨"", ?_, ?_, close, line⟩)
  · rw [String.append_empty, Segment.render]
  · exact isSegmentation_nil_iff.mpr rfl

namespace Expander

variable {e : Expander} {a : Assets} {limit : Nat} {k : String}

theorem depthLimit_withMaxDepth (h : e.depthLimit = limit + 1) :
    (e.withMaxDepth limit).depthLimit = limit := by
  have bound : e.depthLimit ≤ greatestDepth := Nat.min_le_right _ _
  have small : limit ≤ greatestDepth := by omega
  exact Nat.min_eq_left small

/-- Behind a placeholder a template is expanded as without it, under a limit that is smaller by one.
-/
theorem inStep_expandWithin_behind (h : e.depthLimit = limit + 1) (room : Nat)
    (chain : List String) (t : Template) :
    ((e.withMaxDepth limit).expandWithin a room chain t).InStep
      (ExpandError.SeenOutside limit k) (fun _ => False)
      (e.expandWithin a room (k :: chain) t) := by
  induction room generalizing chain t with
  | zero =>
      rw [expandWithin_eq, expandWithin_eq]
      refine inStep_fill_withMaxDepth e limit e.maxDepth t.segments (fun _ => .same) fun key t => ?_
      rw [entering, entering, depthLimit_withMaxDepth h, h]
      exact .fail (.tooDeep (chain ++ [key]))
  | succ room ih =>
      exact inStep_fill_withMaxDepth e limit e.maxDepth t.segments (fun _ => .same)
        fun key => ih (chain ++ [key])

theorem fill_marker {enter : String → Template → Draw ExpandError String} (m : Marker) :
    e.fill a enter [.marker m] = e.resolve a enter m := by
  rw [fill]
  show (e.resolve a enter m >>= fun head => pure (head ++ "")) = _
  simp only [String.append_empty, bind_pure]

/-- What a marker by itself comes to, once a candidate with markers is picked for it. -/
theorem run_expand_marker {candidates : List String} {c : String} {s between : Words}
    (h : e.depthLimit = limit + 1) (close : ']' ∉ k.toList) (line : '\n' ∉ k.toList)
    (plain : e.optional? ⟨k⟩ = none) (known : a.candidates? k = some candidates)
    (picked : (e.choose k candidates).run s = (.ok c, between))
    (markers : (Template.parse c).markers ≠ []) :
    (e.expand a ("[" ++ k ++ "]")).run s =
      (e.expandWithin a limit [k] (Template.parse c)).run between := by
  rw [expand, expandWithin_eq, Template.segments_marker close line, fill_marker, resolve, plain, h]
  simp only [substitute, known]
  rw [Draw.run_bind, picked]
  simp only [replacement_of_markers markers]
  rfl

/-- If a candidate with markers is picked for a marker, the expansion is that of the candidate with
the words left over and one less to nest, the failures for the depth apart: these tell of the limit
and of the placeholder. -/
theorem run_expand_picked (e : Expander) (a : Assets) {k c : String} {candidates : List String}
    {s between : Words} (room : 1 ≤ e.depthLimit) (close : ']' ∉ k.toList)
    (line : '\n' ∉ k.toList) (plain : e.optional? ⟨k⟩ = none)
    (known : a.candidates? k = some candidates)
    (picked : (e.choose k candidates).run s = (.ok c, between))
    (markers : (Template.parse c).markers ≠ []) :
    let inner := e.withMaxDepth (e.depthLimit - 1)
    inner.depthLimit = e.depthLimit - 1 ∧
    (∀ o rest, (inner.expand a c).run between = (.ok o, rest) →
      (e.expand a ("[" ++ k ++ "]")).run s = (.ok o, rest)) ∧
    (∀ err rest, ¬ err.IsTooDeep → (inner.expand a c).run between = (.error err, rest) →
      (e.expand a ("[" ++ k ++ "]")).run s = (.error err, rest)) ∧
    ∀ limit chain rest,
      (inner.expand a c).run between = (.error (.maxDepthExceeded limit chain), rest) →
        limit = e.depthLimit - 1 ∧ (e.expand a ("[" ++ k ++ "]")).run s =
          (.error (.maxDepthExceeded e.depthLimit (k :: chain)), rest) := by
  intro inner
  have h : e.depthLimit = (e.depthLimit - 1) + 1 := by omega
  have depth : inner.depthLimit = e.depthLimit - 1 := depthLimit_withMaxDepth h
  have outside := run_expand_marker h close line plain known picked markers
  have step := (inStep_expandWithin_behind (a := a) (k := k) h (e.depthLimit - 1) []
    (Template.parse c)).sameOutcome between
  rw [← outside] at step
  have alone : (inner.expand a c).run between =
      (inner.expandWithin a (e.depthLimit - 1) [] (Template.parse c)).run between := by
    rw [expand, depth]
  rw [← alone] at step
  refine ⟨depth, ?_, ?_, ?_⟩
  · intro o rest made
    rw [made] at step
    exact Draw.sameOutcome_ok_iff.mp step
  · intro err rest shallow failed
    rw [failed] at step
    obtain ⟨err', seen, eq⟩ := Draw.sameOutcome_error_iff.mp step
    cases seen with
    | same => exact eq
    | tooDeep chain => exact absurd ⟨_, _, rfl⟩ shallow
  · intro limit chain rest failed
    rw [failed] at step
    obtain ⟨err', seen, eq⟩ := Draw.sameOutcome_error_iff.mp step
    cases seen with
    | same shallow => exact absurd ⟨_, _, rfl⟩ shallow
    | tooDeep =>
        rw [← h] at eq
        exact ⟨rfl, eq⟩

/-- By itself the candidate fails one deeper than its limit, and so does the marker, from one
further out. With other words both are done at once. -/
theorem run_expand_picked_winding :
    ((withMaxDepth ⟨2, false, none⟩ 1).expand winding "<[b]>" |>.run
        (Words.afterPick default 2)).1 = .error (.maxDepthExceeded 1 ["b", "a"]) ∧
      ((expand ⟨2, false, none⟩ winding "[a]").run default).1 =
        .error (.maxDepthExceeded 2 ["a", "b", "a"]) ∧
      ((expand ⟨2, false, none⟩ winding "[a]").run (.ofArray #[0, 4294967295])).1 = .ok "<b>" := by
  have markers : (Template.parse "<[b]>").markers ≠ [] := by decide +kernel
  have known : winding.candidates? "a" = some ["<[b]>", "end"] := by decide +kernel
  have plain : optional? ⟨2, false, none⟩ ⟨"a"⟩ = none := rfl
  have from_zeros : (choose ⟨2, false, none⟩ "a" ["<[b]>", "end"]).run default =
      (.ok "<[b]>", Words.afterPick default 2) := rfl
  have from_words : (choose ⟨2, false, none⟩ "a" ["<[b]>", "end"]).run
      (.ofArray #[0, 4294967295]) = (.ok "<[b]>", Words.afterPick (.ofArray #[0, 4294967295]) 2) :=
    rfl
  have too_deep : ((withMaxDepth ⟨2, false, none⟩ 1).expand winding "<[b]>" |>.run
      (Words.afterPick default 2)).1 = .error (.maxDepthExceeded 1 ["b", "a"]) := by
    decide +kernel
  have done : ((withMaxDepth ⟨2, false, none⟩ 1).expand winding "<[b]>" |>.run
      (Words.afterPick (.ofArray #[0, 4294967295]) 2)).1 = .ok "<b>" := by decide +kernel
  obtain ⟨-, -, -, deeper⟩ := run_expand_picked ⟨2, false, none⟩ winding (by decide) (by decide)
    (by decide) plain known from_zeros markers
  obtain ⟨-, made, -⟩ := run_expand_picked ⟨2, false, none⟩ winding (by decide) (by decide)
    (by decide) plain known from_words markers
  refine ⟨too_deep, ?_, ?_⟩
  · exact congrArg Prod.fst (deeper _ _ _ (Prod.ext too_deep rfl)).2
  · exact congrArg Prod.fst (made _ _ (Prod.ext done rfl))

end Expander

end Phrasebook
