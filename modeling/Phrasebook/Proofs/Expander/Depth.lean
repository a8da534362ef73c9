import Phrasebook.Proofs.Expander.InStep

/-! # A greater depth limit

More room for nested candidates changes nothing before the room runs out: an expansion with more
room keeps step with one that has less, and goes its own way only where that one fails for its depth
(`inStep_expandWithin`). So a run that does not meet the limit is the same under every greater one,
and a run that fails under the greater one has met the smaller one before.
-/

namespace Phrasebook

open Phrasebook.Random

/-- Candidates were nested too deeply. -/
def ExpandError.IsTooDeep (err : ExpandError) : Prop :=
  ∃ maxDepth chain, err = .maxDepthExceeded maxDepth chain

namespace Expander

/-- The same settings but for the depth. -/
def withMaxDepth (e : Expander) (maxDepth : Nat) : Expander := { e with maxDepth }

variable {e : Expander} {a : Assets} {deeper : Nat}

theorem depthLimit_le_withMaxDepth (h : e.maxDepth ≤ deeper) :
    e.depthLimit ≤ (e.withMaxDepth deeper).depthLimit :=
  Nat.le_min.mpr ⟨Nat.le_trans (Nat.min_le_left _ _) h, Nat.min_le_right _ _⟩

/-- The depth bears on nothing but the candidates that are entered. -/
theorem inStep_fill_withMaxDepth {alike : ExpandError → ExpandError → Prop}
    {cut : ExpandError → Prop} {enter enter' : String → Template → Draw ExpandError String}
    (e : Expander) (depth depth' : Nat) (segs : List Segment)
    (same : ∀ err, ¬ ExpandError.IsTooDeep err → alike err err)
    (h : ∀ key t, (enter key t).InStep alike cut (enter' key t)) :
    ((e.withMaxDepth depth).fill a enter segs).InStep alike cut
      ((e.withMaxDepth depth').fill a enter' segs) := by
  refine inStep_fill fun m _ => inStep_resolve rfl ?_
  refine inStep_substitute (same _ ?_) rfl (fun _ => same _ ?_) (fun _ _ => rfl)
    fun _ c _ _ _ => h _ (Template.parse c)
  · exact fun ⟨_, _, eq⟩ => nomatch eq
  · exact fun ⟨_, _, eq⟩ => nomatch eq

theorem inStep_expandWithin {room more : Nat} (h : room ≤ more) (chain : List String)
    (t : Template) :
    (e.expandWithin a room chain t).InStep Eq ExpandError.IsTooDeep
      ((e.withMaxDepth deeper).expandWithin a more chain t) := by
  induction room generalizing more chain t with
  | zero =>
      rw [expandWithin_eq, expandWithin_eq]
      exact inStep_fill_withMaxDepth e e.maxDepth deeper t.segments (fun _ _ => rfl)
        fun key t => .cut ⟨_, _, rfl⟩ _
  | succ room ih =>
      obtain ⟨more, rfl⟩ := Nat.exists_eq_add_one_of_ne_zero (by omega : more ≠ 0)
      exact inStep_fill_withMaxDepth e e.maxDepth deeper t.segments (fun _ _ => rfl)
        fun key => ih (by omega) (chain ++ [key])

/-- A run that is not stopped for its depth is the same under a greater limit. A run that is stopped
under the greater limit is stopped under the smaller one too, having taken no more words. -/
theorem run_expand_withMaxDepth (e : Expander) {deeper : Nat} (h : e.maxDepth ≤ deeper)
    (a : Assets) (phrase : String) (s : Words) :
    ((∀ err, ((e.expand a phrase).run s).1 = .error err → ¬ err.IsTooDeep) →
      ((e.withMaxDepth deeper).expand a phrase).run s = (e.expand a phrase).run s) ∧
    ∀ err, (((e.withMaxDepth deeper).expand a phrase).run s).1 = .error err → err.IsTooDeep →
      (∃ err', ((e.expand a phrase).run s).1 = .error err' ∧ err'.IsTooDeep) ∧
        ((e.expand a phrase).run s).2.taken ≤
          (((e.withMaxDepth deeper).expand a phrase).run s).2.taken := by
  have step : (e.expand a phrase).InStep Eq ExpandError.IsTooDeep
      ((e.withMaxDepth deeper).expand a phrase) :=
    inStep_expandWithin (depthLimit_le_withMaxDepth h) [] (Template.parse phrase)
  rcases step.run s with same | ⟨err, failed, deep, taken⟩
  · rw [same.eq]
    exact ⟨fun _ => rfl, fun err failed deep => ⟨⟨err, failed, deep⟩, Nat.le_refl _⟩⟩
  · exact ⟨fun none => absurd deep (none err failed),
      fun _ _ _ => ⟨⟨err, failed, deep⟩, taken⟩⟩

/-- Two placeholders that lead to each other, unless their second candidates are picked. -/
def winding : Assets := Assets.ofList [("a", ["<[b]>", "end"]), ("b", ["[a]", "b"])]

/-- The greatest word picks a second candidate, so there is no second nesting; with zeros alone the
nesting has no end. -/
theorem run_expand_withMaxDepth_winding :
    (((withMaxDepth ⟨1, false, none⟩ 18446744073709551615).expand winding "[a], [b]").run
          (.ofArray #[0, 4294967295, 4294967295]) =
        (expand ⟨1, false, none⟩ winding "[a], [b]").run
          (.ofArray #[0, 4294967295, 4294967295])) ∧
      ((∃ err, ((expand ⟨1, false, none⟩ winding "[a]").run default).1 = .error err ∧
          err.IsTooDeep) ∧
        ((expand ⟨1, false, none⟩ winding "[a]").run default).2.taken ≤
          (((withMaxDepth ⟨1, false, none⟩ 2).expand winding "[a]").run default).2.taken) := by
  constructor
  · refine (run_expand_withMaxDepth ⟨1, false, none⟩ (by decide) winding _ _).1 fun err failed => ?_
    have made : ((expand ⟨1, false, none⟩ winding "[a], [b]").run
        (.ofArray #[0, 4294967295, 4294967295])).1 = .ok "<b>, b" := by decide +kernel
    rw [made] at failed
    contradiction
  · have stopped : (((withMaxDepth ⟨1, false, none⟩ 2).expand winding "[a]").run default).1 =
        .error (.maxDepthExceeded 2 ["a", "b", "a"]) := by decide +kernel
    exact (run_expand_withMaxDepth ⟨1, false, none⟩ (by decide) winding _ _).2 _ stopped ⟨_, _, rfl⟩

end Expander

end Phrasebook
