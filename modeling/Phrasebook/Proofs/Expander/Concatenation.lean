import Phrasebook.Proofs.Expander.Outcomes
import Phrasebook.Proofs.Random.Runs
import Phrasebook.Proofs.Template.Concatenation

/-! # Phrases put together

A phrase that is put in front of another one is expanded first, and then the other one with the
words that are left over, as if each stood alone (`expand_append`): no marker learns of the markers
beside it, and nothing is read across the seam if the first phrase is sealed. This is an equation of
draws, so it holds of the text, of the failure and of the words alike.
-/

namespace Phrasebook.Expander

open Phrasebook.Random Phrasebook.Template

variable {e : Expander} {a : Assets} {enter : String → Template → Draw ExpandError String}

/-- Literals that are joined are filled as if they stood side by side. -/
theorem fill_put (seg : Segment) (segs : List Segment) :
    e.fill a enter (put seg segs) = e.fill a enter (seg :: segs) := by
  cases seg with
  | marker m => rfl
  | literal text =>
      cases segs with
      | nil => rfl
      | cons next segs =>
          cases next with
          | marker m => rfl
          | literal more =>
              rw [put, fill, fill, fill, bind_assoc]
              simp only [pure_bind, String.append_assoc]

/-- The segments of two texts are filled one after the other. -/
theorem fill_splice (segs segs' : List Segment) :
    e.fill a enter (splice segs segs') = do
      let head ← e.fill a enter segs
      let tail ← e.fill a enter segs'
      return head ++ tail := by
  induction segs with
  | nil =>
      show e.fill a enter segs' = e.fill a enter segs' >>= fun tail => pure ("" ++ tail)
      simp only [String.empty_append, bind_pure]
  | cons seg segs ih =>
      rw [splice_cons, fill_put]
      cases seg with
      | literal text =>
          rw [fill, fill, ih]
          simp only [bind_assoc, pure_bind, String.append_assoc]
      | marker m =>
          rw [fill, fill, ih]
          simp only [bind_assoc, pure_bind, String.append_assoc]

theorem expand_append {first : String} (closed : (parse first).IsSealed) (second : String) :
    e.expand a (first ++ second) = do
      let head ← e.expand a first
      let tail ← e.expand a second
      return head ++ tail := by
  rw [expand, expand, expand, expandWithin_eq, expandWithin_eq, expandWithin_eq,
    segments_append closed, fill_splice]

/-- A sealed phrase in front of another one fails as it does alone. Otherwise the other one is
expanded with the words left over, and its text stands behind that of the first, or its failure is
that of both; the words left over in the end are those that it leaves. A line break at the end seals
a phrase. -/
theorem run_expand_append (e : Expander) (a : Assets) :
    (∀ text : String, (parse (text ++ "\n")).IsSealed) ∧
    ∀ first : String, (parse first).IsSealed → ∀ (second : String) (s : Words),
      (∀ err rest, (e.expand a first).run s = (.error err, rest) →
        (e.expand a (first ++ second)).run s = (.error err, rest)) ∧
      ∀ head between, (e.expand a first).run s = (.ok head, between) →
        (∀ tail rest, (e.expand a second).run between = (.ok tail, rest) →
          (e.expand a (first ++ second)).run s = (.ok (head ++ tail), rest)) ∧
        ∀ err rest, (e.expand a second).run between = (.error err, rest) →
          (e.expand a (first ++ second)).run s = (.error err, rest) := by
  refine ⟨isSealed_of_lineBreak, ?_⟩
  intro first closed second s
  rw [expand_append closed]
  constructor
  · intro err rest failed
    exact Draw.run_bind_error_iff.mpr (Or.inl failed)
  · intro head between made
    constructor
    · intro tail rest made'
      refine Draw.run_bind_ok_iff.mpr ⟨head, between, made, ?_⟩
      exact Draw.run_bind_ok_iff.mpr ⟨tail, rest, made', rfl⟩
    · intro err rest failed
      refine Draw.run_bind_error_iff.mpr (Or.inr ⟨head, between, made, ?_⟩)
      exact Draw.run_bind_error_iff.mpr (Or.inl failed)

/-- Two guests by name, and nobody. -/
def guests : Assets := Assets.ofList [("guest", ["Ann", "Bo"]), ("nobody", [])]

/-- The bracket at the end of the first line is not closed on the second one. A failure of the
second phrase comes behind the words of the first. -/
theorem run_expand_append_lines :
    (parse ("[guest] [" ++ "\n")).IsSealed ∧
      ((expand {} guests ("[guest] [\n" ++ "guest] [guest]")).run
        (.ofArray #[0, 4294967295])).1 = .ok "Ann [\nguest] Bo" ∧
      ((expand {} guests ("[guest] [\n" ++ "[guest] [nobody]")).run
        (.ofArray #[0, 4294967295])).1 = .error (.emptyChoice "nobody") ∧
      ((expand {} guests ("[guest] [\n" ++ "[guest] [nobody]")).run
        (.ofArray #[0, 4294967295])).2.taken = 2 := by
  have closed := (run_expand_append {} guests).1 "[guest] ["
  obtain ⟨between, first, second, failed⟩ : ∃ between,
      (expand {} guests "[guest] [\n").run (.ofArray #[0, 4294967295]) =
        (.ok "Ann [\n", between) ∧
      ((expand {} guests "guest] [guest]").run between).1 = .ok "guest] Bo" ∧
      ((expand {} guests "[guest] [nobody]").run between).1 = .error (.emptyChoice "nobody") :=
    ⟨_, Prod.ext (by decide +kernel) rfl, by decide +kernel, by decide +kernel⟩
  have made := ((run_expand_append {} guests).2 _ closed "guest] [guest]" _).2 _ _ first
  have stopped := ((run_expand_append {} guests).2 _ closed "[guest] [nobody]" _).2 _ _ first
  refine ⟨closed, ?_, ?_, by decide +kernel⟩
  · exact congrArg Prod.fst (made.1 _ _ (Prod.ext second rfl))
  · exact congrArg Prod.fst (stopped.2 _ _ (Prod.ext failed rfl))

end Phrasebook.Expander
