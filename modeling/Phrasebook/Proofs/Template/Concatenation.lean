import Phrasebook.Proofs.Template.Segmentation

/-! # Texts put together

A text that is put in front of another one is read as before, if each of its stray brackets has a
line break behind it: then no `]` of the second text can close it. So the segments of both texts
stand one behind the other (`segments_append`), and only where a literal meets a literal at the seam
the two are one.
-/

namespace Phrasebook.Template

/-! ## Joining segments -/

/-- Puts a segment before others. A literal joins a literal that stands there. -/
def put : Segment → List Segment → List Segment
  | .literal text, .literal more :: segs => .literal (text ++ more) :: segs
  | seg, segs => seg :: segs

/-- The segments of two texts, those of the second behind those of the first. -/
def splice (segs segs' : List Segment) : List Segment := segs.foldr put segs'

@[simp]
theorem splice_nil (segs' : List Segment) : splice [] segs' = segs' := rfl

@[simp]
theorem splice_cons (seg : Segment) (segs segs' : List Segment) :
    splice (seg :: segs) segs' = put seg (splice segs segs') := rfl

/-! ## Brackets that a line break ends -/

theorem takeWhile_append_of_mem {cs : List Char} (h : '\n' ∈ cs) (more : List Char) :
    (cs ++ more).takeWhile (· ≠ '\n') = cs.takeWhile (· ≠ '\n') := by
  rw [List.takeWhile_append, if_neg]
  intro length
  have all : cs.takeWhile (· ≠ '\n') = cs := (List.takeWhile_prefix _).eq_of_length length
  rw [← all] at h
  simpa using List.mem_takeWhile_imp h

/-- Every bracket in `run` has a line break behind it, in `run` or in `rest`. -/
def IsClosedOff (run rest : List Char) : Prop :=
  ∀ xs ys, run = xs ++ '[' :: ys → '\n' ∈ ys ++ rest

/-- Text behind a line break does not reach the brackets before it. -/
theorem opensNone_append_right {run rest : List Char} (closedOff : IsClosedOff run rest)
    (h : OpensNone run rest) (more : List Char) : OpensNone run (rest ++ more) := by
  intro xs ys eq
  rw [StaysOpen, ← List.append_assoc, takeWhile_append_of_mem (closedOff xs ys eq)]
  exact h xs ys eq

theorem opensNone_append {run more rest : List Char} (h : OpensNone run (more ++ rest))
    (h' : OpensNone more rest) : OpensNone (run ++ more) rest := by
  induction run with
  | nil => exact h'
  | cons c run ih =>
      obtain ⟨first, later⟩ := opensNone_cons_iff.mp h
      rw [List.cons_append]
      refine opensNone_cons_iff.mpr ⟨?_, ih later⟩
      rwa [List.cons_append, List.append_assoc, ← List.cons_append]

/-- Every bracket in the literal text has a line break behind it in the whole text. -/
def IsSealed (t : Template) : Prop :=
  ∀ before run after, t.segments = before ++ .literal run :: after →
    IsClosedOff run.toList (Template.mk after).render.toList

theorem isSealed_cons {seg : Segment} {segs : List Segment} (h : IsSealed ⟨seg :: segs⟩) :
    IsSealed ⟨segs⟩ := by
  intro before run after eq
  exact h (seg :: before) run after (by rw [List.cons_append, ← eq])

/-- A line break at the end seals a text. -/
theorem isSealed_of_lineBreak (text : String) : (parse (text ++ "\n")).IsSealed := by
  intro before run after eq xs ys split
  have whole := (parse_isSegmentation (text ++ "\n")).render
  rw [eq, render_append, render_cons] at whole
  have chars : (Template.mk before).render.toList ++ xs ++
      '[' :: (ys ++ (Template.mk after).render.toList) = text.toList ++ ['\n'] := by
    have := congrArg String.toList whole
    simpa [Segment.render, split] using this
  -- The bracket is not the last character, so the line break is behind it.
  rcases List.eq_nil_or_concat (ys ++ (Template.mk after).render.toList) with
    nothing | ⟨vs, c, last⟩
  · rw [nothing] at chars
    simpa using (List.append_inj' chars rfl).2
  · rw [last, List.concat_eq_append, ← List.cons_append, ← List.append_assoc] at chars
    obtain rfl : c = '\n' := by simpa using (List.append_inj' chars rfl).2
    rw [last, List.concat_eq_append]
    exact List.mem_append_right vs List.mem_cons_self

/-! ## Reading texts that are put together -/

theorem isSegmentation_put_marker {m : Marker} {rest : String} {segs : List Segment}
    (close : ']' ∉ m.name.toList) (line : '\n' ∉ m.name.toList) (h : IsSegmentation rest segs) :
    IsSegmentation ((Segment.marker m).render ++ rest) (put (.marker m) segs) :=
  isSegmentation_cons_iff.mpr ⟨rest, rfl, h, close, line⟩

theorem isSegmentation_put_literal {run rest : String} {segs : List Segment} (ne : run ≠ "")
    (quiet : OpensNone run.toList rest.toList) (h : IsSegmentation rest segs) :
    IsSegmentation (run ++ rest) (put (.literal run) segs) := by
  cases segs with
  | nil => exact isSegmentation_cons_iff.mpr ⟨rest, rfl, h, ne, by simp, quiet⟩
  | cons seg segs =>
      cases seg with
      | marker m =>
          exact isSegmentation_cons_iff.mpr ⟨rest, rfl, h, ne, by simp [Segment.marker?], quiet⟩
      | literal more =>
          obtain ⟨behind, rfl, others, -, next, quiet'⟩ := isSegmentation_cons_iff.mp h
          have ne' : run ++ more ≠ "" := by
            intro empty
            exact ne (String.append_eq_empty_iff.mp empty).1
          refine isSegmentation_cons_iff.mpr ⟨behind, ?_, others, ne', next, ?_⟩
          · rw [Segment.render, Segment.render, String.append_assoc]
          · rw [String.toList_append]
            refine opensNone_append ?_ quiet'
            simpa [Segment.render] using quiet

theorem isSegmentation_splice {first second : String} {segs segs' : List Segment}
    (h : IsSegmentation first segs) (closed : IsSealed ⟨segs⟩) (h' : IsSegmentation second segs') :
    IsSegmentation (first ++ second) (splice segs segs') := by
  induction segs generalizing first with
  | nil =>
      obtain rfl := isSegmentation_nil_iff.mp h
      rwa [String.empty_append]
  | cons seg segs ih =>
      obtain ⟨rest, rfl, others, fits⟩ := isSegmentation_cons_iff.mp h
      have joined : IsSegmentation (rest ++ second) (splice segs segs') :=
        ih others (isSealed_cons closed)
      rw [splice_cons, String.append_assoc]
      cases seg with
      | marker m => exact isSegmentation_put_marker fits.1 fits.2 joined
      | literal run =>
          have closedOff := closed [] run segs rfl
          rw [others.render] at closedOff
          refine isSegmentation_put_literal fits.1 ?_ joined
          rw [String.toList_append]
          exact opensNone_append_right closedOff fits.2.2 second.toList

theorem segments_append {first : String} (closed : (parse first).IsSealed) (second : String) :
    (parse (first ++ second)).segments = splice (parse first).segments (parse second).segments :=
  segments_eq_of_isSegmentation
    (isSegmentation_splice (parse_isSegmentation first) closed (parse_isSegmentation second))

end Phrasebook.Template
