import Phrasebook.Proofs.Template.Segmentation

/-! # Brackets and markers

A text has a marker just if some `[` of it has a `]` behind it on the same line
(`markers_ne_nil_iff`). Two brackets alone are not enough for that: the closing one may come first,
or on another line.
-/

namespace Phrasebook.Template

/-- Whether a text has markers. -/
def holdsMarkers (text : String) : Bool := !(parse text).isLiteral

/-- Some `[` has a `]` behind it before its line ends. -/
def ClosesBracket (text : String) : Prop :=
  ∃ xs ys, text.toList = xs ++ '[' :: ys ∧ ¬ StaysOpen ys

theorem holdsMarkers_iff {text : String} :
    holdsMarkers text = true ↔ (parse text).markers ≠ [] := by
  rw [holdsMarkers, Bool.not_eq_true', ← Bool.not_eq_true, isLiteral_iff]

/-- Behind its `[` a marker closes on the same line. -/
theorem not_staysOpen_of_name {name rest : List Char} (line : '\n' ∉ name) :
    ¬ StaysOpen (name ++ ']' :: rest) := by
  intro opens
  apply opens
  have all : ∀ c ∈ name, decide (c ≠ '\n') = true := by
    intro c hc
    rw [decide_eq_true_iff]
    rintro rfl
    exact line hc
  rw [List.takeWhile_append_of_pos all, List.takeWhile_cons_of_pos (by decide)]
  exact List.mem_append_right name List.mem_cons_self

/-- Without markers a text is a single literal, if anything. -/
theorem segments_of_markers_eq_nil {text : String} (h : (parse text).markers = []) :
    (parse text).segments = [] ∨ (parse text).segments = [.literal text] := by
  have segmentation := parse_isSegmentation text
  have literal : ∀ seg ∈ (parse text).segments, seg.marker? = none := List.filterMap_eq_nil_iff.mp h
  cases hs : (parse text).segments with
  | nil => exact Or.inl rfl
  | cons seg segs =>
      rw [hs] at segmentation literal
      obtain ⟨rest, eq, others, fits⟩ := isSegmentation_cons_iff.mp segmentation
      cases seg with
      | marker m => exact absurd (literal _ List.mem_cons_self) (Option.some_ne_none m)
      | literal run =>
          cases segs with
          | nil =>
              obtain rfl := isSegmentation_nil_iff.mp others
              rw [eq, String.append_empty]
              exact Or.inr rfl
          | cons next segs =>
              have none_next := literal next (List.mem_cons_of_mem _ List.mem_cons_self)
              exact absurd none_next (fits.2.1 next rfl)

theorem markers_ne_nil_iff {text : String} : (parse text).markers ≠ [] ↔ ClosesBracket text := by
  have segmentation := parse_isSegmentation text
  constructor
  · intro h
    obtain ⟨m, hm⟩ := List.exists_mem_of_ne_nil _ h
    have mem : Segment.marker m ∈ (parse text).segments := mem_markers_iff.mp hm
    obtain ⟨before, after, eq⟩ := List.append_of_mem mem
    have whole := segmentation.render
    rw [eq, render_append, render_cons] at whole
    refine ⟨(Template.mk before).render.toList,
      m.name.toList ++ ']' :: (Template.mk after).render.toList, ?_, ?_⟩
    · rw [← whole]
      simp [Segment.render]
    · exact not_staysOpen_of_name (segmentation.name_closes m mem).2
  · rintro ⟨xs, ys, eq, closes⟩ none
    apply closes
    rcases segments_of_markers_eq_nil none with empty | literal
    · rw [empty, isSegmentation_nil_iff] at segmentation
      rw [segmentation] at eq
      simp at eq
    · have quiet := segmentation.bracket_open [] text [] (by rw [literal, List.nil_append])
      simpa using quiet xs ys eq

end Phrasebook.Template
