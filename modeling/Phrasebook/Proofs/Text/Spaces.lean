import Mathlib.Data.List.Chain
import Phrasebook.Text.Spaces

/-! # Runs of spaces and the text between them

The spaces of a text divide it into pieces. `squeeze` keeps the pieces and leaves one space between
two of them, and one at an end where there was any; and this is all there is to know of its result,
since a text without two spaces in a row is put together from its pieces in one way only
(`eq_of_isTidy`).

For a text in two parts it matters whether the first one ends with a space (`squeeze_append`), and
that is what its squeezed form still tells (`endsBlank_squeeze`).
-/

namespace Phrasebook.Text

/-- The longest parts of a text that hold no space, in order. -/
def pieces (cs : List Char) : List (List Char) := (cs.splitOn ' ').filter (· ≠ [])

/-- No two spaces stand side by side. -/
def IsTidy (cs : List Char) : Prop := cs.IsChain fun c d => ¬ (c = ' ' ∧ d = ' ')

/-- One text is the other with a single space in the place of each run of spaces. -/
structure CollapsesTo (text collapsed : String) : Prop where
  tidy : IsTidy collapsed.toList
  pieces : pieces collapsed.toList = pieces text.toList
  start : collapsed.toList.head? = some ' ' ↔ text.toList.head? = some ' '
  finish : collapsed.toList.getLast? = some ' ' ↔ text.toList.getLast? = some ' '

variable {c d : Char} {cs ds : List Char} {p q : Bool}

/-! ## Pieces -/

theorem splitOn_space (cs : List Char) : (' ' :: cs).splitOn ' ' = [] :: cs.splitOn ' ' := by
  rw [List.splitOn_eq_splitOnP, List.splitOnP_cons_eq_if_modifyHead, List.splitOn_eq_splitOnP]
  rfl

theorem splitOn_other (h : c ≠ ' ') (cs : List Char) :
    (c :: cs).splitOn ' ' = (cs.splitOn ' ').modifyHead (c :: ·) := by
  rw [List.splitOn_eq_splitOnP, List.splitOnP_cons_eq_if_modifyHead, List.splitOn_eq_splitOnP,
    if_neg (by simpa using h)]

theorem exists_splitOn_eq (cs : List Char) : ∃ first others, cs.splitOn ' ' = first :: others := by
  rw [List.splitOn_eq_splitOnP]
  exact List.exists_cons_of_ne_nil (List.splitOnP_ne_nil _ cs)

@[simp]
theorem pieces_space (cs : List Char) : pieces (' ' :: cs) = pieces cs := by
  rw [pieces, pieces, splitOn_space, List.filter_cons_of_neg (by simp)]

theorem pieces_singleton (h : c ≠ ' ') : pieces [c] = [[c]] := by
  rw [pieces, splitOn_other h]
  rfl

theorem pieces_other_space (h : c ≠ ' ') (cs : List Char) :
    pieces (c :: ' ' :: cs) = [c] :: pieces cs := by
  rw [pieces, pieces, splitOn_other h, splitOn_space, List.modifyHead_cons,
    List.filter_cons_of_pos (by simp)]

theorem pieces_other_other (hc : c ≠ ' ') (hd : d ≠ ' ') (cs : List Char) :
    ∃ first others, pieces (d :: cs) = first :: others ∧
      pieces (c :: d :: cs) = (c :: first) :: others := by
  obtain ⟨first, others, split⟩ := exists_splitOn_eq cs
  refine ⟨d :: first, others.filter (· ≠ []), ?_, ?_⟩
  · rw [pieces, splitOn_other hd, split, List.modifyHead_cons, List.filter_cons_of_pos (by simp)]
  · rw [pieces, splitOn_other hc, splitOn_other hd, split, List.modifyHead_cons,
      List.modifyHead_cons, List.filter_cons_of_pos (by simp)]

/-- In front of another character the pieces are known from the pieces behind it, once it is known
whether it goes on there. -/
theorem pieces_cons_congr (h : c ≠ ' ') (start : ds.head? = cs.head?)
    (same : pieces ds = pieces cs) : pieces (c :: ds) = pieces (c :: cs) := by
  cases cs with
  | nil => rw [List.head?_eq_none_iff.mp start]
  | cons d cs =>
      obtain ⟨ds, rfl⟩ : ∃ more, ds = d :: more := List.head?_eq_some_iff.mp start
      by_cases space : d = ' '
      · subst space
        rw [pieces_other_space h, pieces_other_space h, ← pieces_space ds, same, pieces_space]
      · obtain ⟨first, others, eq, joined⟩ := pieces_other_other h space cs
        obtain ⟨first', others', eq', joined'⟩ := pieces_other_other h space ds
        obtain ⟨rfl, rfl⟩ : first' = first ∧ others' = others := by
          rw [eq, eq'] at same
          exact List.cons.inj same
        rw [joined, joined']

/-! ## Tidy texts -/

/-- The empty part of a text before a space at its start, or behind one at its end. -/
def edge (c? : Option Char) : List (List Char) := if c? = some ' ' then [[]] else []

/-- A tidy text has nothing between its spaces but its pieces. -/
theorem splitOn_of_isTidy (tidy : IsTidy cs) (ne : cs ≠ []) :
    cs.splitOn ' ' = edge cs.head? ++ pieces cs ++ edge cs.getLast? := by
  induction cs with
  | nil => contradiction
  | cons c cs ih =>
      cases cs with
      | nil =>
          by_cases space : c = ' '
          · subst space
            rfl
          · rw [pieces_singleton space, splitOn_other space]
            simp [edge, space]
      | cons d cs =>
          obtain ⟨apart, tidy⟩ := List.isChain_cons_cons.mp tidy
          have rest := ih tidy (List.cons_ne_nil d cs)
          rw [List.getLast?_cons_cons]
          by_cases space : c = ' '
          · -- The next character is no space, so there is no edge before it.
            have other : d ≠ ' ' := fun next => apart ⟨space, next⟩
            subst space
            rw [splitOn_space, pieces_space, rest]
            simp [edge, other]
          · by_cases next : d = ' '
            · subst next
              rw [splitOn_space] at rest
              have behind : cs.splitOn ' ' = pieces cs ++ edge (' ' :: cs).getLast? := by
                simpa [edge] using rest
              rw [splitOn_other space, splitOn_space, pieces_other_space space, behind]
              simp [edge, space]
            · obtain ⟨first, others, eq, joined⟩ := pieces_other_other space next cs
              rw [splitOn_other space, rest, joined, eq]
              simp [edge, space, next]

theorem eq_nil_of_pieces_eq_nil (none : pieces cs = []) (start : cs.head? ≠ some ' ') :
    cs = [] := by
  cases cs with
  | nil => rfl
  | cons c cs =>
      have other : c ≠ ' ' := fun space => start (by rw [space, List.head?_cons])
      obtain ⟨first, others, split⟩ := exists_splitOn_eq cs
      rw [pieces, splitOn_other other, split, List.modifyHead_cons,
        List.filter_cons_of_pos (by simp)] at none
      contradiction

/-- A tidy text is known by its pieces and by the spaces at its ends. -/
theorem eq_of_isTidy (tidy : IsTidy cs) (tidy' : IsTidy ds) (same : pieces ds = pieces cs)
    (start : ds.head? = some ' ' ↔ cs.head? = some ' ')
    (finish : ds.getLast? = some ' ' ↔ cs.getLast? = some ' ') : ds = cs := by
  by_cases empty : cs = []
  · subst empty
    exact eq_nil_of_pieces_eq_nil same fun space => nomatch start.mp space
  · have empty' : ds ≠ [] := by
      rintro rfl
      exact empty (eq_nil_of_pieces_eq_nil same.symm fun space => nomatch start.mpr space)
    have split : ds.splitOn ' ' = cs.splitOn ' ' := by
      rw [splitOn_of_isTidy tidy empty, splitOn_of_isTidy tidy' empty', same]
      simp only [edge, start, finish]
    have joined (cs : List Char) : [' '].intercalate (cs.splitOn ' ') = cs :=
      List.intercalate_splitOn ' '
    rw [← joined ds, split, joined]

/-! ## Squeezing -/

theorem squeeze_space_true (cs : List Char) : squeeze true (' ' :: cs) = squeeze true cs := rfl

theorem squeeze_space_false (cs : List Char) :
    squeeze false (' ' :: cs) = ' ' :: squeeze true cs := rfl

theorem squeeze_other (h : c ≠ ' ') (cs : List Char) :
    squeeze p (c :: cs) = c :: squeeze false cs := by
  rw [squeeze, if_neg h]

theorem head?_squeeze_false (cs : List Char) : (squeeze false cs).head? = cs.head? := by
  cases cs with
  | nil => rfl
  | cons c cs =>
      by_cases space : c = ' '
      · rw [space, squeeze_space_false, List.head?_cons, List.head?_cons]
      · rw [squeeze_other space, List.head?_cons, List.head?_cons]

theorem head?_squeeze_true (cs : List Char) : (squeeze true cs).head? ≠ some ' ' := by
  induction cs with
  | nil => exact nofun
  | cons c cs ih =>
      by_cases space : c = ' '
      · rw [space, squeeze_space_true]
        exact ih
      · rw [squeeze_other space, List.head?_cons]
        exact fun eq => space (Option.some.inj eq)

theorem isTidy_squeeze (p : Bool) (cs : List Char) : IsTidy (squeeze p cs) := by
  induction cs generalizing p with
  | nil => exact .nil
  | cons c cs ih =>
      by_cases space : c = ' '
      · subst space
        cases p with
        | true => exact ih true
        | false =>
            refine List.isChain_cons.mpr ⟨fun d hd both => ?_, ih true⟩
            exact head?_squeeze_true cs (both.2 ▸ hd)
      · rw [squeeze_other space]
        exact List.isChain_cons.mpr ⟨fun d _ both => space both.1, ih false⟩

theorem pieces_squeeze (p : Bool) (cs : List Char) : pieces (squeeze p cs) = pieces cs := by
  induction cs generalizing p with
  | nil => rfl
  | cons c cs ih =>
      by_cases space : c = ' '
      · subst space
        cases p with
        | true => rw [squeeze_space_true, ih, pieces_space]
        | false => rw [squeeze_space_false, pieces_space, ih, pieces_space]
      · rw [squeeze_other space]
        exact pieces_cons_congr space (head?_squeeze_false cs) (ih false)

/-- Whether a space stands at the end of a text, or just before it if it is empty. -/
def endsBlank (p : Bool) (cs : List Char) : Bool := (cs.getLast?.map (· == ' ')).getD p

theorem endsBlank_cons (p : Bool) (c : Char) (cs : List Char) :
    endsBlank p (c :: cs) = endsBlank (c == ' ') cs := by
  rw [endsBlank, endsBlank, List.getLast?_cons]
  cases cs.getLast? with
  | none => rfl
  | some last => rfl

theorem endsBlank_false_iff : endsBlank false cs = true ↔ cs.getLast? = some ' ' := by
  rw [endsBlank]
  cases cs.getLast? with
  | none => simp
  | some last => simp

theorem endsBlank_squeeze (p : Bool) (cs : List Char) :
    endsBlank p (squeeze p cs) = endsBlank p cs := by
  induction cs generalizing p with
  | nil => rfl
  | cons c cs ih =>
      by_cases space : c = ' '
      · subst space
        cases p with
        | true =>
            rw [squeeze_space_true, ih, endsBlank_cons]
            rfl
        | false =>
            rw [squeeze_space_false, endsBlank_cons, endsBlank_cons]
            exact ih true
      · have other : (c == ' ') = false := by simpa using space
        rw [squeeze_other space, endsBlank_cons, endsBlank_cons, other, ih]

/-- The second part of a text is squeezed in sight of the first one. -/
theorem squeeze_append (p : Bool) (cs ds : List Char) :
    squeeze p (cs ++ ds) = squeeze p cs ++ squeeze (endsBlank p cs) ds := by
  induction cs generalizing p with
  | nil => rfl
  | cons c cs ih =>
      rw [List.cons_append, endsBlank_cons]
      by_cases space : c = ' '
      · subst space
        cases p with
        | true => exact ih true
        | false =>
            rw [squeeze_space_false, squeeze_space_false, ih]
            rfl
      · have other : (c == ' ') = false := by simpa using space
        rw [squeeze_other space, squeeze_other space, ih, other, List.cons_append]

/-- To squeeze beforehand changes nothing, unless a space is dropped that would be kept. -/
theorem squeeze_squeeze (h : q = true → p = true) (cs : List Char) :
    squeeze p (squeeze q cs) = squeeze p cs := by
  induction cs generalizing p q with
  | nil => rfl
  | cons c cs ih =>
      by_cases space : c = ' '
      · subst space
        cases q with
        | true =>
            obtain rfl := h rfl
            exact ih id
        | false =>
            -- The space is kept, so from there on both ways of squeezing stand behind a space.
            rw [squeeze_space_false]
            cases p with
            | true => exact ih id
            | false => rw [squeeze_space_false, squeeze_space_false, ih id]
      · rw [squeeze_other space, squeeze_other space, squeeze_other space, ih id]

/-! ## Collapsed texts -/

theorem toList_collapseSpaces (text : String) :
    (collapseSpaces text).toList = squeeze false text.toList := String.toList_ofList

theorem collapsesTo_collapseSpaces (text : String) : CollapsesTo text (collapseSpaces text) where
  tidy := by
    rw [toList_collapseSpaces]
    exact isTidy_squeeze false _
  pieces := by rw [toList_collapseSpaces, pieces_squeeze]
  start := by rw [toList_collapseSpaces, head?_squeeze_false]
  finish := by
    rw [toList_collapseSpaces, ← endsBlank_false_iff, ← endsBlank_false_iff, endsBlank_squeeze]

/-- There is no other text of this kind. -/
theorem collapsesTo_iff {text collapsed : String} :
    CollapsesTo text collapsed ↔ collapsed = collapseSpaces text := by
  constructor
  · intro h
    have this := collapsesTo_collapseSpaces text
    rw [← String.toList_inj]
    exact eq_of_isTidy this.tidy h.tidy (h.pieces.trans this.pieces.symm)
      (h.start.trans this.start.symm) (h.finish.trans this.finish.symm)
  · rintro rfl
    exact collapsesTo_collapseSpaces text

/-- Tabs and line breaks belong to the pieces. -/
example : collapseSpaces "  a \t  b\n  " = " a \t b\n " := by decide +kernel

theorem collapseSpaces_append (first second : String) :
    collapseSpaces (first ++ second) =
      collapseSpaces (collapseSpaces first ++ collapseSpaces second) := by
  have again (p : Bool) (cs : List Char) : squeeze p (squeeze false cs) = squeeze p cs := by
    apply squeeze_squeeze
    simp
  rw [← String.toList_inj]
  simp only [toList_collapseSpaces, String.toList_append]
  rw [squeeze_append, squeeze_append, endsBlank_squeeze, again, again]

theorem collapseSpaces_collapseSpaces (text : String) :
    collapseSpaces (collapseSpaces text) = collapseSpaces text := by
  rw [← String.toList_inj]
  simp only [toList_collapseSpaces]
  exact squeeze_squeeze id _

end Phrasebook.Text
