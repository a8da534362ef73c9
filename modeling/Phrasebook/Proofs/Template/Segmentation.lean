import Mathlib.Data.List.Chain
import Mathlib.Data.List.TakeWhile
import Phrasebook.Template

/-! # Segmentations

A text can be cut into segments in many ways. A segmentation is a cut of a particular kind, which is
said here without a scanner: nothing is lost, no literal is empty or stands beside another literal,
no name runs over a `]` or a line break, and a `[` in a literal has no `]` behind it on its line.

`parse_isSegmentation` says that reading a text gives a segmentation, and `scan_of_isSegmentation`
that every segmentation is what the scanner finds, so there is no other. Both go along the segments
by `isSegmentation_cons_iff`. The scanner's two steps are known by what they cut off:
`markerAt?_eq_some_iff` and `literalRun_eq_iff`.
-/

namespace Phrasebook.Template

/-! ## The two steps of the scanner -/

/-- No `]` comes before the line ends. -/
def StaysOpen (behind : List Char) : Prop := ']' ∉ behind.takeWhile (· ≠ '\n')

/-- No marker opens inside `run`, where `rest` stands behind it. -/
def OpensNone (run rest : List Char) : Prop :=
  ∀ xs ys, run = xs ++ '[' :: ys → StaysOpen (ys ++ rest)

theorem isNameChar_iff {c : Char} : isNameChar c = true ↔ c ≠ ']' ∧ c ≠ '\n' := by
  simp [isNameChar]

/-- A row of name characters with a `]` behind it is all that `isNameChar` takes. -/
theorem span_name {name : List Char} (close : ']' ∉ name) (line : '\n' ∉ name)
    (rest : List Char) :
    (name ++ ']' :: rest).takeWhile isNameChar = name ∧
      (name ++ ']' :: rest).dropWhile isNameChar = ']' :: rest := by
  have all : ∀ c ∈ name, isNameChar c = true := by
    intro c hc
    refine isNameChar_iff.mpr ⟨?_, ?_⟩
    · rintro rfl
      exact close hc
    · rintro rfl
      exact line hc
  have stop : isNameChar ']' = false := by decide
  rw [List.takeWhile_append_of_pos all, List.dropWhile_append_of_pos all]
  simp [stop]

theorem markerAt?_eq_some_iff {cs rest : List Char} {m : Marker} :
    markerAt? cs = some (m, rest) ↔
      cs = '[' :: m.name.toList ++ ']' :: rest ∧ ']' ∉ m.name.toList ∧ '\n' ∉ m.name.toList := by
  constructor
  · intro h
    unfold markerAt? at h
    split at h
    · rename_i cs
      split at h
      · rename_i tail hd
        obtain ⟨rfl, rfl⟩ : (⟨String.ofList (cs.takeWhile isNameChar)⟩ : Marker) = m ∧
            tail = rest := by simpa using h
        have hcs := List.takeWhile_append_dropWhile (p := isNameChar) (l := cs)
        rw [hd] at hcs
        refine ⟨by simp [hcs], ?_, ?_⟩
        · intro hc
          exact (isNameChar_iff.mp (List.mem_takeWhile_imp (by simpa using hc))).1 rfl
        · intro hc
          exact (isNameChar_iff.mp (List.mem_takeWhile_imp (by simpa using hc))).2 rfl
      · contradiction
    · contradiction
  · rintro ⟨rfl, close, line⟩
    obtain ⟨take, drop⟩ := span_name close line rest
    rw [List.cons_append, markerAt?, drop]
    simp [take]

theorem markerAt?_of_ne {c : Char} {cs : List Char} (h : c ≠ '[') : markerAt? (c :: cs) = none := by
  unfold markerAt?
  split
  · simp_all
  · rfl

/-- A bracket opens no marker just if it stays open. -/
theorem markerAt?_bracket_eq_none_iff {cs : List Char} :
    markerAt? ('[' :: cs) = none ↔ StaysOpen cs := by
  induction cs with
  | nil => simp [markerAt?, StaysOpen]
  | cons c cs ih =>
      by_cases close : c = ']'
      · subst close
        simp [markerAt?, StaysOpen, isNameChar]
      · by_cases line : c = '\n'
        · subst line
          simp [markerAt?, StaysOpen, isNameChar]
        · have name : isNameChar c = true := isNameChar_iff.mpr ⟨close, line⟩
          have same : markerAt? ('[' :: c :: cs) = none ↔ markerAt? ('[' :: cs) = none := by
            simp only [markerAt?, List.dropWhile_cons_of_pos name]
            split <;> simp
          rw [same, ih]
          simp [StaysOpen, line, Ne.symm close]

theorem opensNone_nil (rest : List Char) : OpensNone [] rest := by
  intro xs ys h
  simp at h

theorem opensNone_cons_iff {c : Char} {run rest : List Char} :
    OpensNone (c :: run) rest ↔ markerAt? (c :: run ++ rest) = none ∧ OpensNone run rest := by
  constructor
  · intro h
    refine ⟨?_, fun xs ys eq => h (c :: xs) ys (by rw [eq, List.cons_append])⟩
    by_cases bracket : c = '['
    · subst bracket
      exact markerAt?_bracket_eq_none_iff.mpr (h [] run rfl)
    · exact markerAt?_of_ne bracket
  · rintro ⟨first, later⟩ xs ys eq
    cases xs with
    | nil =>
        obtain ⟨rfl, rfl⟩ := List.cons.inj eq
        exact markerAt?_bracket_eq_none_iff.mp first
    | cons x xs => exact later xs ys (List.cons.inj eq).2

theorem literalRun_eq_iff {cs run rest : List Char} :
    literalRun cs = (run, rest) ↔
      cs = run ++ rest ∧ OpensNone run rest ∧ (rest = [] ∨ (markerAt? rest).isSome) := by
  induction cs generalizing run with
  | nil =>
      constructor
      · intro h
        obtain ⟨rfl, rfl⟩ : [] = run ∧ [] = rest := by simpa [literalRun] using h
        exact ⟨rfl, opensNone_nil [], Or.inl rfl⟩
      · rintro ⟨eq, -, -⟩
        obtain ⟨rfl, rfl⟩ : run = [] ∧ rest = [] := by simpa using eq.symm
        rfl
  | cons c cs ih =>
      by_cases marker : (markerAt? (c :: cs)).isSome
      · rw [literalRun, if_pos marker]
        constructor
        · intro h
          obtain ⟨rfl, rfl⟩ : [] = run ∧ c :: cs = rest := by simpa using h
          exact ⟨rfl, opensNone_nil _, Or.inr marker⟩
        · rintro ⟨eq, quiet, -⟩
          cases run with
          | nil => rw [eq, List.nil_append]
          | cons r run =>
              have := (opensNone_cons_iff.mp quiet).1
              rw [← eq] at this
              simp [this] at marker
      · rw [literalRun, if_neg marker]
        cases run with
        | nil =>
            constructor
            · intro h
              simp at h
            · rintro ⟨rfl, -, h⟩
              simp [marker] at h
        | cons r run =>
            have step := @ih run
            constructor
            · intro h
              obtain ⟨rfl, rfl, rfl⟩ :
                  c = r ∧ (literalRun cs).1 = run ∧ (literalRun cs).2 = rest := by
                simpa [and_assoc] using h
              obtain ⟨eq, quiet, next⟩ := step.mp rfl
              refine ⟨by rw [List.cons_append, ← eq], opensNone_cons_iff.mpr ⟨?_, quiet⟩, next⟩
              rw [List.cons_append, ← eq]
              simpa using marker
            · rintro ⟨eq, quiet, next⟩
              obtain ⟨rfl, tail⟩ := List.cons.inj eq
              rw [step.mpr ⟨tail, (opensNone_cons_iff.mp quiet).2, next⟩]

/-! ## What a segmentation is -/

/-- A cut of a text into segments, the markers being found from left to right and as short as they
can be. -/
structure IsSegmentation (text : String) (segs : List Segment) : Prop where
  /-- Nothing is lost. -/
  render : (Template.mk segs).render = text
  literal_ne_empty : .literal "" ∉ segs
  /-- Of two neighbours one is a marker. -/
  separated : segs.IsChain fun x y => x.marker? ≠ none ∨ y.marker? ≠ none
  name_closes : ∀ m, .marker m ∈ segs → ']' ∉ m.name.toList ∧ '\n' ∉ m.name.toList
  /-- A bracket inside a literal has no `]` behind it in the text before the line ends. -/
  bracket_open : ∀ before run after, segs = before ++ .literal run :: after →
    OpensNone run.toList (Template.mk after).render.toList

/-- What one segment must satisfy before others, of which `rest` is the text. -/
def Fits (segs : List Segment) (rest : String) : Segment → Prop
  | .literal run =>
    run ≠ "" ∧ (∀ next ∈ segs.head?, next.marker? ≠ none) ∧ OpensNone run.toList rest.toList
  | .marker m => ']' ∉ m.name.toList ∧ '\n' ∉ m.name.toList

@[simp]
theorem render_nil : (Template.mk []).render = "" := by
  simp [render]

@[simp]
theorem render_cons (seg : Segment) (segs : List Segment) :
    (Template.mk (seg :: segs)).render = seg.render ++ (Template.mk segs).render := by
  simp [render]

theorem render_append (segs segs' : List Segment) :
    (Template.mk (segs ++ segs')).render =
      (Template.mk segs).render ++ (Template.mk segs').render := by
  induction segs with
  | nil => simp
  | cons seg segs ih => rw [List.cons_append, render_cons, render_cons, ih, String.append_assoc]

theorem isSegmentation_nil_iff {text : String} : IsSegmentation text [] ↔ text = "" := by
  constructor
  · intro h
    simpa using h.render.symm
  · rintro rfl
    exact ⟨render_nil, by simp, .nil, by simp, by simp⟩

/-- A segmentation is read from its first segment on. -/
theorem isSegmentation_cons_iff {text : String} {seg : Segment} {segs : List Segment} :
    IsSegmentation text (seg :: segs) ↔
      ∃ rest, text = seg.render ++ rest ∧ IsSegmentation rest segs ∧ Fits segs rest seg := by
  constructor
  · intro h
    refine ⟨(Template.mk segs).render, by rw [← h.render, render_cons], ⟨rfl, ?_, ?_, ?_, ?_⟩, ?_⟩
    · exact fun hm => h.literal_ne_empty (List.mem_cons_of_mem seg hm)
    · exact h.separated.tail
    · exact fun m hm => h.name_closes m (List.mem_cons_of_mem seg hm)
    · intro before run after eq
      exact h.bracket_open (seg :: before) run after (by rw [eq, List.cons_append])
    · cases seg with
      | literal run =>
          refine ⟨?_, fun next hn => ?_, h.bracket_open [] run segs rfl⟩
          · rintro rfl
            exact h.literal_ne_empty List.mem_cons_self
          · simpa [Segment.marker?] using h.separated.rel_head? hn
      | marker m => exact h.name_closes m List.mem_cons_self
  · rintro ⟨rest, rfl, h, fits⟩
    refine ⟨by rw [render_cons, h.render], ?_, ?_, ?_, ?_⟩
    · intro hm
      rcases List.mem_cons.mp hm with rfl | hm
      · exact fits.1 rfl
      · exact h.literal_ne_empty hm
    · refine List.isChain_cons.mpr ⟨fun next hn => ?_, h.separated⟩
      cases seg with
      | literal run => exact Or.inr (fits.2.1 next hn)
      | marker m => exact Or.inl (by simp [Segment.marker?])
    · intro m hm
      rcases List.mem_cons.mp hm with rfl | hm
      · exact fits
      · exact h.name_closes m hm
    · intro before run after eq
      cases before with
      | nil =>
          obtain ⟨rfl, rfl⟩ := List.cons.inj eq
          rw [h.render]
          exact fits.2.2
      | cons first before => exact h.bracket_open before run after (List.cons.inj eq).2

/-! ## The scanner finds the segmentation -/

/-- A marker segment opens with itself. -/
theorem markerAt?_render_marker {m : Marker} {rest : String} (close : ']' ∉ m.name.toList)
    (line : '\n' ∉ m.name.toList) :
    markerAt? ((Segment.marker m).render ++ rest).toList = some (m, rest.toList) := by
  refine markerAt?_eq_some_iff.mpr ⟨?_, close, line⟩
  simp [Segment.render]

/-- Behind a literal the text ends or a marker opens. -/
theorem eq_nil_or_markerAt? {segs : List Segment} {rest : String} (h : IsSegmentation rest segs)
    (next : ∀ seg ∈ segs.head?, seg.marker? ≠ none) :
    rest.toList = [] ∨ (markerAt? rest.toList).isSome := by
  cases segs with
  | nil =>
      obtain rfl := isSegmentation_nil_iff.mp h
      exact Or.inl rfl
  | cons seg segs =>
      obtain ⟨rest, rfl, -, fits⟩ := isSegmentation_cons_iff.mp h
      cases seg with
      | literal run => simp [Segment.marker?] at next
      | marker m =>
          right
          rw [markerAt?_render_marker fits.1 fits.2]
          rfl

theorem scan_of_isSegmentation {segs : List Segment} {text : String}
    (h : IsSegmentation text segs) : scan text.toList = segs := by
  induction segs generalizing text with
  | nil =>
      obtain rfl := isSegmentation_nil_iff.mp h
      exact scan_nil
  | cons seg segs ih =>
      obtain ⟨rest, rfl, hrest, fits⟩ := isSegmentation_cons_iff.mp h
      cases seg with
      | marker m => rw [scan_of_marker (markerAt?_render_marker fits.1 fits.2), ih hrest]
      | literal run =>
          obtain ⟨ne, next, quiet⟩ := fits
          obtain ⟨c, cs, hrun⟩ := List.exists_cons_of_ne_nil (fun h => ne (String.toList_inj.mp h))
          rw [hrun] at quiet
          obtain ⟨first, later⟩ := opensNone_cons_iff.mp quiet
          have cut : literalRun (cs ++ rest.toList) = (cs, rest.toList) :=
            literalRun_eq_iff.mpr ⟨rfl, later, eq_nil_or_markerAt? hrest next⟩
          have chars :
              ((Segment.literal run).render ++ rest).toList = c :: (cs ++ rest.toList) := by
            simp [Segment.render, hrun]
          rw [List.cons_append] at first
          rw [chars, scan_of_literal first, cut, ← hrun, String.ofList_toList, ih hrest]

/-- A literal that the scanner cuts off is followed by a marker, if by anything. -/
theorem head?_scan_of_markerAt? {cs : List Char} (h : cs = [] ∨ (markerAt? cs).isSome) :
    ∀ next ∈ (scan cs).head?, next.marker? ≠ none := by
  rcases h with rfl | h
  · simp
  · obtain ⟨⟨m, rest⟩, hm⟩ := Option.isSome_iff_exists.mp h
    simp [scan_of_marker hm, Segment.marker?]

theorem isSegmentation_scan (cs : List Char) : IsSegmentation (String.ofList cs) (scan cs) := by
  induction cs using scan.induct with
  | case1 cs m rest h ih =>
      obtain ⟨eq, close, line⟩ := markerAt?_eq_some_iff.mp h
      rw [scan_of_marker h]
      refine isSegmentation_cons_iff.mpr ⟨String.ofList rest, ?_, ih, close, line⟩
      apply String.toList_inj.mp
      simp [eq, Segment.render]
  | case2 h => simpa using isSegmentation_nil_iff.mpr rfl
  | case3 c cs h run ih =>
      -- `c` opens no marker, so the literal is `c` with the run that is cut off behind it.
      obtain ⟨eq, quiet, next⟩ := literalRun_eq_iff.mp (rfl : literalRun cs = (run.1, run.2))
      rw [scan_of_literal h]
      refine isSegmentation_cons_iff.mpr ⟨String.ofList run.2, ?_, ih, ?_, ?_, ?_⟩
      · apply String.toList_inj.mp
        simpa [Segment.render] using eq
      · intro empty
        simpa using congrArg String.toList empty
      · exact head?_scan_of_markerAt? next
      · simp only [String.toList_ofList]
        exact opensNone_cons_iff.mpr ⟨by rw [List.cons_append, ← eq]; exact h, quiet⟩

theorem parse_isSegmentation (text : String) : IsSegmentation text (parse text).segments := by
  have := isSegmentation_scan text.toList
  rwa [String.ofList_toList] at this

theorem segments_eq_of_isSegmentation {text : String} {segs : List Segment}
    (h : IsSegmentation text segs) : (parse text).segments = segs := scan_of_isSegmentation h

/-- A name may hold an opening bracket, and a bracket that stays open on its line is text. -/
example : (parse "[a [b] c] [d\ne]").segments = [.marker ⟨"a [b"⟩, .literal " c] [d\ne]"] := by
  decide +kernel

theorem mem_markers_iff {t : Template} {m : Marker} :
    m ∈ t.markers ↔ .marker m ∈ t.segments := by
  rw [markers, List.mem_filterMap]
  constructor
  · rintro ⟨seg, mem, eq⟩
    cases seg with
    | literal run => simp [Segment.marker?] at eq
    | marker n =>
        obtain rfl : n = m := Option.some.inj eq
        exact mem
  · intro mem
    exact ⟨_, mem, rfl⟩

/-- The quick test misses no marker. -/
theorem hasBrackets_of_mem_markers {text : String} {m : Marker} (h : m ∈ (parse text).markers) :
    hasBrackets text = true := by
  have hseg := mem_markers_iff.mp h
  have read (c : Char) (hc : c ∈ (Segment.marker m).render.toList) : c ∈ text.toList := by
    rw [← (parse_isSegmentation text).render, render, String.toList_join]
    exact List.mem_flatMap.mpr ⟨_, List.mem_map_of_mem hseg, hc⟩
  have opens := read '[' (by simp [Segment.render])
  have close := read ']' (by simp [Segment.render])
  simp [hasBrackets, opens, close]

theorem isLiteral_iff {t : Template} : t.isLiteral = true ↔ t.markers = [] := List.isEmpty_iff

theorem hasBrackets_of_markers {text : String} (h : (parse text).markers ≠ []) :
    hasBrackets text = true := by
  obtain ⟨m, hm⟩ := List.exists_mem_of_ne_nil _ h
  exact hasBrackets_of_mem_markers hm

theorem isLiteral_of_not_hasBrackets {text : String} (h : ¬ hasBrackets text = true) :
    (parse text).isLiteral = true := by
  by_contra marked
  exact h (hasBrackets_of_markers (mt isLiteral_iff.mpr marked))

/-- Reading a text gives its only segmentation, so the text of a segmentation reads as that
segmentation. -/
theorem parse_only_segmentation :
    (∀ (text : String) (segs : List Segment),
      IsSegmentation text segs ↔ segs = (parse text).segments) ∧
    ∀ t : Template, IsSegmentation t.render t.segments ↔ parse t.render = t := by
  have only (text : String) (segs : List Segment) :
      IsSegmentation text segs ↔ segs = (parse text).segments := by
    constructor
    · intro h
      exact (segments_eq_of_isSegmentation h).symm
    · rintro rfl
      exact parse_isSegmentation text
  refine ⟨only, fun t => ?_⟩
  rw [only]
  constructor
  · intro h
    cases t
    exact congrArg Template.mk h.symm
  · intro h
    rw [h]

end Phrasebook.Template
