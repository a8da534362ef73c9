import Mathlib.Data.List.Infix
import Phrasebook.Text.Lowercase

/-! # Lower case inside a text

A text that stands inside another one is lower-cased there as it is by itself, but for its capital
sigmas: whether a sigma ends a word may depend on letters that no longer belong to the text.
`lowerAfter_append` cuts the lower-case form of a text in two, each part in sight of the other.
`contains_lowercase` follows: a text is found again in lower case at every place where its sigmas
end a word just if they do without the letters around.
-/

namespace Phrasebook.Text

/-- To look for a text is to go through the places where it may begin. -/
theorem contains_iff {part text : List Char} : contains part text = true ↔ part <:+: text := by
  induction text with
  | nil =>
      rw [contains, Bool.or_false, List.isPrefixOf_iff_prefix, List.prefix_nil, List.infix_nil]
  | cons c cs ih =>
      rw [contains, Bool.or_eq_true, List.isPrefixOf_iff_prefix, ih, List.infix_cons_iff]

namespace Lowercase

/-! ## Neighbours -/

/-- Whether a sigma with these neighbours ends a word; those before it are read from the sigma. -/
def endsWord (before behind : List Char) : Bool := startsCased before && !startsCased behind

/-- The lower-case form of a character between its neighbours. -/
def letter (before behind : List Char) (c : Char) : List Char :=
  if c = 'Σ' then
    [if endsWord before behind then 'ς' else 'σ']
  else if c = 'İ' then
    ['i', '\u0307']
  else
    [char c]

/-- The lower-case form of a text between its neighbours. -/
def lowerBetween (before behind : List Char) : List Char → List Char
  | [] => []
  | c :: cs => letter before (cs ++ behind) c ++ lowerBetween (c :: before) behind cs

theorem lowerAfter_cons (before : List Char) (c : Char) (cs : List Char) :
    lowerAfter before (c :: cs) = letter before cs c ++ lowerAfter (c :: before) cs := by
  rw [lowerAfter, letter]
  by_cases sigma : c = 'Σ'
  · rw [if_pos sigma, if_pos sigma]
    rfl
  · rw [if_neg sigma, if_neg sigma]
    by_cases dotted : c = 'İ'
    · rw [if_pos dotted, if_pos dotted]
      rfl
    · rw [if_neg dotted, if_neg dotted]
      rfl

/-- A text in lower case is cut where the text is cut, with the other part as a neighbour. -/
theorem lowerAfter_append (before xs ys : List Char) :
    lowerAfter before (xs ++ ys) =
      lowerBetween before ys xs ++ lowerAfter (xs.reverse ++ before) ys := by
  induction xs generalizing before with
  | nil => rfl
  | cons x xs ih =>
      rw [List.cons_append, lowerAfter_cons, ih, lowerBetween, List.append_assoc,
        List.reverse_cons, List.append_assoc, List.singleton_append]

theorem lowerAfter_eq (before cs : List Char) :
    lowerAfter before cs = lowerBetween before [] cs := by
  have whole := lowerAfter_append before cs []
  rwa [List.append_nil, lowerAfter, List.append_nil] at whole

theorem letter_eq_of_ne {c : Char} (h : c ≠ 'Σ') (before behind before' behind' : List Char) :
    letter before behind c = letter before' behind' c := by
  rw [letter, letter, if_neg h, if_neg h]

/-- Only the sigmas see the neighbours, so it is enough that these agree for them. -/
theorem lowerBetween_congr {before behind before' behind' cs : List Char}
    (h : ∀ xs ys, cs = xs ++ 'Σ' :: ys →
      endsWord (xs.reverse ++ before) (ys ++ behind) =
        endsWord (xs.reverse ++ before') (ys ++ behind')) :
    lowerBetween before behind cs = lowerBetween before' behind' cs := by
  induction cs generalizing before before' with
  | nil => rfl
  | cons c cs ih =>
      have first : letter before (cs ++ behind) c = letter before' (cs ++ behind') c := by
        by_cases sigma : c = 'Σ'
        · have same := h [] cs (by rw [sigma, List.nil_append])
          rw [List.reverse_nil, List.nil_append, List.nil_append] at same
          rw [letter, letter, same]
        · exact letter_eq_of_ne sigma _ _ _ _
      have others :
          lowerBetween (c :: before) behind cs = lowerBetween (c :: before') behind' cs := by
        apply ih
        intro xs ys eq
        have same := h (c :: xs) ys (by rw [eq, List.cons_append])
        simpa only [List.reverse_cons, List.append_assoc, List.singleton_append] using same
      rw [lowerBetween, lowerBetween, first, others]

/-! ## Texts inside texts -/

/-- A text stands somewhere inside another one, where each capital sigma of it ends a word just if
it does in the text alone. -/
def StandsIn (part text : List Char) : Prop :=
  ∃ before behind, text = before ++ part ++ behind ∧
    ∀ xs ys, part = xs ++ 'Σ' :: ys →
      endsWord (xs.reverse ++ before.reverse) (ys ++ behind) = endsWord xs.reverse ys

/-- Without a capital sigma it is enough to stand there. -/
theorem standsIn_of_infix {part text : List Char} (sigma : 'Σ' ∉ part) (h : part <:+: text) :
    StandsIn part text := by
  obtain ⟨before, behind, rfl⟩ := h
  refine ⟨before, behind, rfl, ?_⟩
  intro xs ys eq
  have mem : 'Σ' ∈ part := by
    rw [eq]
    exact List.mem_append_right xs List.mem_cons_self
  exact absurd mem sigma

theorem infix_lowerAfter {part text : List Char} (h : StandsIn part text) :
    lowerAfter [] part <:+: lowerAfter [] text := by
  obtain ⟨before, behind, rfl, sigmas⟩ := h
  have kept : lowerBetween (before.reverse ++ []) behind part = lowerAfter [] part := by
    rw [lowerAfter_eq]
    apply lowerBetween_congr
    intro xs ys eq
    simpa only [List.append_nil] using sigmas xs ys eq
  rw [List.append_assoc, lowerAfter_append, lowerAfter_append, kept, ← List.append_assoc]
  exact ⟨_, _, rfl⟩

end Lowercase

/-- Lower-casing keeps a text findable where its sigmas keep their form. -/
theorem contains_lowercase {part text : String}
    (h : Lowercase.StandsIn part.toList text.toList) :
    contains (lowercase part).toList (lowercase text).toList = true := by
  rw [contains_iff, lowercase, lowercase, String.toList_ofList, String.toList_ofList]
  exact Lowercase.infix_lowerAfter h

end Phrasebook.Text
