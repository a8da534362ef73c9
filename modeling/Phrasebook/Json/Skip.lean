import Phrasebook.Json.Blank
import Phrasebook.Json.Number
import Phrasebook.Json.Quoted

/-! # Skipping a value

The value of a field that nobody asks for is passed over. Its shape is checked, but no string is
decoded and no number is computed: a lone surrogate or a number out of range does no harm here.
-/

namespace Phrasebook.Json

/-- Passes over an escape behind its backslash. -/
def skipEscape : List Char → Except Fault (List Char)
  | [] => .error (.before .endInString [])
  | 'u' :: rest => (readHexUnit rest).map (·.2)
  | c :: rest =>
    if (shortEscape? c).isSome then .ok rest else .error (.inside .invalidEscape (c :: rest))

theorem skipEscape_shrinks {cs rest : List Char} (h : skipEscape cs = .ok rest) :
    rest.length < cs.length := by
  unfold skipEscape at h
  split at h
  · contradiction
  · rename_i tail
    cases hu : readHexUnit tail with
    | error f => simp [hu, Except.map] at h
    | ok p =>
        have : p.2.length < tail.length := readHexUnit_shrinks hu
        simp only [hu, Except.map, Except.ok.injEq] at h
        rw [← h, List.length_cons]
        omega
  · split at h
    · cases h
      simp
    · contradiction

/-- Passes over characters up to the closing quote. -/
def skipChars (cs : List Char) : Except Fault (List Char) :=
  match cs with
  | [] => .error (.before .endInString [])
  | '"' :: rest => .ok rest
  | '\\' :: rest =>
    match _h : skipEscape rest with
    | .error f => .error f
    | .ok rest' => skipChars rest'
  | c :: rest =>
    if isControl c then .error (.before .controlCharacter (c :: rest)) else skipChars rest
termination_by cs.length
decreasing_by
  · have := skipEscape_shrinks ‹_›
    simp only [List.length_cons]
    omega
  · simp

theorem skipChars_shrinks {cs rest : List Char} (h : skipChars cs = .ok rest) :
    rest.length < cs.length := by
  fun_induction skipChars cs with
  | case1 => contradiction
  | case2 rest' =>
      cases h
      simp
  | case3 => contradiction
  | case4 rest' rest'' he ih =>
      have h1 := skipEscape_shrinks he
      have h2 := ih h
      simp only [List.length_cons]
      omega
  | case5 => contradiction
  | case6 c rest' _ _ _ ih =>
      have h2 := ih h
      simp only [List.length_cons]
      omega

/-- Passes over a number behind its sign. -/
def skipNumber (cs : List Char) : Except Fault (List Char) :=
  (scanLiteral .invalidNumber cs).map (·.2)

/-- Passes over a value that is neither a list nor an object. -/
def skipScalar : List Char → Except Fault (List Char)
  | 'n' :: rest => readWord ['u', 'l', 'l'] rest
  | 't' :: rest => readWord ['r', 'u', 'e'] rest
  | 'f' :: rest => readWord ['a', 'l', 's', 'e'] rest
  | '"' :: rest => skipChars rest
  | '-' :: rest => skipNumber rest
  | c :: rest =>
    if c.isDigit then skipNumber (c :: rest) else .error (.inside .expectedValue (c :: rest))
  | [] => .error (.before .endInValue [])

theorem digits_length_le (cs : List Char) : (digits cs).2.length ≤ cs.length :=
  (List.dropWhile_sublist _).length_le

theorem scanWhole_shrinks {atEnd : Cause} {cs ds rest : List Char}
    (h : scanWhole atEnd cs = .ok (ds, rest)) : rest.length < cs.length := by
  unfold scanWhole at h
  split at h
  · contradiction
  · split at h
    · cases h
      simp
    · contradiction
  · split at h
    · contradiction
    · rename_i ds' rest' hne hd
      obtain ⟨rfl, rfl⟩ := Prod.mk.inj (Except.ok.inj h)
      simp only [digits, Prod.mk.injEq] at hd
      obtain ⟨h1, h2⟩ := hd
      have hl := congrArg List.length
        (List.takeWhile_append_dropWhile (p := Char.isDigit) (l := cs))
      rw [h1, h2, List.length_append] at hl
      have : 0 < ds'.length := List.length_pos_iff.mpr hne
      omega

theorem scanFraction_length_le {atEnd : Cause} {cs ds rest : List Char}
    (h : scanFraction atEnd cs = .ok (ds, rest)) : rest.length ≤ cs.length := by
  unfold scanFraction at h
  split at h
  · rename_i cs
    have hl := digits_length_le cs
    split at h
    · contradiction
    · contradiction
    · rename_i hd
      obtain ⟨-, rfl⟩ := Prod.mk.inj (Except.ok.inj h)
      rw [hd] at hl
      exact Nat.le_succ_of_le hl
  · obtain ⟨-, rfl⟩ := Prod.mk.inj (Except.ok.inj h)
    exact Nat.le_refl _

/-- The digits of an exponent stand behind an optional sign. -/
theorem exponentSign_length_le (cs : List Char) :
    (exponentSign cs).2.length ≤ cs.length := by
  unfold exponentSign
  split <;> simp

theorem exponentDigits_length_le {atEnd : Cause} {cs rest : List Char}
    {e : Option (Bool × List Char)} (h : exponentDigits atEnd cs = .ok (e, rest)) :
    rest.length ≤ cs.length := by
  have hs := exponentSign_length_le cs
  have hl := digits_length_le (exponentSign cs).2
  unfold exponentDigits at h
  split at h
  · contradiction
  · contradiction
  · rename_i hd
    obtain ⟨-, rfl⟩ := Prod.mk.inj (Except.ok.inj h)
    rw [hd] at hl
    exact Nat.le_trans hl hs

theorem scanExponent_length_le {atEnd : Cause} {cs rest : List Char}
    {e : Option (Bool × List Char)} (h : scanExponent atEnd cs = .ok (e, rest)) :
    rest.length ≤ cs.length := by
  unfold scanExponent at h
  split at h
  · exact Nat.le_succ_of_le (exponentDigits_length_le h)
  · exact Nat.le_succ_of_le (exponentDigits_length_le h)
  · obtain ⟨-, rfl⟩ := Prod.mk.inj (Except.ok.inj h)
    exact Nat.le_refl _

theorem scanLiteral_shrinks {atEnd : Cause} {cs rest : List Char} {l : Literal}
    (h : scanLiteral atEnd cs = .ok (l, rest)) : rest.length < cs.length := by
  simp only [scanLiteral, bind, Except.bind] at h
  split at h
  · contradiction
  · rename_i hw
    have h1 := scanWhole_shrinks hw
    split at h
    · contradiction
    · rename_i hf
      have h2 := scanFraction_length_le hf
      split at h
      · contradiction
      · rename_i he
        have h3 := scanExponent_length_le he
        obtain ⟨-, rfl⟩ := Prod.mk.inj (Except.ok.inj h)
        omega

theorem skipNumber_shrinks {cs rest : List Char} (h : skipNumber cs = .ok rest) :
    rest.length < cs.length := by
  unfold skipNumber at h
  cases hl : scanLiteral .invalidNumber cs with
  | error f => simp [hl, Except.map] at h
  | ok p =>
      simp only [hl, Except.map, Except.ok.injEq] at h
      rw [← h]
      exact scanLiteral_shrinks (l := p.1) hl

theorem skipScalar_shrinks {cs rest : List Char} (h : skipScalar cs = .ok rest) :
    rest.length < cs.length := by
  unfold skipScalar at h
  split at h
  · exact Nat.lt_succ_of_le (readWord_length_le h)
  · exact Nat.lt_succ_of_le (readWord_length_le h)
  · exact Nat.lt_succ_of_le (readWord_length_le h)
  · exact Nat.lt_succ_of_lt (skipChars_shrinks h)
  · exact Nat.lt_succ_of_lt (skipNumber_shrinks h)
  · split at h
    · exact skipNumber_shrinks h
    · contradiction
  · contradiction

/-! ## Lists and objects -/

/-- What a value is nested in. -/
inductive Bracket where
  | list
  | object
  deriving Repr, DecidableEq, Inhabited

namespace Bracket

/-- The character that closes a bracket. -/
def close : Bracket → Char
  | list => ']'
  | object => '\x7d'

/-- The fault of a text that ends inside a bracket. -/
def atEnd : Bracket → Cause
  | list => .endInList
  | object => .endInObject

/-- The fault of a member that is followed by neither a comma nor the end. -/
def unseparated : Bracket → Cause
  | list => .expectedListCommaOrEnd
  | object => .expectedObjectCommaOrEnd

end Bracket

/-- Passes over a key and its colon. -/
def skipKey (cs : List Char) : Except Fault (List Char) :=
  match skipBlank cs with
  | [] => .error (.before .endInObject [])
  | '"' :: rest =>
    match skipChars rest with
    | .error f => .error f
    | .ok rest => readColon rest
  | rest => .error (.inside .keyNotString rest)

theorem skipKey_shrinks {cs rest : List Char} (h : skipKey cs = .ok rest) :
    rest.length < cs.length := by
  have hb := skipBlank_length_le cs
  unfold skipKey at h
  split at h
  · contradiction
  · rename_i hs
    rw [hs, List.length_cons] at hb
    split at h
    · contradiction
    · rename_i hk
      have h1 := skipChars_shrinks hk
      have h2 := readColon_shrinks h
      omega
  · contradiction

/-- What is to be passed over next. -/
inductive Pending where
  | value
  /-- A member of the innermost bracket. -/
  | member
  /-- The end of the innermost bracket, or another member: the first one, or one behind a comma. -/
  | closing (first : Bool)
  deriving Repr, DecidableEq, Inhabited

namespace Pending

/-- Steps that take no character go from greater to lesser. -/
def rank : Pending → Nat
  | value => 0
  | member => 1
  | closing _ => 2

end Pending

/-- Passes over what is pending and the rest of the brackets around it, the innermost first. -/
def skipPending (p : Pending) (outer : List Bracket) (cs : List Char) :
    Except Fault (List Char) :=
  match p, outer with
  | .value, outer =>
    match _h : skipBlank cs with
    | '[' :: rest => skipPending (.closing true) (.list :: outer) rest
    | '\x7b' :: rest => skipPending (.closing true) (.object :: outer) rest
    | start =>
      match _h' : skipScalar start with
      | .error f => .error f
      | .ok rest => skipPending (.closing false) outer rest
  | .member, .object :: outer =>
    match _h : skipKey cs with
    | .error f => .error f
    | .ok rest => skipPending .value (.object :: outer) rest
  | .member, outer => skipPending .value outer cs
  | .closing _, [] => .ok cs
  | .closing first, b :: outer =>
    match _h : skipBlank cs with
    | [] => .error (.before b.atEnd [])
    | c :: rest =>
      if c = ',' ∧ !first then skipPending .member (b :: outer) rest
      else if c = b.close then skipPending (.closing false) outer rest
      else if first then skipPending .member (b :: outer) (c :: rest)
      else .error (.inside b.unseparated (c :: rest))
termination_by (cs.length, p.rank)
decreasing_by
  all_goals have hb := skipBlank_length_le cs
  · rw [‹skipBlank cs = _›, List.length_cons] at hb
    exact Prod.Lex.left _ _ (by omega)
  · rw [‹skipBlank cs = _›, List.length_cons] at hb
    exact Prod.Lex.left _ _ (by omega)
  · have := skipScalar_shrinks ‹_›
    rw [‹skipBlank cs = _›] at hb
    exact Prod.Lex.left _ _ (by omega)
  · have := skipKey_shrinks ‹_›
    exact Prod.Lex.left _ _ (by omega)
  · exact Prod.Lex.right _ (by decide)
  · rw [‹skipBlank cs = _›, List.length_cons] at hb
    exact Prod.Lex.left _ _ (by omega)
  · rw [‹skipBlank cs = _›, List.length_cons] at hb
    exact Prod.Lex.left _ _ (by omega)
  · rw [‹skipBlank cs = _›] at hb
    rcases Nat.lt_or_eq_of_le hb with lt | eq
    · exact Prod.Lex.left _ _ lt
    · rw [eq]
      exact Prod.Lex.right _ (by simp [Pending.rank])

def skipValue (cs : List Char) : Except Fault (List Char) := skipPending .value [] cs

theorem skipPending_length_le {p : Pending} {outer : List Bracket} {cs rest : List Char}
    (h : skipPending p outer cs = .ok rest) : rest.length ≤ cs.length := by
  have blank (cs : List Char) {start : List Char} (hs : skipBlank cs = start) :
      start.length ≤ cs.length := hs ▸ skipBlank_length_le cs
  fun_induction skipPending p outer cs with
  | case1 cs _ _ hs ih => exact Nat.le_trans (ih h) (Nat.le_of_succ_le (blank cs hs))
  | case2 cs _ _ hs ih => exact Nat.le_trans (ih h) (Nat.le_of_succ_le (blank cs hs))
  | case3 => contradiction
  | case4 cs _ _ _ _ hv ih =>
      have := skipScalar_shrinks hv
      have := skipBlank_length_le cs
      have := ih h
      omega
  | case5 => contradiction
  | case6 cs _ _ hk ih => exact Nat.le_trans (ih h) (Nat.le_of_lt (skipKey_shrinks hk))
  | case7 _ _ _ ih => exact ih h
  | case8 =>
      cases h
      exact Nat.le_refl _
  | case9 => contradiction
  | case10 cs _ _ _ _ _ hs _ ih => exact Nat.le_trans (ih h) (Nat.le_of_succ_le (blank cs hs))
  | case11 cs _ _ _ _ hs _ ih => exact Nat.le_trans (ih h) (Nat.le_of_succ_le (blank cs hs))
  | case12 cs _ _ _ _ hs _ _ ih => exact Nat.le_trans (ih h) (blank cs hs)
  | case13 => contradiction

end Phrasebook.Json
