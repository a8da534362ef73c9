import Phrasebook.Json.Fault

/-! # Between the parts of a JSON text

Blank characters, words and the signs that separate the members of lists and objects.
-/

namespace Phrasebook.Json

/-- The characters that may stand between the parts of a text. -/
def isBlank (c : Char) : Bool := c = ' ' || c = '\n' || c = '\t' || c = '\r'

/-- The text behind the blank characters at its front. -/
def skipBlank (cs : List Char) : List Char := cs.dropWhile isBlank

theorem skipBlank_length_le (cs : List Char) : (skipBlank cs).length ≤ cs.length :=
  (List.dropWhile_sublist isBlank).length_le

/-- Takes the letters of a word that has begun. -/
def readWord : (letters : List Char) → List Char → Except Fault (List Char)
  | [], cs => .ok cs
  | _ :: _, [] => .error (.before .endInValue [])
  | l :: ls, c :: cs =>
    if c = l then readWord ls cs else .error (.inside .expectedIdent (c :: cs))

theorem readWord_length_le {letters cs rest : List Char} (h : readWord letters cs = .ok rest) :
    rest.length ≤ cs.length := by
  fun_induction readWord letters cs with
  | case1 =>
      cases h
      exact Nat.le_refl _
  | case2 => contradiction
  | case3 l ls cs ih =>
      have := ih h
      simp only [List.length_cons]
      omega
  | case4 => contradiction

/-- Takes the colon between a key and its value. -/
def readColon (cs : List Char) : Except Fault (List Char) :=
  match skipBlank cs with
  | [] => .error (.before .endInObject [])
  | ':' :: rest => .ok rest
  | rest => .error (.inside .expectedColon rest)

theorem readColon_shrinks {cs rest : List Char} (h : readColon cs = .ok rest) :
    rest.length < cs.length := by
  have hb := skipBlank_length_le cs
  unfold readColon at h
  split at h
  · contradiction
  · rename_i hs
    cases h
    rw [hs, List.length_cons] at hb
    omega
  · contradiction

/-- The start of the next element of a list, or nothing where the list ends. The first element needs
no comma in front of it. -/
def nextElement? (first : Bool) (cs : List Char) : Except Fault (Option (List Char)) :=
  match skipBlank cs with
  | [] => .error (.before .endInList [])
  | ']' :: _ => .ok none
  | c :: rest =>
    if first then
      .ok (some (c :: rest))
    else if c = ',' then
      match skipBlank rest with
      | [] => .error (.before .endInValue [])
      | ']' :: rest => .error (.inside .trailingComma (']' :: rest))
      | rest => .ok (some rest)
    else
      .error (.inside .expectedListCommaOrEnd (c :: rest))

/-- The start of the next key of an object behind its quote, or nothing where the object ends. -/
def nextKey? (first : Bool) (cs : List Char) : Except Fault (Option (List Char)) :=
  match skipBlank cs with
  | [] => .error (.before .endInObject [])
  | '\x7d' :: _ => .ok none
  | c :: rest =>
    if first then
      if c = '"' then .ok (some rest) else .error (.inside .keyNotString (c :: rest))
    else if c = ',' then
      match skipBlank rest with
      | [] => .error (.before .endInValue [])
      | '"' :: rest => .ok (some rest)
      | '\x7d' :: rest => .error (.inside .trailingComma ('\x7d' :: rest))
      | rest => .error (.inside .keyNotString rest)
    else
      .error (.inside .expectedObjectCommaOrEnd (c :: rest))

theorem nextElement?_length_le {first : Bool} {cs start : List Char}
    (h : nextElement? first cs = .ok (some start)) : start.length ≤ cs.length := by
  have hb := skipBlank_length_le cs
  unfold nextElement? at h
  split at h
  · contradiction
  · cases h
  · rename_i c rest _ hs
    rw [hs, List.length_cons] at hb
    have hr := skipBlank_length_le rest
    split at h
    · cases h
      simpa using hb
    · split at h
      · split at h
        · contradiction
        · contradiction
        · cases h
          omega
      · contradiction

theorem nextKey?_shrinks {first : Bool} {cs start : List Char}
    (h : nextKey? first cs = .ok (some start)) : start.length < cs.length := by
  have hb := skipBlank_length_le cs
  unfold nextKey? at h
  split at h
  · contradiction
  · cases h
  · rename_i c rest _ hs
    rw [hs, List.length_cons] at hb
    have hr := skipBlank_length_le rest
    split at h
    · split at h
      · cases h
        omega
      · contradiction
    · split at h
      · split at h
        · contradiction
        · rename_i hq
          rw [hq, List.length_cons] at hr
          cases h
          omega
        · contradiction
        · contradiction
      · contradiction

/-- Ends a list behind its last element. -/
def closeList (cs : List Char) : Except Fault (List Char) :=
  match skipBlank cs with
  | [] => .error (.before .endInList [])
  | ']' :: rest => .ok rest
  | ',' :: rest =>
    match skipBlank rest with
    | ']' :: rest => .error (.inside .trailingComma (']' :: rest))
    | rest => .error (.inside .trailingCharacters rest)
  | rest => .error (.inside .trailingCharacters rest)

/-- Nothing but blank characters may follow a text. -/
def finish (cs : List Char) : Except Fault Unit :=
  match skipBlank cs with
  | [] => .ok ()
  | rest => .error (.inside .trailingCharacters rest)

end Phrasebook.Json
