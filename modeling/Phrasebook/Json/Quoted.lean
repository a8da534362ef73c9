import Phrasebook.Json.Fault

/-! # Quoted text

Strings in a JSON text. Writing escapes the quote, the backslash and the characters below the space,
by a short form where there is one and by `\u00xx` elsewhere. Reading accepts every escape; a
character outside the first plane may be written as a pair of surrogates.
-/

namespace Phrasebook.Json

/-! ## Hexadecimal digits -/

/-- The value of a hexadecimal digit of either case. -/
def hexValue? (c : Char) : Option Nat :=
  if c.isDigit then some (c.toNat - '0'.toNat)
  else if 'a' ≤ c ∧ c ≤ 'f' then some (c.toNat - 'a'.toNat + 10)
  else if 'A' ≤ c ∧ c ≤ 'F' then some (c.toNat - 'A'.toNat + 10)
  else none

/-- The value of four hexadecimal digits. -/
def hexUnit? (a b c d : Char) : Option Nat := do
  let a ← hexValue? a
  let b ← hexValue? b
  let c ← hexValue? c
  let d ← hexValue? d
  return ((a * 16 + b) * 16 + c) * 16 + d

/-- Reads four hexadecimal digits. -/
def readHexUnit (cs : List Char) : Except Fault (Nat × List Char) :=
  if byteCount cs < 4 then
    .error (.before .endInString [])
  else
    match cs with
    | a :: b :: c :: d :: rest =>
      match hexUnit? a b c d with
      | some n => .ok (n, rest)
      | none => .error ⟨.invalidEscape, byteCount cs - 4⟩
    | _ => .error ⟨.invalidEscape, byteCount cs - 4⟩

/-! ## Surrogates -/

/-- Whether a unit is the first half of a pair. -/
def isLeading (n : Nat) : Bool := 0xD800 ≤ n && n ≤ 0xDBFF

/-- Whether a unit is the second half of a pair. -/
def isTrailing (n : Nat) : Bool := 0xDC00 ≤ n && n ≤ 0xDFFF

/-- The character that a pair stands for. -/
def pairChar (leading trailing : Nat) : Char :=
  Char.ofNat ((leading - 0xD800) * 0x400 + (trailing - 0xDC00) + 0x10000)

/-- Takes one expected character between the halves of a pair. -/
def readPairLink (link : Char) : List Char → Except Fault (List Char)
  | [] => .error (.before .endInString [])
  | c :: cs => if c = link then .ok cs else .error (.inside .unfinishedSurrogatePair (c :: cs))

/-- Reads the character of a `\u` escape, behind the `u`. -/
def readUnicode (cs : List Char) : Except Fault (Char × List Char) := do
  let (n, rest) ← readHexUnit cs
  if isTrailing n then
    .error (.before .loneSurrogate rest)
  else if isLeading n then
    let rest ← readPairLink '\\' rest
    let rest ← readPairLink 'u' rest
    let (m, rest) ← readHexUnit rest
    if isTrailing m then .ok (pairChar n m, rest) else .error (.before .loneSurrogate rest)
  else
    .ok (Char.ofNat n, rest)

/-! ## Reading -/

/-- The character that a one-letter escape stands for. -/
def shortEscape? : Char → Option Char
  | '"' => some '"'
  | '\\' => some '\\'
  | '/' => some '/'
  | 'b' => some '\x08'
  | 'f' => some '\x0c'
  | 'n' => some '\n'
  | 'r' => some '\r'
  | 't' => some '\t'
  | _ => none

/-- Reads an escape behind its backslash. -/
def readEscape : List Char → Except Fault (Char × List Char)
  | [] => .error (.before .endInString [])
  | 'u' :: rest => readUnicode rest
  | c :: rest =>
    match shortEscape? c with
    | some x => .ok (x, rest)
    | none => .error (.inside .invalidEscape (c :: rest))

/-- Characters that must be escaped. -/
def isControl (c : Char) : Bool := c.toNat < 0x20

theorem readHexUnit_shrinks {cs rest : List Char} {n : Nat}
    (h : readHexUnit cs = .ok (n, rest)) : rest.length < cs.length := by
  unfold readHexUnit at h
  split at h
  · contradiction
  · split at h
    · split at h
      · cases h
        simp only [List.length_cons]
        omega
      · contradiction
    · contradiction

theorem readPairLink_shrinks {link : Char} {cs rest : List Char}
    (h : readPairLink link cs = .ok rest) : rest.length < cs.length := by
  unfold readPairLink at h
  split at h
  · contradiction
  · split at h
    · cases h
      simp
    · contradiction

theorem readUnicode_shrinks {cs rest : List Char} {c : Char}
    (h : readUnicode cs = .ok (c, rest)) : rest.length < cs.length := by
  simp only [readUnicode, bind, Except.bind] at h
  split at h
  · contradiction
  · rename_i n hn
    have h1 := readHexUnit_shrinks hn
    split at h
    · contradiction
    · split at h
      · split at h
        · contradiction
        · rename_i hl
          have h2 := readPairLink_shrinks hl
          split at h
          · contradiction
          · rename_i hu
            have h3 := readPairLink_shrinks hu
            split at h
            · contradiction
            · rename_i m hm
              have h4 := readHexUnit_shrinks hm
              split at h
              · obtain rfl := (Prod.mk.inj (Except.ok.inj h)).2
                omega
              · contradiction
      · obtain rfl := (Prod.mk.inj (Except.ok.inj h)).2
        exact h1

theorem readEscape_shrinks {cs rest : List Char} {c : Char}
    (h : readEscape cs = .ok (c, rest)) : rest.length < cs.length := by
  unfold readEscape at h
  split at h
  · contradiction
  · have := readUnicode_shrinks h
    simp only [List.length_cons]
    omega
  · split at h
    · cases h
      simp
    · contradiction

/-- Reads characters up to the closing quote. -/
def readChars (cs : List Char) : Except Fault (List Char × List Char) :=
  match cs with
  | [] => .error (.before .endInString [])
  | '"' :: rest => .ok ([], rest)
  | '\\' :: rest =>
    match _h : readEscape rest with
    | .error f => .error f
    | .ok (c, rest') =>
      match readChars rest' with
      | .error f => .error f
      | .ok (text, rest') => .ok (c :: text, rest')
  | c :: rest =>
    if isControl c then
      .error (.before .controlCharacter rest)
    else
      match readChars rest with
      | .error f => .error f
      | .ok (text, rest) => .ok (c :: text, rest)
termination_by cs.length
decreasing_by
  · have := readEscape_shrinks ‹_›
    simp only [List.length_cons]
    omega
  · simp

theorem readChars_shrinks {cs rest text : List Char}
    (h : readChars cs = .ok (text, rest)) : rest.length < cs.length := by
  fun_induction readChars cs generalizing text rest with
  | case1 => contradiction
  | case2 rest' =>
      cases h
      simp
  | case3 => contradiction
  | case4 => simp_all
  | case5 rest' c rest'' he text' rest3 hr ih =>
      have h1 := readEscape_shrinks he
      have h2 := ih hr
      simp_all
      omega
  | case6 => contradiction
  | case7 => simp_all
  | case8 c rest' _ _ _ text' rest'' hr ih =>
      have h2 := ih hr
      simp_all
      omega

/-! ## Writing -/

/-- The lower-case hexadecimal digit of a number below sixteen. -/
def hexDigit (n : Nat) : Char := Nat.digitChar n

/-- What a character is written as. -/
def escape (c : Char) : List Char :=
  if c = '"' then ['\\', '"']
  else if c = '\\' then ['\\', '\\']
  else if c = '\x08' then ['\\', 'b']
  else if c = '\x0c' then ['\\', 'f']
  else if c = '\n' then ['\\', 'n']
  else if c = '\r' then ['\\', 'r']
  else if c = '\t' then ['\\', 't']
  else if isControl c then
    ['\\', 'u', '0', '0', hexDigit (c.toNat / 16), hexDigit (c.toNat % 16)]
  else [c]

def quote (text : String) : List Char := '"' :: (text.toList.flatMap escape ++ ['"'])

end Phrasebook.Json
