import Phrasebook.Proofs.Json.Grammar

/-! # Quoted text is read back

The escaped characters of a text are a spelling of it (`spelled_flatMap_escape`), so a quoted text is
one of the texts of its string. Each character is settled by what it is written as: a short form, a
`\u00xx` of a character below the space, or the character itself.
-/

namespace Phrasebook.Json

/-! ## Hexadecimal digits -/

theorem hexValue?_hexDigit : ∀ n < 16, hexValue? (hexDigit n) = some n := by decide

/-- The digits of a byte, behind two zeros. -/
theorem hexUnit?_byte {n : Nat} (h : n < 256) :
    hexUnit? '0' '0' (hexDigit (n / 16)) (hexDigit (n % 16)) = some n := by
  have zero : hexValue? '0' = some 0 := by decide
  have high := hexValue?_hexDigit (n / 16) (by omega)
  have low := hexValue?_hexDigit (n % 16) (by omega)
  have value : n / 16 * 16 + n % 16 = n := by omega
  simp [hexUnit?, zero, high, low, value]

/-! ## Characters -/

variable {c : Char} {text written : List Char}

/-- The characters with a short form. -/
def shortened : List Char := ['"', '\\', '\x08', '\x0c', '\n', '\r', '\t']

theorem exists_short_of_mem (h : c ∈ shortened) :
    ∃ d, shortEscape? d = some c ∧ escape c = ['\\', d] := by
  simp only [shortened, List.mem_cons, List.not_mem_nil, or_false] at h
  rcases h with rfl | rfl | rfl | rfl | rfl | rfl | rfl
  · exact ⟨'"', rfl, rfl⟩
  · exact ⟨'\\', rfl, rfl⟩
  · exact ⟨'b', rfl, rfl⟩
  · exact ⟨'f', rfl, rfl⟩
  · exact ⟨'n', rfl, rfl⟩
  · exact ⟨'r', rfl, rfl⟩
  · exact ⟨'t', rfl, rfl⟩

theorem escape_of_notMem (h : c ∉ shortened) :
    escape c =
      if isControl c then
        ['\\', 'u', '0', '0', hexDigit (c.toNat / 16), hexDigit (c.toNat % 16)]
      else [c] := by
  simp only [shortened, List.mem_cons, List.not_mem_nil, or_false, not_or] at h
  obtain ⟨quote, backslash, backspace, feed, line, return', tab⟩ := h
  simp only [escape, if_neg, quote, backslash, backspace, feed, line, return', tab, not_false_eq_true]

theorem spelled_control (control : isControl c = true) (h : Spelled written text) :
    Spelled ('\\' :: 'u' :: '0' :: '0' :: hexDigit (c.toNat / 16) :: hexDigit (c.toNat % 16) ::
      written) (c :: text) := by
  have small : c.toNat < 0x20 := by simpa [isControl] using control
  have unit := hexUnit?_byte (by omega : c.toNat < 256)
  have noTrailing : isTrailing c.toNat = false := by
    simp only [isTrailing, Bool.and_eq_false_iff, decide_eq_false_iff_not]
    omega
  have noLeading : isLeading c.toNat = false := by
    simp only [isLeading, Bool.and_eq_false_iff, decide_eq_false_iff_not]
    omega
  simpa using Spelled.unit unit noLeading noTrailing h

/-- What a character is written as is a spelling of it. -/
theorem spelled_escape (c : Char) (h : Spelled written text) :
    Spelled (escape c ++ written) (c :: text) := by
  by_cases short : c ∈ shortened
  · obtain ⟨d, letter, form⟩ := exists_short_of_mem short
    rw [form]
    exact .short letter h
  · rw [escape_of_notMem short]
    cases control : isControl c with
    | true => exact spelled_control control h
    | false =>
        refine .plain ?_ ?_ control h
        · rintro rfl
          exact short (by decide)
        · rintro rfl
          exact short (by decide)

theorem spelled_flatMap_escape (text : List Char) : Spelled (text.flatMap escape) text := by
  induction text with
  | nil => exact .nil
  | cons c text ih =>
      rw [List.flatMap_cons]
      exact spelled_escape c ih

theorem stringText_quote (text : String) : StringText text (quote text) :=
  ⟨_, spelled_flatMap_escape text.toList, rfl⟩

theorem quote_append (text : String) (rest : List Char) :
    quote text ++ rest = '"' :: (text.toList.flatMap escape ++ '"' :: rest) := by
  rw [quote, List.cons_append, List.append_assoc, List.singleton_append]

end Phrasebook.Json
