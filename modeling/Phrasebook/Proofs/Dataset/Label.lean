import Mathlib.Control.Monad.Basic
import Phrasebook.Dataset.Diagnostic
import Phrasebook.Proofs.Text.Lines

/-! # Labels

A report on a dataset marks the byte that a position points at: the last byte that was taken, or the
first byte of the line if none was. `labels_of_stop` says so of the position of every byte offset.

A position may also be looked up in another text than the one it was found in, since a file can change
in between. The start of its line and its column are added before the sum is clamped to the text, so
the sum has to fit a word. It does for each position that reading a text reports (`fits_of_parse`), and
where it does the offset is the clamped sum (`byteOffset_clamps`). A position made by hand can have a
column that is too great for that (`byteOffset_wraps`).
-/

namespace Phrasebook.Diagnostic

open Phrasebook.Text

variable {text : String} {p : Position} {start : Nat}

theorem bytesOfLines_eq (n : Nat) (cs : List Char) :
    bytesOfLines n cs = behindFeeds n (cs.flatMap String.utf8EncodeChar) := by
  induction cs generalizing n with
  | nil => cases n <;> rfl
  | cons c cs ih =>
      cases n with
      | zero => simp [bytesOfLines, behindFeeds]
      | succ n =>
          rw [bytesOfLines, List.flatMap_cons]
          by_cases feed : c = '\n'
          · subst feed
            rw [if_pos rfl, ih, encode_lineFeed, List.singleton_append, behindFeeds, if_pos rfl]
            rfl
          · rw [if_neg feed, ih, behindFeeds_append (lineFeed_not_mem_encode feed),
              String.length_utf8EncodeChar]

/-- The offset of a position, from the start of its line. -/
theorem byteOffset_eq (h : LineStart (bytes text) p.line start) :
    byteOffset text p = min ((start + (p.column - 1)) % Nat.pow 2 64) text.utf8ByteSize := by
  rw [byteOffset, bytesOfLines_eq, ← bytes_eq, ← lineStart_iff.mp h]

theorem byteOffset_le (text : String) (p : Position) : byteOffset text p ≤ text.utf8ByteSize :=
  Nat.min_le_right _ _

/-- A sum of 64 bits is clamped. -/
theorem byteOffset_eq_min (h : LineStart (bytes text) p.line start)
    (fits : start + (p.column - 1) < Nat.pow 2 64) :
    byteOffset text p = min (start + (p.column - 1)) text.utf8ByteSize := by
  rw [byteOffset_eq h, Nat.mod_eq_of_lt fits]

theorem labels_parse (text path detail : String) (p : Position) :
    (ofLoadError text (.parse path p detail)).labels =
      [⟨byteOffset text p, if byteOffset text p < text.utf8ByteSize then 1 else 0, "here"⟩] := rfl

/-- Every report has one label, which lies within the text. -/
theorem exists_label (text : String) (e : LoadError) :
    ∃ l, (ofLoadError text e).labels = [l] ∧ l.offset + l.length ≤ text.utf8ByteSize ∧
      ∀ path p detail, e = .parse path p detail → l.offset = byteOffset text p := by
  have within {offset : Nat} (h : offset ≤ text.utf8ByteSize) :
      offset + (if offset < text.utf8ByteSize then 1 else 0) ≤ text.utf8ByteSize := by
    split
    · omega
    · omega
  cases e with
  | io path detail => exact ⟨_, rfl, within (Nat.zero_le _), fun _ _ _ other => nomatch other⟩
  | parse path p detail =>
      refine ⟨_, labels_parse text path detail p, within (byteOffset_le text p), ?_⟩
      rintro _ _ _ ⟨⟩
      rfl

/-- Where reading stopped at a byte offset, the label is on the byte in front of the offset, or on
the offset if it is the start of a line; at the end of the text it has no length. The position is the
one that reading reports. -/
theorem labels_of_stop (size : text.utf8ByteSize < Nat.pow 2 64) {i : Nat}
    (inside : i ≤ text.utf8ByteSize) (path detail : String) :
    Position.ofOffset text i = Position.stop text i ∧
    (ofLoadError text (.parse path (Position.stop text i) detail)).labels =
      if 1 ≤ (Position.stop text i).column then
        [⟨i - 1, if i - 1 < text.utf8ByteSize then 1 else 0, "here"⟩]
      else [⟨i, if i < text.utf8ByteSize then 1 else 0, "here"⟩] := by
  have start := lineStart_stop text i
  have le : behindLast ((bytes text).take i) ≤ i :=
    Nat.le_trans (behindLast_le _) (List.length_take_le i _)
  have column : (Position.stop text i).column = i - behindLast ((bytes text).take i) := rfl
  have offset := byteOffset_eq_min start (by omega)
  refine ⟨ofOffset_eq_stop inside, ?_⟩
  split
  · have same : byteOffset text (Position.stop text i) = i - 1 := by omega
    rw [labels_parse, same]
  · have same : byteOffset text (Position.stop text i) = i := by omega
    rw [labels_parse, same]

/-- Behind a line of two bytes of one character and a carriage return. -/
theorem labels_of_stop_accent :
    "é\r\n]".utf8ByteSize < Nat.pow 2 64 ∧ 5 ≤ "é\r\n]".utf8ByteSize ∧
      Position.ofOffset "é\r\n]" 5 = Position.stop "é\r\n]" 5 ∧
      (ofLoadError "é\r\n]" (.parse "data.json" ⟨2, 1⟩ "trailing characters")).labels =
        [⟨4, 1, "here"⟩] := by
  have size : "é\r\n]".utf8ByteSize < Nat.pow 2 64 := by decide +kernel
  have inside : 5 ≤ "é\r\n]".utf8ByteSize := by decide +kernel
  have stop : Position.stop "é\r\n]" 5 = ⟨2, 1⟩ := by decide +kernel
  have labels := (labels_of_stop size inside "data.json" "trailing characters").2
  rw [stop] at labels
  exact ⟨size, inside, (labels_of_stop size inside "data.json" "trailing characters").1,
    labels.trans (by decide +kernel)⟩

/-! ## Positions in another text -/

/-- Reading a text reports no column beyond the size of that text. -/
theorem column_le_of_parse {path file loaded detail : String}
    (h : Dataset.parse path loaded = .error (.parse file p detail)) :
    p.column ≤ loaded.utf8ByteSize := by
  unfold Dataset.parse at h
  split at h
  · contradiction
  · obtain ⟨-, rfl, -⟩ := LoadError.parse.inj (Except.error.inj h)
    exact Nat.le_trans (column_ofOffset_le (Nat.sub_le _ _)) (Nat.sub_le _ _)

/-- A reported position fits every text in which it is looked up: a text takes less than half of the
bytes that a word can count, and there are two texts. -/
theorem fits_of_parse {path file loaded detail : String}
    (h : Dataset.parse path loaded = .error (.parse file p detail))
    (loadedSize : loaded.utf8ByteSize < Nat.pow 2 63) (size : text.utf8ByteSize < Nat.pow 2 63)
    (line : LineStart (bytes text) p.line start) : start + (p.column - 1) < Nat.pow 2 64 := by
  have column : p.column ≤ loaded.utf8ByteSize := column_le_of_parse h
  have inside : start ≤ text.utf8ByteSize := line.le_size
  have double : Nat.pow 2 64 = Nat.pow 2 63 + Nat.pow 2 63 := by decide
  omega

/-- Each line starts at one index, which is not behind the end of the text. Where this start and the
column add up to a word, the offset is their sum, clamped to the text; and so it is for every position
that reading a text reports, in whatever text it is looked up. Each label lies within the text. -/
theorem byteOffset_clamps :
    (∀ (text : String) (p : Position), ∃ start, start ≤ text.utf8ByteSize ∧
      (∀ index, LineStart (bytes text) p.line index ↔ index = start) ∧
      (start + (p.column - 1) < Nat.pow 2 64 →
        byteOffset text p = min (start + (p.column - 1)) text.utf8ByteSize)) ∧
    (∀ (text : String) (e : LoadError), ∃ l, (ofLoadError text e).labels = [l] ∧
      l.offset + l.length ≤ text.utf8ByteSize ∧
      ∀ path p detail, e = .parse path p detail → l.offset = byteOffset text p) ∧
    ∀ (path loaded file : String) (p : Position) (detail : String),
      Dataset.parse path loaded = .error (.parse file p detail) →
      loaded.utf8ByteSize < Nat.pow 2 63 →
      ∀ (text : String) (start : Nat), text.utf8ByteSize < Nat.pow 2 63 →
        LineStart (bytes text) p.line start →
        start + (p.column - 1) < Nat.pow 2 64 ∧
          byteOffset text p = min (start + (p.column - 1)) text.utf8ByteSize := by
  refine ⟨fun text p => ?_, exists_label, ?_⟩
  · obtain ⟨start, only⟩ := exists_lineStart_iff (bytes text) p.line
    have line := (only start).mpr rfl
    exact ⟨start, line.le_size, only, byteOffset_eq_min line⟩
  · intro path loaded file p detail failed loadedSize text start size line
    have fits := fits_of_parse failed loadedSize size line
    exact ⟨fits, byteOffset_eq_min line fits⟩

/-- Reading stopped on the third line, and then the file is cut off in front of it. On the first line
even the greatest column is clamped. -/
theorem byteOffset_clamps_shrunk :
    Dataset.parse "data.json" "\n\n  ?" =
        .error (.parse "data.json" ⟨3, 3⟩ "expected value at line 3 column 3") ∧
      "\n\n  ?".utf8ByteSize < Nat.pow 2 63 ∧ "é\n".utf8ByteSize < Nat.pow 2 63 ∧
      LineStart (bytes "é\n") 3 3 ∧ 3 + (3 - 1) < Nat.pow 2 64 ∧
      byteOffset "é\n" ⟨3, 3⟩ = min (3 + (3 - 1)) "é\n".utf8ByteSize ∧
      0 + (18446744073709551615 - 1) < Nat.pow 2 64 ∧
      byteOffset "é\n" ⟨1, 18446744073709551615⟩ =
        min (0 + (18446744073709551615 - 1)) "é\n".utf8ByteSize := by
  have failed : Dataset.parse "data.json" "\n\n  ?" =
      .error (.parse "data.json" ⟨3, 3⟩ "expected value at line 3 column 3") := by decide +kernel
  have loadedSize : "\n\n  ?".utf8ByteSize < Nat.pow 2 63 := by decide +kernel
  have size : "é\n".utf8ByteSize < Nat.pow 2 63 := by decide +kernel
  have third : LineStart (bytes "é\n") 3 3 := .missing (by decide +kernel)
  have fits : 0 + (18446744073709551615 - 1) < Nat.pow 2 64 := by decide +kernel
  obtain ⟨clamps, -, reported⟩ := byteOffset_clamps
  obtain ⟨start, -, only, clamped⟩ := clamps "é\n" ⟨1, 18446744073709551615⟩
  obtain rfl : 0 = start := (only 0).mp (.first (Nat.le_refl 1))
  obtain ⟨sum, offset⟩ := reported _ _ _ _ _ failed loadedSize "é\n" 3 size third
  exact ⟨failed, loadedSize, size, third, sum, offset, fits, clamped fits⟩

/-- The second line is empty and starts at the end of the text. With the greatest column, which no
reading reports, the sum is no word: it begins at 0 again, and the label is not at the end. -/
theorem byteOffset_wraps :
    LineStart (bytes "a\n") 2 2 ∧ 18446744073709551615 < Nat.pow 2 64 ∧
      Nat.pow 2 64 ≤ 2 + (18446744073709551615 - 1) ∧
      byteOffset "a\n" ⟨2, 18446744073709551615⟩ = 0 ∧
      min (2 + (18446744073709551615 - 1)) "a\n".utf8ByteSize = 2 := by
  have parts : bytes "a\n" = [97] ++ lineFeed :: [] := by decide +kernel
  exact ⟨.behind parts, by decide +kernel, by decide +kernel, by decide +kernel, by decide +kernel⟩

end Phrasebook.Diagnostic
