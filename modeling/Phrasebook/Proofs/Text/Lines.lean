import Phrasebook.Text.Position

/-! # Lines of a text in bytes

Positions are kept by walking over the characters of a text; here they are said in terms of its bytes
alone, of which only the line feeds matter. A place in a text has as many lines in front of it as there
are line feeds, and its column is the number of bytes behind the last of them (`ofOffset_eq_stop`). A
line starts just behind a line feed (`LineStart`), and the place where the line of a position starts is
its column away from the position (`lineStart_stop`). The one thing to know about the encoding is
that a character other than the line feed holds no byte of that value.
-/

namespace Phrasebook.Text

/-- The bytes of a text. -/
def bytes (text : String) : List UInt8 := text.toByteArray.data.toList

/-- The byte that ends a line. -/
def lineFeed : UInt8 := 10

/-- The index just behind the last line feed, or 0 if there is none. -/
def behindLast : List UInt8 → Nat
  | [] => 0
  | b :: bs => if lineFeed ∈ bs then behindLast bs + 1 else if b = lineFeed then 1 else 0

/-- The position of a byte by the line feeds in front of it. -/
def Position.stop (text : String) (i : Nat) : Position :=
  ⟨1 + ((bytes text).take i).count lineFeed, i - behindLast ((bytes text).take i)⟩

/-- A line, counted from one, and the index at which it starts; a line that the bytes do not have
starts at their end. -/
inductive LineStart (bs : List UInt8) : (line index : Nat) → Prop
  | first {line : Nat} (h : line ≤ 1) : LineStart bs line 0
  | behind {before after : List UInt8} (h : bs = before ++ lineFeed :: after) :
      LineStart bs (before.count lineFeed + 2) (before.length + 1)
  | missing {line : Nat} (h : bs.count lineFeed + 1 < line) : LineStart bs line bs.length

/-! ## Bytes of characters -/

variable {c : Char} {cs : List Char} {xs ys bs : List UInt8}

theorem bytes_eq (text : String) : bytes text = text.toList.flatMap String.utf8EncodeChar := by
  have encoded : text.toByteArray = text.toList.utf8Encode := by
    rw [← String.toByteArray_ofList, String.ofList_toList]
  rw [bytes, encoded, List.utf8Encode, List.data_toByteArray]

theorem length_bytes (text : String) : (bytes text).length = text.utf8ByteSize := by
  rw [bytes, Array.length_toList]
  rfl

theorem encode_lineFeed : String.utf8EncodeChar '\n' = [lineFeed] := rfl

theorem lineFeed_ne_ofNat {n : Nat} (h : n % 256 ≠ 10) : lineFeed ≠ UInt8.ofNat n := by
  intro eq
  have value := congrArg UInt8.toNat eq
  rw [UInt8.toNat_ofNat'] at value
  exact h value.symm

/-- A byte with this value on its own is the line feed; all bytes of longer encodings are above
127. -/
theorem lineFeed_not_mem_encode (h : c ≠ '\n') : lineFeed ∉ String.utf8EncodeChar c := by
  have other : c.val.toNat ≠ 10 := fun eq => h (Char.ext (UInt32.toNat_inj.mp eq))
  unfold String.utf8EncodeChar
  dsimp only
  split
  · simp only [List.mem_cons, List.not_mem_nil, or_false]
    exact lineFeed_ne_ofNat (by omega)
  · split
    · simp only [List.mem_cons, List.not_mem_nil, or_false, not_or]
      exact ⟨lineFeed_ne_ofNat (by omega), lineFeed_ne_ofNat (by omega)⟩
    · split
      · simp only [List.mem_cons, List.not_mem_nil, or_false, not_or]
        exact ⟨lineFeed_ne_ofNat (by omega), lineFeed_ne_ofNat (by omega),
          lineFeed_ne_ofNat (by omega)⟩
      · simp only [List.mem_cons, List.not_mem_nil, or_false, not_or]
        exact ⟨lineFeed_ne_ofNat (by omega), lineFeed_ne_ofNat (by omega),
          lineFeed_ne_ofNat (by omega), lineFeed_ne_ofNat (by omega)⟩

/-! ## Line feeds -/

theorem behindLast_of_not_mem (h : lineFeed ∉ bs) : behindLast bs = 0 := by
  cases bs with
  | nil => rfl
  | cons b bs =>
      rw [List.mem_cons, not_or] at h
      rw [behindLast, if_neg h.2, if_neg (Ne.symm h.1)]

theorem behindLast_append (h : lineFeed ∉ ys) :
    behindLast (xs ++ lineFeed :: ys) = xs.length + 1 := by
  induction xs with
  | nil => rw [List.nil_append, behindLast, if_neg h, if_pos rfl, List.length_nil]
  | cons x xs ih =>
      rw [List.cons_append, behindLast, if_pos (by simp), ih, List.length_cons]

theorem exists_last_lineFeed (h : lineFeed ∈ bs) :
    ∃ xs ys, bs = xs ++ lineFeed :: ys ∧ lineFeed ∉ ys := by
  induction bs with
  | nil => simp at h
  | cons b bs ih =>
      by_cases later : lineFeed ∈ bs
      · obtain ⟨xs, ys, rfl, none⟩ := ih later
        exact ⟨b :: xs, ys, rfl, none⟩
      · obtain rfl := (List.mem_cons.mp h).resolve_right later
        exact ⟨[], bs, rfl, later⟩

/-! ## Positions -/

/-- The position behind a byte. -/
def Position.stepByte (p : Position) (b : UInt8) : Position :=
  if b = lineFeed then ⟨p.line + 1, 0⟩ else ⟨p.line, p.column + 1⟩

theorem foldl_stepByte_of_not_mem (p : Position) (h : lineFeed ∉ bs) :
    bs.foldl Position.stepByte p = ⟨p.line, p.column + bs.length⟩ := by
  induction bs generalizing p with
  | nil => rfl
  | cons b bs ih =>
      rw [List.mem_cons, not_or] at h
      rw [List.foldl_cons, ih _ h.2, Position.stepByte, if_neg (Ne.symm h.1), List.length_cons]
      simp only [Position.mk.injEq, true_and]
      omega

theorem line_foldl_stepByte (p : Position) (bs : List UInt8) :
    (bs.foldl Position.stepByte p).line = p.line + bs.count lineFeed := by
  induction bs generalizing p with
  | nil => rfl
  | cons b bs ih =>
      rw [List.foldl_cons, ih, List.count_cons, Position.stepByte]
      by_cases feed : b = lineFeed
      · simp only [feed, if_pos, beq_self_eq_true]
        omega
      · simp [feed]

theorem foldl_stepByte_encode (p : Position) (c : Char) :
    (String.utf8EncodeChar c).foldl Position.stepByte p = p.step c := by
  by_cases feed : c = '\n'
  · subst feed
    rfl
  · rw [foldl_stepByte_of_not_mem p (lineFeed_not_mem_encode feed), String.length_utf8EncodeChar,
      Position.step, if_neg feed]

theorem advance_eq (p : Position) (i : Nat) (cs : List Char) :
    p.advance i cs = ((cs.flatMap String.utf8EncodeChar).take i).foldl Position.stepByte p := by
  induction cs generalizing p i with
  | nil => simp [Position.advance]
  | cons c cs ih =>
      have size := String.length_utf8EncodeChar c
      rw [Position.advance, List.flatMap_cons, List.take_append, List.foldl_append, size]
      split
      · rename_i inside
        have rest : i - c.utf8Size = 0 := by omega
        have none : lineFeed ∉ (String.utf8EncodeChar c).take i := by
          by_cases feed : c = '\n'
          · subst feed
            obtain rfl : i = 0 := Nat.lt_one_iff.mp inside
            simp
          · exact fun mem => lineFeed_not_mem_encode feed (List.mem_of_mem_take mem)
        rw [rest, List.take_zero, List.foldl_nil, foldl_stepByte_of_not_mem p none,
          List.length_take, size, Nat.min_eq_left (Nat.le_of_lt inside)]
      · rename_i outside
        rw [List.take_of_length_le (by omega), foldl_stepByte_encode, ih]

theorem column_foldl_stepByte (bs : List UInt8) :
    (bs.foldl Position.stepByte .start).column = bs.length - behindLast bs := by
  by_cases h : lineFeed ∈ bs
  · obtain ⟨xs, ys, rfl, none⟩ := exists_last_lineFeed h
    rw [behindLast_append none, List.append_cons, List.foldl_append,
      foldl_stepByte_of_not_mem _ none, List.foldl_append]
    simp [Position.stepByte]
    omega
  · rw [foldl_stepByte_of_not_mem _ h, behindLast_of_not_mem h]
    simp [Position.start]

/-- The position of a byte offset is given by the line feeds in front of it. -/
theorem ofOffset_eq_stop {text : String} {i : Nat} (h : i ≤ text.utf8ByteSize) :
    Position.ofOffset text i = Position.stop text i := by
  have length : ((bytes text).take i).length = i := by
    rw [List.length_take, length_bytes, Nat.min_eq_left h]
  have line := line_foldl_stepByte .start ((bytes text).take i)
  have column := column_foldl_stepByte ((bytes text).take i)
  rw [length] at column
  rw [Position.ofOffset, advance_eq, ← bytes_eq]
  calc ((bytes text).take i).foldl Position.stepByte .start
    _ = ⟨(((bytes text).take i).foldl Position.stepByte .start).line,
          (((bytes text).take i).foldl Position.stepByte .start).column⟩ := rfl
    _ = Position.stop text i := by
      rw [line, column]
      rfl

theorem column_ofOffset_le {text : String} {i : Nat} (h : i ≤ text.utf8ByteSize) :
    (Position.ofOffset text i).column ≤ i := by
  rw [ofOffset_eq_stop h]
  exact Nat.sub_le i _

/-! ## Starts of lines -/

/-- The index just behind the first `n` line feeds, or the end if there are fewer. -/
def behindFeeds : (n : Nat) → List UInt8 → Nat
  | 0, _ => 0
  | _ + 1, [] => 0
  | n + 1, b :: bs => 1 + behindFeeds (if b = lineFeed then n else n + 1) bs

theorem exists_lineFeed_behind {n : Nat} (h : n < bs.count lineFeed) :
    ∃ xs ys, bs = xs ++ lineFeed :: ys ∧ xs.count lineFeed = n := by
  induction bs generalizing n with
  | nil => simp at h
  | cons b bs ih =>
      rw [List.count_cons] at h
      by_cases feed : b = lineFeed
      · cases n with
        | zero => exact ⟨[], bs, by rw [feed, List.nil_append], rfl⟩
        | succ n =>
            simp only [feed, beq_self_eq_true, if_true] at h
            obtain ⟨xs, ys, rfl, count⟩ := ih (by omega : n < bs.count lineFeed)
            exact ⟨b :: xs, ys, rfl, by simp [feed, count]⟩
      · simp only [feed, beq_iff_eq, if_false] at h
        obtain ⟨xs, ys, rfl, count⟩ := ih (by omega : n < bs.count lineFeed)
        exact ⟨b :: xs, ys, rfl, by simp [feed, count]⟩

theorem behindFeeds_append {n : Nat} (h : lineFeed ∉ xs) (bs : List UInt8) :
    behindFeeds (n + 1) (xs ++ bs) = xs.length + behindFeeds (n + 1) bs := by
  induction xs with
  | nil => simp
  | cons x xs ih =>
      rw [List.mem_cons, not_or] at h
      rw [List.cons_append, behindFeeds, if_neg (Ne.symm h.1), ih h.2, List.length_cons]
      omega

theorem behindFeeds_behind (xs ys : List UInt8) :
    behindFeeds (xs.count lineFeed + 1) (xs ++ lineFeed :: ys) = xs.length + 1 := by
  induction xs with
  | nil => simp [behindFeeds]
  | cons x xs ih =>
      rw [List.cons_append, behindFeeds, List.count_cons]
      by_cases feed : x = lineFeed
      · rw [if_pos feed]
        simp [feed, ih]
        omega
      · rw [if_neg feed]
        simp [feed, ih]
        omega

theorem behindFeeds_missing {n : Nat} (h : bs.count lineFeed < n) :
    behindFeeds n bs = bs.length := by
  induction bs generalizing n with
  | nil => cases n <;> rfl
  | cons b bs ih =>
      obtain ⟨n, rfl⟩ := Nat.exists_eq_add_one_of_ne_zero (Nat.ne_of_gt (Nat.zero_lt_of_lt h))
      rw [List.count_cons] at h
      rw [behindFeeds, List.length_cons]
      by_cases feed : b = lineFeed
      · simp only [feed, beq_self_eq_true, if_true] at h
        rw [if_pos feed, ih (by omega)]
        omega
      · simp only [feed, beq_iff_eq, if_false] at h
        rw [if_neg feed, ih (by omega)]
        omega

/-- Each line starts at one index, which is found by passing the line feeds in front of it. -/
theorem lineStart_iff {line index : Nat} :
    LineStart bs line index ↔ index = behindFeeds (line - 1) bs := by
  constructor
  · rintro (first | eq | missing)
    · rw [Nat.sub_eq_zero_of_le first, behindFeeds]
    · rw [eq]
      exact (behindFeeds_behind _ _).symm
    · exact (behindFeeds_missing (by omega)).symm
  · rintro rfl
    by_cases early : line ≤ 1
    · rw [Nat.sub_eq_zero_of_le early, behindFeeds]
      exact .first early
    · by_cases late : bs.count lineFeed + 1 < line
      · rw [behindFeeds_missing (by omega)]
        exact .missing late
      · obtain ⟨xs, ys, rfl, count⟩ :=
          exists_lineFeed_behind (by omega : line - 2 < bs.count lineFeed)
        obtain rfl : line = xs.count lineFeed + 2 := by omega
        show LineStart _ _ (behindFeeds (xs.count lineFeed + 1) _)
        rw [behindFeeds_behind]
        exact .behind rfl

/-- Each line starts at exactly one index. -/
theorem exists_lineStart_iff (bs : List UInt8) (line : Nat) :
    ∃ start, ∀ index, LineStart bs line index ↔ index = start :=
  ⟨behindFeeds (line - 1) bs, fun _ => lineStart_iff⟩

theorem LineStart.le_length {line index : Nat} (h : LineStart bs line index) :
    index ≤ bs.length := by
  cases h with
  | first => exact Nat.zero_le _
  | behind h =>
      rw [h, List.length_append, List.length_cons]
      omega
  | missing => exact Nat.le_refl _

theorem LineStart.le_size {text : String} {line index : Nat}
    (h : LineStart (bytes text) line index) : index ≤ text.utf8ByteSize := by
  rw [← length_bytes]
  exact h.le_length

theorem behindLast_le (bs : List UInt8) : behindLast bs ≤ bs.length := by
  by_cases h : lineFeed ∈ bs
  · obtain ⟨xs, ys, rfl, none⟩ := exists_last_lineFeed h
    rw [behindLast_append none, List.length_append, List.length_cons]
    omega
  · rw [behindLast_of_not_mem h]
    exact Nat.zero_le _

/-- The line of a position starts behind the last line feed in front of the position. -/
theorem lineStart_stop (text : String) (i : Nat) :
    LineStart (bytes text) (Position.stop text i).line (behindLast ((bytes text).take i)) := by
  by_cases h : lineFeed ∈ (bytes text).take i
  · obtain ⟨xs, ys, taken, none⟩ := exists_last_lineFeed h
    have parts : bytes text = xs ++ lineFeed :: (ys ++ (bytes text).drop i) := by
      rw [← List.cons_append, ← List.append_assoc, ← taken, List.take_append_drop]
    have line : (Position.stop text i).line = xs.count lineFeed + 2 := by
      show 1 + ((bytes text).take i).count lineFeed = _
      rw [taken, List.count_append, List.count_cons_self, List.count_eq_zero_of_not_mem none]
      omega
    rw [line, taken, behindLast_append none]
    exact .behind parts
  · rw [behindLast_of_not_mem h]
    apply LineStart.first
    have none : ((bytes text).take i).count lineFeed = 0 := List.count_eq_zero_of_not_mem h
    show 1 + ((bytes text).take i).count lineFeed ≤ 1
    omega

end Phrasebook.Text
