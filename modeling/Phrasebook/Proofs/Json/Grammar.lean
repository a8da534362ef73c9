import Phrasebook.Json.Reader

/-! # The texts of a value

A value has many texts: blank characters may stand around its parts, and a character of a string may
be spelled in several ways. `Spelled`, `ListText` and `ObjectText` say which texts a string, a list
and an object have, over the texts of their parts. A reader that takes all texts of the parts takes all
texts of the lists and of the objects (`Reader.takes_listText`, `Reader.takes_objectText`), and gives
back the parts in their order. The induction is on the text, and is made once for all that is read of
elements (`Elements.read`); what it carries along is what stands in front of the next part, nothing or
a comma.
-/

namespace Phrasebook.Json

/-! ## Blank characters -/

def Blank (gap : List Char) : Prop := ∀ c ∈ gap, isBlank c = true

/-- Text that begins with neither a blank character nor the end of a list. -/
def Solid (cs : List Char) : Prop := ∃ c tail, cs = c :: tail ∧ isBlank c = false ∧ c ≠ ']'

variable {gap close cs start mid rest : List Char}

theorem blank_nil : Blank [] := by simp [Blank]

theorem Solid.append (h : Solid cs) (more : List Char) : Solid (cs ++ more) := by
  obtain ⟨c, tail, rfl, hc, ne⟩ := h
  exact ⟨c, tail ++ more, rfl, hc, ne⟩

theorem skipBlank_append (h : Blank gap) (cs : List Char) :
    skipBlank (gap ++ cs) = skipBlank cs := List.dropWhile_append_of_pos h

theorem skipBlank_cons {c : Char} (h : isBlank c = false) (cs : List Char) :
    skipBlank (c :: cs) = c :: cs := List.dropWhile_cons_of_neg (by simp [h])

theorem skipBlank_append_cons {c : Char} (hg : Blank gap) (hc : isBlank c = false) :
    skipBlank (gap ++ c :: cs) = c :: cs := by
  rw [skipBlank_append hg, skipBlank_cons hc]

theorem readColon_blank (h : Blank gap) (rest : List Char) :
    readColon (gap ++ ':' :: rest) = .ok rest := by
  have start : skipBlank (gap ++ ':' :: rest) = ':' :: rest := skipBlank_append_cons h rfl
  simp only [readColon, start]

theorem finish_of_blank (h : Blank gap) : finish gap = .ok () := by
  have rest : skipBlank gap = [] := by
    rw [← List.append_nil gap, skipBlank_append h]
    rfl
  simp only [finish, rest]

/-! ## The starts of elements and keys -/

/-- What stands in front of the first part, and of each part behind it. -/
inductive Lead : (first : Bool) → List Char → Prop
  | start : Lead true []
  | comma {gap : List Char} (h : Blank gap) : Lead false (gap ++ [','])

variable {first : Bool} {lead : List Char}

theorem nextElement?_lead (hl : Lead first lead) (hg : Blank gap) (h : Solid cs) :
    nextElement? first (lead ++ (gap ++ cs)) = .ok (some cs) := by
  obtain ⟨c, tail, rfl, hc, ne⟩ := h
  cases hl with
  | start =>
      rw [List.nil_append]
      simp [nextElement?, skipBlank_append_cons hg hc]
  | @comma before hb =>
      have comma : skipBlank (before ++ ',' :: (gap ++ c :: tail)) = ',' :: (gap ++ c :: tail) :=
        skipBlank_append_cons hb rfl
      rw [List.append_assoc, List.singleton_append]
      simp [nextElement?, comma, skipBlank_append_cons hg hc, ne]

theorem nextElement?_close (hc : Blank close) (first : Bool) (rest : List Char) :
    nextElement? first (close ++ ']' :: rest) = .ok none := by
  have stop : skipBlank (close ++ ']' :: rest) = ']' :: rest := skipBlank_append_cons hc rfl
  simp [nextElement?, stop]

theorem nextKey?_lead (hl : Lead first lead) (hg : Blank gap) (cs : List Char) :
    nextKey? first (lead ++ (gap ++ '"' :: cs)) = .ok (some cs) := by
  have start : skipBlank (gap ++ '"' :: cs) = '"' :: cs := skipBlank_append_cons hg rfl
  cases hl with
  | start =>
      rw [List.nil_append]
      simp [nextKey?, start]
  | @comma before hb =>
      have comma : skipBlank (before ++ ',' :: (gap ++ '"' :: cs)) = ',' :: (gap ++ '"' :: cs) :=
        skipBlank_append_cons hb rfl
      rw [List.append_assoc, List.singleton_append]
      simp [nextKey?, comma, start]

theorem nextKey?_close (hc : Blank close) (first : Bool) (rest : List Char) :
    nextKey? first (close ++ '\x7d' :: rest) = .ok none := by
  have stop : skipBlank (close ++ '\x7d' :: rest) = '\x7d' :: rest := skipBlank_append_cons hc rfl
  simp [nextKey?, stop]

/-! ## Strings -/

/-- What may be written between the quotes of a text: a character that needs no escape as it is, a
character with a short form by a letter, and any other by its unit or by a pair of units. -/
inductive Spelled : (written text : List Char) → Prop
  | nil : Spelled [] []
  | plain {c : Char} {written text : List Char} (noQuote : c ≠ '"') (noBackslash : c ≠ '\\')
      (noControl : isControl c = false) (h : Spelled written text) :
      Spelled (c :: written) (c :: text)
  | short {d c : Char} {written text : List Char} (letter : shortEscape? d = some c)
      (h : Spelled written text) : Spelled ('\\' :: d :: written) (c :: text)
  | unit {a b c d : Char} {n : Nat} {written text : List Char} (unit : hexUnit? a b c d = some n)
      (noLeading : isLeading n = false) (noTrailing : isTrailing n = false)
      (h : Spelled written text) :
      Spelled ('\\' :: 'u' :: a :: b :: c :: d :: written) (Char.ofNat n :: text)
  | pair {a b c d a' b' c' d' : Char} {n m : Nat} {written text : List Char}
      (leading : hexUnit? a b c d = some n) (isLeading : isLeading n = true)
      (trailing : hexUnit? a' b' c' d' = some m) (isTrailing : isTrailing m = true)
      (h : Spelled written text) :
      Spelled ('\\' :: 'u' :: a :: b :: c :: d :: '\\' :: 'u' :: a' :: b' :: c' :: d' :: written)
        (pairChar n m :: text)

variable {c : Char} {text written : List Char}

theorem byteCount_cons (c : Char) (cs : List Char) :
    byteCount (c :: cs) = c.utf8Size + byteCount cs := by
  have shift (start : Nat) (cs : List Char) :
      cs.foldl (fun count c => count + c.utf8Size) start = start + byteCount cs := by
    induction cs generalizing start with
    | nil => rfl
    | cons c cs ih =>
        have counted := ih (0 + c.utf8Size)
        rw [byteCount, List.foldl_cons, List.foldl_cons, ih, counted]
        omega
  rw [byteCount, List.foldl_cons, shift, Nat.zero_add]

theorem readHexUnit_of_hexUnit? {a b c d : Char} {n : Nat} (h : hexUnit? a b c d = some n)
    (rest : List Char) : readHexUnit (a :: b :: c :: d :: rest) = .ok (n, rest) := by
  have enough : ¬ byteCount (a :: b :: c :: d :: rest) < 4 := by
    have := a.utf8Size_pos
    have := b.utf8Size_pos
    have := c.utf8Size_pos
    have := d.utf8Size_pos
    rw [byteCount_cons, byteCount_cons, byteCount_cons, byteCount_cons]
    omega
  rw [readHexUnit, if_neg enough]
  simp only [h]

theorem readChars_of_readEscape (escaped : readEscape cs = .ok (c, mid))
    (h : readChars mid = .ok (text, rest)) :
    readChars ('\\' :: cs) = .ok (c :: text, rest) := by
  rw [readChars]
  split
  · simp_all
  · simp_all

theorem readChars_of_plain (noQuote : c ≠ '"') (noBackslash : c ≠ '\\')
    (noControl : isControl c = false) (h : readChars mid = .ok (text, rest)) :
    readChars (c :: mid) = .ok (c :: text, rest) := by
  rw [readChars]
  · simp [noControl, h]
  · exact noQuote
  · exact noBackslash

theorem readEscape_short {d : Char} (letter : shortEscape? d = some c) (rest : List Char) :
    readEscape (d :: rest) = .ok (c, rest) := by
  have noUnicode : d ≠ 'u' := by
    rintro rfl
    have none : shortEscape? 'u' = none := rfl
    rw [none] at letter
    contradiction
  rw [readEscape.eq_def]
  split
  · contradiction
  · simp_all
  · simp_all

/-- Between quotes every spelling of a text is read as that text. -/
theorem readChars_of_spelled (h : Spelled written text) (rest : List Char) :
    readChars (written ++ '"' :: rest) = .ok (text, rest) := by
  induction h with
  | nil => rw [List.nil_append, readChars]
  | plain noQuote noBackslash noControl _ ih =>
      exact readChars_of_plain noQuote noBackslash noControl ih
  | short letter _ ih => exact readChars_of_readEscape (readEscape_short letter _) ih
  | @unit a b c d n written text unit noLeading noTrailing _ ih =>
      refine readChars_of_readEscape ?_ ih
      have read := readHexUnit_of_hexUnit? unit (written ++ '"' :: rest)
      simp [readEscape, readUnicode, read, bind, Except.bind, noLeading, noTrailing]
  | @pair a b c d a' b' c' d' n m written text leading isLeading trailing isTrailing _ ih =>
      refine readChars_of_readEscape ?_ ih
      have noTrailing : Json.isTrailing n = false := by
        simp only [Json.isLeading, Bool.and_eq_true, decide_eq_true_eq] at isLeading
        simp only [Json.isTrailing, Bool.and_eq_false_iff, decide_eq_false_iff_not]
        omega
      have read := readHexUnit_of_hexUnit? leading
        ('\\' :: 'u' :: a' :: b' :: c' :: d' :: (written ++ '"' :: rest))
      have read' := readHexUnit_of_hexUnit? trailing (written ++ '"' :: rest)
      simp [readEscape, readUnicode, read, read', readPairLink, bind, Except.bind, isLeading,
        isTrailing, noTrailing]

/-! ## Lists and objects -/

section Texts

variable {α : Type}

/-- Parts in their order, with commas between them and blank characters around each. -/
inductive Elements (Part : α → List Char → Prop) : List α → List Char → Prop
  | last {a : α} {before part after : List Char} (hb : Blank before) (h : Part a part)
      (ha : Blank after) : Elements Part [a] (before ++ (part ++ after))
  | cons {a : α} {as : List α} {before part after more : List Char} (hb : Blank before)
      (h : Part a part) (ha : Blank after) (hm : Elements Part as more) :
      Elements Part (a :: as) (before ++ (part ++ (after ++ ',' :: more)))

/-- No part or more between two signs. -/
inductive Enclosed (opening closing : Char) (Part : α → List Char → Prop) :
    List α → List Char → Prop
  | empty {gap : List Char} (h : Blank gap) :
      Enclosed opening closing Part [] (opening :: (gap ++ [closing]))
  | full {as : List α} {parts : List Char} (h : Elements Part as parts) :
      Enclosed opening closing Part as (opening :: (parts ++ [closing]))

/-- The texts of a string. -/
def StringText (text : String) (cs : List Char) : Prop :=
  ∃ written, Spelled written text.toList ∧ cs = '"' :: (written ++ ['"'])

/-- The texts of a list, over the texts of its elements. -/
def ListText (Part : α → List Char → Prop) : List α → List Char → Prop := Enclosed '[' ']' Part

/-- The texts of a name and its value. -/
def MemberText (Part : α → List Char → Prop) (member : String × α) (cs : List Char) : Prop :=
  ∃ key before after value, StringText member.1 key ∧ Blank before ∧ Blank after ∧
    Part member.2 value ∧ cs = key ++ (before ++ ':' :: (after ++ value))

/-- The texts of an object, over the texts of its values. -/
def ObjectText (Part : α → List Char → Prop) : List (String × α) → List Char → Prop :=
  Enclosed '\x7b' '\x7d' (MemberText Part)

/-- A text with blank characters around it. -/
def Framed (Text : List Char → Prop) (text : String) : Prop :=
  ∃ before cs after, Blank before ∧ Text cs ∧ Blank after ∧
    text.toList = before ++ (cs ++ after)

theorem cons_append_singleton (opening closing : Char) (cs rest : List Char) :
    opening :: (cs ++ [closing]) ++ rest = opening :: (cs ++ closing :: rest) := by simp

/-- What is read of the elements of a text: it is enough to know what is read at their end, and what
one part more in front of others does. -/
theorem Elements.read {Part : α → List Char → Prop} {R : Bool → List Char → List α → Prop}
    {as : List α} (h : Elements Part as cs) (hl : Lead first lead)
    (close : ∀ gap, Blank gap → R false (gap ++ rest) [])
    (part : ∀ {first lead before part after a as}, Lead first lead → Blank before → Part a part →
      R false after as → R first (lead ++ (before ++ (part ++ after))) (a :: as)) :
    R first (lead ++ (cs ++ rest)) as := by
  induction h generalizing first lead with
  | @last a before inner after hb h ha =>
      have text : before ++ (inner ++ after) ++ rest = before ++ (inner ++ (after ++ rest)) := by
        simp
      rw [text]
      exact part hl hb h (close after ha)
  | @cons a as before inner after more hb h ha _ ih =>
      have text : before ++ (inner ++ (after ++ ',' :: more)) ++ rest =
          before ++ (inner ++ (after ++ [','] ++ (more ++ rest))) := by simp
      rw [text]
      exact part hl hb h (ih (.comma ha))

end Texts

namespace Reader

variable {α : Type} {r item value : Reader α} {Part : α → List Char → Prop} {a : α}
  {as : List α} {members : List (String × α)}

/-- The reader takes the texts of its values, with blank characters in front and anything behind. -/
structure Takes (r : Reader α) (Part : α → List Char → Prop) : Prop where
  read : ∀ {a : α} {cs : List Char}, Part a cs → ∀ {gap : List Char}, Blank gap →
    ∀ rest, r.read (gap ++ (cs ++ rest)) = .ok (a, rest)
  solid : ∀ {a : α} {cs : List Char}, Part a cs → Solid cs

theorem takes_stringText : string.Takes StringText where
  read := by
    rintro text cs ⟨written, spelled, rfl⟩ gap hg rest
    have start : skipBlank (gap ++ ('"' :: (written ++ ['"']) ++ rest)) =
        '"' :: (written ++ '"' :: rest) := by
      rw [cons_append_singleton]
      exact skipBlank_append_cons hg rfl
    simp only [string, readString, start, readChars_of_spelled spelled, String.ofList_toList]
  solid := by
    rintro text cs ⟨written, -, rfl⟩
    exact ⟨'"', _, rfl, rfl, by decide⟩

theorem readElements_close (hc : Blank close) (first : Bool) (rest : List Char) :
    readElements item first (close ++ ']' :: rest) = .ok ([], rest) := by
  have stop : skipBlank (close ++ ']' :: rest) = ']' :: rest := skipBlank_append_cons hc rfl
  rw [readElements, nextElement?_close hc, stop]
  rfl

theorem readElements_cons (next : nextElement? first cs = .ok (some start))
    (head : item.read start = .ok (a, mid))
    (h : readElements item false mid = .ok (as, rest)) :
    readElements item first cs = .ok (a :: as, rest) := by
  rw [readElements, next]
  dsimp only
  rw [head]
  dsimp only
  rw [h]

theorem readElements_of_elements (takes : item.Takes Part) (h : Elements Part as cs)
    (hl : Lead first lead) (rest : List Char) :
    readElements item first (lead ++ (cs ++ ']' :: rest)) = .ok (as, rest) := by
  apply h.read (R := fun first cs as => readElements item first cs = .ok (as, rest)) hl
  · intro gap hg
    exact readElements_close hg false rest
  · intro first lead before part after a as hl hb h others
    exact readElements_cons (nextElement?_lead hl hb ((takes.solid h).append _))
      (takes.read h blank_nil _) others

theorem takes_listText (takes : item.Takes Part) : (list item).Takes (ListText Part) where
  read := by
    intro as cs h gap hg rest
    have start (cs : List Char) :
        readList item (gap ++ '[' :: cs) = readElements item true cs := by
      have bracket : skipBlank (gap ++ '[' :: cs) = '[' :: cs := skipBlank_append_cons hg rfl
      simp only [readList, bracket]
    show readList item _ = _
    cases h with
    | empty hi =>
        rw [cons_append_singleton, start]
        exact readElements_close hi true rest
    | full h =>
        rw [cons_append_singleton, start]
        exact readElements_of_elements takes h .start rest
  solid := by
    rintro as cs (hi | h)
    · exact ⟨'[', _, rfl, rfl, by decide⟩
    · exact ⟨'[', _, rfl, rfl, by decide⟩

theorem readMembers_close (hc : Blank close) (first : Bool) (rest : List Char) :
    readMembers value first (close ++ '\x7d' :: rest) = .ok ([], rest) := by
  have stop : skipBlank (close ++ '\x7d' :: rest) = '\x7d' :: rest := skipBlank_append_cons hc rfl
  rw [readMembers, nextKey?_close hc, stop]
  rfl

theorem readMembers_cons {name : String} {behind : List Char}
    (next : nextKey? first cs = .ok (some start)) (key : readKey start = .ok (name, mid))
    (head : value.read mid = .ok (a, behind))
    (h : readMembers value false behind = .ok (members, rest)) :
    readMembers value first cs = .ok ((name, a) :: members, rest) := by
  rw [readMembers, next]
  dsimp only
  rw [key]
  dsimp only
  rw [head]
  dsimp only
  rw [h]

theorem readKey_of_spelled {name : String} (h : Spelled written name.toList) (hg : Blank gap)
    (rest : List Char) :
    readKey (written ++ '"' :: (gap ++ ':' :: rest)) = .ok (name, rest) := by
  simp only [readKey, readChars_of_spelled h, readColon_blank hg, Except.map,
    String.ofList_toList]

/-- One member, up to what stands behind it. -/
theorem readMembers_member {before part after : List Char} {member : String × α}
    (takes : value.Takes Part) (hl : Lead first lead) (hb : Blank before)
    (h : MemberText Part member part)
    (others : readMembers value false after = .ok (members, rest)) :
    readMembers value first (lead ++ (before ++ (part ++ after))) =
      .ok (member :: members, rest) := by
  obtain ⟨key, front, back, cs, ⟨written, spelled, rfl⟩, hf, hk, h, rfl⟩ := h
  have text : '"' :: (written ++ ['"']) ++ (front ++ ':' :: (back ++ cs)) ++ after =
      '"' :: (written ++ '"' :: (front ++ ':' :: (back ++ (cs ++ after)))) := by simp
  rw [text]
  exact readMembers_cons (nextKey?_lead hl hb _) (readKey_of_spelled spelled hf _)
    (takes.read h hk _) others

theorem readMembers_of_elements (takes : value.Takes Part)
    (h : Elements (MemberText Part) members cs) (hl : Lead first lead) (rest : List Char) :
    readMembers value first (lead ++ (cs ++ '\x7d' :: rest)) = .ok (members, rest) := by
  apply h.read (R := fun first cs members => readMembers value first cs = .ok (members, rest)) hl
  · intro gap hg
    exact readMembers_close hg false rest
  · intro first lead before part after member members hl hb h others
    exact readMembers_member takes hl hb h others

theorem takes_objectText (takes : value.Takes Part) :
    (object value).Takes (ObjectText Part) where
  read := by
    intro members cs h gap hg rest
    have start (cs : List Char) :
        readObject value (gap ++ '\x7b' :: cs) = readMembers value true cs := by
      have brace : skipBlank (gap ++ '\x7b' :: cs) = '\x7b' :: cs := skipBlank_append_cons hg rfl
      simp only [readObject, brace]
    show readObject value _ = _
    cases h with
    | empty hi =>
        rw [cons_append_singleton, start]
        exact readMembers_close hi true rest
    | full h =>
        rw [cons_append_singleton, start]
        exact readMembers_of_elements takes h .start rest
  solid := by
    rintro members cs (hi | h)
    · exact ⟨'\x7b', _, rfl, rfl, by decide⟩
    · exact ⟨'\x7b', _, rfl, rfl, by decide⟩

theorem readAll_of_takes {text : String} (takes : r.Takes Part) (h : Framed (Part a) text) :
    r.readAll text = .ok a := by
  obtain ⟨before, cs, after, hb, h, ha, eq⟩ := h
  simp only [readAll, eq, takes.read h hb, finish_of_blank ha, Except.map]

end Reader

end Phrasebook.Json
