import Phrasebook.Json.Skip
import Phrasebook.Text.Revealed

/-! # Readers

A reader takes a value of one kind from the front of a JSON text. It takes at least one character,
so reading the members of a list or an object one after the other comes to an end. A value of
another kind is read far enough to say in the fault what was found.
-/

namespace Phrasebook.Json

/-! ## Values of the wrong kind -/

/-- The fault of a value at the front that is not of the expected kind. -/
def mismatch (expected : String) (cs : List Char) : Fault :=
  let found (what : String) (rest : List Char) : Fault :=
    .before (.invalidType what expected) rest
  let word (letters : List Char) (what : String) (rest : List Char) : Fault :=
    match readWord letters rest with
    | .ok rest => found what rest
    | .error f => f
  let number (negative : Bool) (cs : List Char) : Fault :=
    match readNumber negative cs with
    | .ok (n, rest) => found n.describe rest
    | .error f => f
  match cs with
  | [] => .before .endInValue []
  | 'n' :: rest => word ['u', 'l', 'l'] "null" rest
  | 't' :: rest => word ['r', 'u', 'e'] "boolean `true`" rest
  | 'f' :: rest => word ['a', 'l', 's', 'e'] "boolean `false`" rest
  | '"' :: rest =>
    match readChars rest with
    | .ok (text, rest) => found ("string " ++ Text.reveal text) rest
    | .error f => f
  | '[' :: _ => found "sequence" cs
  | '\x7b' :: _ => found "map" cs
  | '-' :: rest => number true rest
  | c :: _ => if c.isDigit then number false cs else .inside .expectedValue cs

/-! ## Readers of one kind -/

/-- Takes a value from the front of a text and says what is left. -/
structure Reader (α : Type) where
  read : List Char → Except Fault (α × List Char)
  shrinks : ∀ {cs rest : List Char} {a : α}, read cs = .ok (a, rest) → rest.length < cs.length

namespace Reader

variable {α : Type}

def readString (cs : List Char) : Except Fault (String × List Char) :=
  match skipBlank cs with
  | '"' :: rest =>
    match readChars rest with
    | .ok (text, rest) => .ok (String.ofList text, rest)
    | .error f => .error f
  | start => .error (mismatch "a string" start)

/-- Reads the elements of a list up to its end; `first` says that none was read so far. -/
def readElements (item : Reader α) (first : Bool) (cs : List Char) :
    Except Fault (List α × List Char) :=
  match _h : nextElement? first cs with
  | .error f => .error f
  | .ok none => .ok ([], (skipBlank cs).tail)
  | .ok (some start) =>
    match _h' : item.read start with
    | .error f => .error f
    | .ok (x, rest) =>
      match readElements item false rest with
      | .error f => .error f
      | .ok (xs, rest) => .ok (x :: xs, rest)
termination_by cs.length
decreasing_by
  have := nextElement?_length_le ‹_›
  have := item.shrinks ‹_›
  omega

def readList (item : Reader α) (cs : List Char) : Except Fault (List α × List Char) :=
  match skipBlank cs with
  | '[' :: rest => readElements item true rest
  | start => .error (mismatch "a sequence" start)

/-- Reads the rest of a key behind its quote, and the colon. -/
def readKey (cs : List Char) : Except Fault (String × List Char) :=
  match readChars cs with
  | .error f => .error f
  | .ok (name, rest) => (readColon rest).map fun rest => (String.ofList name, rest)

theorem readKey_shrinks {cs rest : List Char} {name : String} (h : readKey cs = .ok (name, rest)) :
    rest.length < cs.length := by
  unfold readKey at h
  split at h
  · contradiction
  · rename_i text rest' hc
    have h1 := readChars_shrinks hc
    cases hr : readColon rest' with
    | error f => simp [hr, Except.map] at h
    | ok rest'' =>
        have h2 := readColon_shrinks hr
        simp only [hr, Except.map, Except.ok.injEq, Prod.mk.injEq] at h
        obtain ⟨-, rfl⟩ := h
        omega

/-- Reads the members of an object up to its end; `first` says that none was read so far. -/
def readMembers (value : Reader α) (first : Bool) (cs : List Char) :
    Except Fault (List (String × α) × List Char) :=
  match _h : nextKey? first cs with
  | .error f => .error f
  | .ok none => .ok ([], (skipBlank cs).tail)
  | .ok (some start) =>
    match _hk : readKey start with
    | .error f => .error f
    | .ok (name, rest) =>
      match _hv : value.read rest with
      | .error f => .error f
      | .ok (x, rest) =>
        match readMembers value false rest with
        | .error f => .error f
        | .ok (members, rest) => .ok ((name, x) :: members, rest)
termination_by cs.length
decreasing_by
  have := nextKey?_shrinks ‹_›
  have := readKey_shrinks ‹_›
  have := value.shrinks ‹_›
  omega

/-- Reads an object, whose members are of one kind. -/
def readObject (value : Reader α) (cs : List Char) :
    Except Fault (List (String × α) × List Char) :=
  match skipBlank cs with
  | '\x7b' :: rest => readMembers value true rest
  | start => .error (mismatch "a map" start)

theorem readString_shrinks {cs rest : List Char} {a : String}
    (h : readString cs = .ok (a, rest)) : rest.length < cs.length := by
  have hb := skipBlank_length_le cs
  unfold readString at h
  split at h
  · rename_i hs
    rw [hs, List.length_cons] at hb
    split at h
    · rename_i hc
      have := readChars_shrinks hc
      obtain ⟨-, rfl⟩ := Prod.mk.inj (Except.ok.inj h)
      omega
    · contradiction
  · contradiction

theorem readElements_length_le {item : Reader α} {first : Bool} {cs rest : List Char}
    {xs : List α} (h : readElements item first cs = .ok (xs, rest)) :
    rest.length ≤ cs.length := by
  fun_induction readElements item first cs generalizing xs rest with
  | case1 => contradiction
  | case2 first cs _ =>
      obtain ⟨-, rfl⟩ := Prod.mk.inj (Except.ok.inj h)
      have := skipBlank_length_le cs
      simp only [List.length_tail]
      omega
  | case3 => contradiction
  | case4 => contradiction
  | case5 first cs start hn x rest' hx xs' rest'' hr ih =>
      have h1 := nextElement?_length_le hn
      have h2 := item.shrinks hx
      have h3 := ih hr
      obtain ⟨-, rfl⟩ := Prod.mk.inj (Except.ok.inj h)
      omega

theorem readList_shrinks {item : Reader α} {cs rest : List Char} {xs : List α}
    (h : readList item cs = .ok (xs, rest)) : rest.length < cs.length := by
  have hb := skipBlank_length_le cs
  unfold readList at h
  split at h
  · rename_i hs
    rw [hs, List.length_cons] at hb
    have := readElements_length_le h
    omega
  · contradiction

theorem readMembers_length_le {value : Reader α} {first : Bool} {cs rest : List Char}
    {members : List (String × α)} (h : readMembers value first cs = .ok (members, rest)) :
    rest.length ≤ cs.length := by
  fun_induction readMembers value first cs generalizing members rest with
  | case1 => contradiction
  | case2 first cs _ =>
      obtain ⟨-, rfl⟩ := Prod.mk.inj (Except.ok.inj h)
      have := skipBlank_length_le cs
      simp only [List.length_tail]
      omega
  | case3 => contradiction
  | case4 => contradiction
  | case5 => contradiction
  | case6 first cs start hn name rest' hk x rest'' hv members' rest3 hr ih =>
      have h1 := nextKey?_shrinks hn
      have h2 := readKey_shrinks hk
      have h3 := value.shrinks hv
      have h4 := ih hr
      obtain ⟨-, rfl⟩ := Prod.mk.inj (Except.ok.inj h)
      omega

theorem readObject_shrinks {value : Reader α} {cs rest : List Char}
    {members : List (String × α)} (h : readObject value cs = .ok (members, rest)) :
    rest.length < cs.length := by
  have hb := skipBlank_length_le cs
  unfold readObject at h
  split at h
  · rename_i hs
    rw [hs, List.length_cons] at hb
    have := readMembers_length_le h
    omega
  · contradiction

def string : Reader String := ⟨readString, readString_shrinks⟩

def list (item : Reader α) : Reader (List α) := ⟨readList item, readList_shrinks⟩

/-- The reader of objects; a repeated name is kept, in the order of the text. -/
def object (value : Reader α) : Reader (List (String × α)) :=
  ⟨readObject value, readObject_shrinks⟩

/-- Reads a whole text, behind which nothing but blank characters may stand. -/
def readAll (r : Reader α) (text : String) : Except Fault α :=
  match r.read text.toList with
  | .error f => .error f
  | .ok (a, rest) => (finish rest).map fun _ => a

end Reader

end Phrasebook.Json
