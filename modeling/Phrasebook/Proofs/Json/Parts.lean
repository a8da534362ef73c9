import Phrasebook.Proofs.Json.Written

/-! # Reading parts of several kinds

The members of an object need not be of one kind. What kind of part stands at the front of a text is
known from its first character, so texts, truth values and rows of texts can be told apart, and they
are read back as they were written (`undoes_part`).
-/

namespace Phrasebook.Json

/-- A member of an object: a text, a truth value, or objects whose members are texts. -/
inductive Part where
  | text (s : String)
  | truth (b : Bool)
  | rows (items : List (List (String × String)))

namespace Part

def rowValue (row : List (String × String)) : Value :=
  .object (row.map fun m => (m.1, .string m.2))

/-- A part as a value to be written. -/
def toValue : Part → Value
  | .text s => .string s
  | .truth b => .bool b
  | .rows items => .list (items.map rowValue)

end Part

namespace Reader

def row : Reader (List (String × String)) := object string

def readPart (cs : List Char) : Except Fault (Part × List Char) :=
  match skipBlank cs with
  | 't' :: rest => (readWord ['r', 'u', 'e'] rest).map fun rest => (.truth true, rest)
  | 'f' :: rest => (readWord ['a', 'l', 's', 'e'] rest).map fun rest => (.truth false, rest)
  | '[' :: rest => ((list row).read ('[' :: rest)).map fun p => (.rows p.1, p.2)
  | start => (string.read start).map fun p => (.text p.1, p.2)

theorem exists_of_map_eq_ok {ε α β : Type} {x : Except ε α} {f : α → β} {b : β}
    (h : x.map f = .ok b) : ∃ a, x = .ok a ∧ f a = b := by
  cases x with
  | error e => contradiction
  | ok a => exact ⟨a, rfl, Except.ok.inj h⟩

theorem readPart_shrinks {cs rest : List Char} {p : Part} (h : readPart cs = .ok (p, rest)) :
    rest.length < cs.length := by
  have blank := skipBlank_length_le cs
  unfold readPart at h
  split at h
  · rename_i start eq
    obtain ⟨rest', word, same⟩ := exists_of_map_eq_ok h
    obtain ⟨-, rfl⟩ := Prod.mk.inj same
    have := readWord_length_le word
    rw [eq, List.length_cons] at blank
    omega
  · rename_i start eq
    obtain ⟨rest', word, same⟩ := exists_of_map_eq_ok h
    obtain ⟨-, rfl⟩ := Prod.mk.inj same
    have := readWord_length_le word
    rw [eq, List.length_cons] at blank
    omega
  · rename_i start eq
    obtain ⟨p', read, same⟩ := exists_of_map_eq_ok h
    obtain ⟨-, rfl⟩ := Prod.mk.inj same
    have := (list row).shrinks read
    rw [eq] at blank
    omega
  · obtain ⟨p', read, same⟩ := exists_of_map_eq_ok h
    obtain ⟨-, rfl⟩ := Prod.mk.inj same
    have := string.shrinks read
    omega

def part : Reader Part := ⟨readPart, readPart_shrinks⟩

theorem undoes_row (level : Nat) : row.Undoes fun r => (Part.rowValue r).prettyAt level :=
  undoes_prettyObject undoes_quote

theorem readPart_quote {cs start : List Char} (h : skipBlank cs = '"' :: start) :
    readPart cs = (string.read ('"' :: start)).map fun p => (.text p.1, p.2) := by
  rw [readPart, h]
  rfl

theorem readPart_bracket {cs start : List Char} (h : skipBlank cs = '[' :: start) :
    readPart cs = ((list row).read ('[' :: start)).map fun p => (.rows p.1, p.2) := by
  rw [readPart, h]
  rfl

theorem undoes_part (level : Nat) : part.Undoes fun p => p.toValue.prettyAt level where
  read p gap rest hg := by
    cases p with
    | text s =>
        have text := quote_append s rest
        have read := undoes_quote.read_append s rest
        show readPart (gap ++ (quote s ++ rest)) = _
        rw [text] at read ⊢
        rw [readPart_quote (skipBlank_append_cons hg rfl), read]
        rfl
    | truth b =>
        cases b with
        | true =>
            have start : skipBlank (gap ++ ('t' :: 'r' :: 'u' :: 'e' :: rest)) =
                't' :: 'r' :: 'u' :: 'e' :: rest := skipBlank_append_cons hg rfl
            show readPart (gap ++ ('t' :: 'r' :: 'u' :: 'e' :: rest)) = _
            rw [readPart, start]
            rfl
        | false =>
            have start : skipBlank (gap ++ ('f' :: 'a' :: 'l' :: 's' :: 'e' :: rest)) =
                'f' :: 'a' :: 'l' :: 's' :: 'e' :: rest := skipBlank_append_cons hg rfl
            show readPart (gap ++ ('f' :: 'a' :: 'l' :: 's' :: 'e' :: rest)) = _
            rw [readPart, start]
            rfl
    | rows items =>
        have undoes := undoes_prettyList (undoes_row (level + 1))
        obtain ⟨start, text⟩ : ∃ start,
            (Value.list (items.map Part.rowValue)).prettyAt level ++ rest = '[' :: start := by
          cases items with
          | nil => exact ⟨_, rfl⟩
          | cons item items => exact ⟨_, rfl⟩
        have read := undoes.read_append items rest
        show readPart (gap ++ ((Value.list (items.map Part.rowValue)).prettyAt level ++ rest)) = _
        rw [text] at read ⊢
        rw [readPart_bracket (skipBlank_append_cons hg rfl), read]
        rfl
  solid p := by
    cases p with
    | text s => exact undoes_quote.solid s
    | truth b =>
        cases b with
        | true => exact ⟨'t', _, rfl, rfl, by decide⟩
        | false => exact ⟨'f', _, rfl, rfl, by decide⟩
    | rows items => exact (undoes_prettyList (undoes_row (level + 1))).solid items

end Reader

end Phrasebook.Json
