import Phrasebook.Dataset
import Phrasebook.Json.Reader
import Phrasebook.Json.Value

/-! # Datasets as JSON

A dataset is written as an object with the fields `templates` and `assets`. It is read from such an
object, its fields in any order and unknown ones skipped, or from a list of the two values. Neither
field may be missing or given twice. A placeholder that is given twice keeps its last candidates.
-/

namespace Phrasebook

open Phrasebook.Json

namespace Assets

def toValue (a : Assets) : Value := .object (a.entries.map fun e => (e.1, Value.strings e.2))

/-- Reads assets from the front of a text. -/
def read (cs : List Char) : Except Fault (Assets × List Char) :=
  match (Reader.object (.list .string)).read cs with
  | .error f => .error f
  | .ok (members, rest) => .ok (ofList members, rest)

theorem read_shrinks {cs rest : List Char} {a : Assets} (h : read cs = .ok (a, rest)) :
    rest.length < cs.length := by
  unfold read at h
  split at h
  · contradiction
  · rename_i hr
    obtain ⟨-, rfl⟩ := Prod.mk.inj (Except.ok.inj h)
    exact (Reader.object _).shrinks hr

def reader : Reader Assets := ⟨read, read_shrinks⟩

/-- The assets that a whole text describes. -/
def ofJson (text : String) : Except Fault Assets := reader.readAll text

end Assets

namespace Dataset

def toValue (d : Dataset) : Value :=
  .object [("templates", .strings d.templates), ("assets", d.assets.toValue)]

/-- What is expected where a dataset is read. -/
def expected : String := "struct Dataset"

def fieldCount : Nat := 2

/-- What is expected of a list of the fields. -/
def expectedLength : String := expected ++ " with " ++ toString fieldCount ++ " elements"

/-- The fields read so far. -/
structure Fields where
  templates : Option (List String) := none
  assets : Option Assets := none

namespace Fields

/-- The dataset, or the name of the first field that is missing. -/
def complete (f : Fields) : Except String Dataset :=
  match f.templates, f.assets with
  | none, _ => .error "templates"
  | some _, none => .error "assets"
  | some templates, some assets => .ok ⟨templates, assets⟩

end Fields

/-- Where an object with a fault in its fields is left: behind its end, if it ends there. -/
def leaveObject (cs : List Char) : List Char :=
  match skipBlank cs with
  | '\x7d' :: rest => rest
  | rest => rest

/-- Where a list of too few values is left. -/
def leaveList (cs : List Char) : List Char := (skipBlank cs).tail

/-- The fault of a field that is given twice; it is found in front of the colon. -/
def duplicate (name : String) (cs : List Char) : Fault :=
  .before (.duplicateField name) (leaveObject cs)

/-- Reads the value of a field behind its name. -/
def readField (f : Fields) (name : String) (cs : List Char) : Except Fault (Fields × List Char) :=
  if name = "templates" ∧ f.templates.isSome ∨ name = "assets" ∧ f.assets.isSome then
    .error (duplicate name cs)
  else
    match readColon cs with
    | .error fault => .error fault
    | .ok cs =>
      if name = "templates" then
        ((Reader.list .string).read cs).map fun (x, rest) => ({ f with templates := some x }, rest)
      else if name = "assets" then
        (Assets.reader.read cs).map fun (x, rest) => ({ f with assets := some x }, rest)
      else
        (skipValue cs).map fun rest => (f, rest)

theorem readField_length_le {f g : Fields} {name : String} {cs rest : List Char}
    (h : readField f name cs = .ok (g, rest)) : rest.length ≤ cs.length := by
  unfold readField at h
  split at h
  · contradiction
  · split at h
    · contradiction
    · rename_i cs' hc
      have h1 := readColon_shrinks hc
      split at h
      · cases hr : (Reader.list .string).read cs' with
        | error e => simp [hr, Except.map] at h
        | ok p =>
            have h2 : p.2.length < cs'.length := (Reader.list .string).shrinks hr
            simp only [hr, Except.map, Except.ok.injEq, Prod.mk.injEq] at h
            rw [← h.2]
            omega
      · split at h
        · cases hr : Assets.reader.read cs' with
          | error e => simp [hr, Except.map] at h
          | ok p =>
              have h2 : p.2.length < cs'.length := Assets.reader.shrinks hr
              simp only [hr, Except.map, Except.ok.injEq, Prod.mk.injEq] at h
              rw [← h.2]
              omega
        · cases hr : skipValue cs' with
          | error e => simp [hr, Except.map] at h
          | ok p =>
              have h2 := skipPending_length_le hr
              simp only [hr, Except.map, Except.ok.injEq, Prod.mk.injEq] at h
              rw [← h.2]
              omega

/-- Reads the fields of an object up to its end; `first` says that none was read so far. -/
def readFields (f : Fields) (first : Bool) (cs : List Char) :
    Except Fault (Fields × List Char) :=
  match _h : nextKey? first cs with
  | .error fault => .error fault
  | .ok none => .ok (f, (skipBlank cs).tail)
  | .ok (some start) =>
    match _hk : readChars start with
    | .error fault => .error fault
    | .ok (name, rest) =>
      match _hf : readField f (String.ofList name) rest with
      | .error fault => .error fault
      | .ok (f, rest) => readFields f false rest
termination_by cs.length
decreasing_by
  have := nextKey?_shrinks ‹_›
  have := readChars_shrinks ‹_›
  have := readField_length_le ‹_›
  omega

/-- Reads a dataset from an object, behind its bracket. -/
def readObject (cs : List Char) : Except Fault (Dataset × List Char) :=
  match readFields {} true cs with
  | .error fault => .error fault
  | .ok (f, rest) =>
    match f.complete with
    | .ok d => .ok (d, rest)
    | .error name => .error (.before (.missingField name) rest)

/-- Reads one of the values of a list that holds the fields. -/
def readPlace {α : Type} (r : Reader α) (place : Nat) (cs : List Char) :
    Except Fault (α × List Char) :=
  match nextElement? (place = 0) cs with
  | .error fault => .error fault
  | .ok none => .error (.before (.invalidLength place expectedLength) (leaveList cs))
  | .ok (some start) => r.read start

/-- Reads a dataset from a list of its fields, behind the bracket. -/
def readList (cs : List Char) : Except Fault (Dataset × List Char) := do
  let (templates, rest) ← readPlace (.list .string) 0 cs
  let (assets, rest) ← readPlace Assets.reader 1 rest
  let rest ← closeList rest
  return (⟨templates, assets⟩, rest)

/-- Reads a dataset from the front of a text. -/
def read (cs : List Char) : Except Fault (Dataset × List Char) :=
  match skipBlank cs with
  | '\x7b' :: rest => readObject rest
  | '[' :: rest => readList rest
  | start => .error (mismatch expected start)

/-- The dataset that a whole text describes. -/
def ofJson (text : String) : Except Fault Dataset :=
  match read text.toList with
  | .error fault => .error fault
  | .ok (d, rest) => (finish rest).map fun _ => d

end Dataset

end Phrasebook
