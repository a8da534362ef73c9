import Phrasebook.Dataset.Load
import Phrasebook.Proofs.Json.Grammar

/-! # The texts of assets and datasets

Which JSON texts describe assets, given as pairs in the order of the text, and which describe a dataset
as an object of its two fields. The blank characters, the spelling of the strings and the order of the
fields are free. Every such text is read, and the assets are those of its pairs: pairs of one name may
be repeated.
-/

namespace Phrasebook

open Phrasebook.Json

namespace Assets

/-- The texts of an object with these pairs as its members. -/
def PairsText : List (String × List String) → List Char → Prop := ObjectText (ListText StringText)

variable {pairs : List (String × List String)} {gap cs : List Char}

theorem read_of_pairsText (h : PairsText pairs cs) (hg : Blank gap) (rest : List Char) :
    reader.read (gap ++ (cs ++ rest)) = .ok (ofList pairs, rest) := by
  have takes := Reader.takes_objectText (Reader.takes_listText Reader.takes_stringText)
  have members := takes.read h hg rest
  simp only [reader, Assets.read, members]

/-- A text of an object describes the assets of its members. -/
theorem ofJson_of_framed {text : String} (h : Framed (PairsText pairs) text) :
    ofJson text = .ok (ofList pairs) := by
  obtain ⟨before, cs, after, hb, h, ha, eq⟩ := h
  simp only [ofJson, Reader.readAll, eq, read_of_pairsText h hb, finish_of_blank ha, Except.map]

end Assets

namespace Dataset

/-- A field of a dataset as it is given in a text. -/
inductive Field where
  | templates (texts : List String)
  | assets (pairs : List (String × List String))

namespace Field

def name : Field → String
  | templates _ => "templates"
  | assets _ => "assets"

/-- The texts of the value of a field. -/
def ValueText : Field → List Char → Prop
  | templates texts => ListText StringText texts
  | assets pairs => Assets.PairsText pairs

/-- The texts of a field with its name. -/
def Text (field : Field) : List Char → Prop := MemberText ValueText (field.name, field)

end Field

namespace Fields

/-- The fields read so far, with one field more. -/
def add (f : Fields) : Field → Fields
  | .templates texts => { f with templates := some texts }
  | .assets pairs => { f with assets := some (Assets.ofList pairs) }

/-- The field was not read so far. -/
def Lacks (f : Fields) : Field → Prop
  | .templates _ => f.templates = none
  | .assets _ => f.assets = none

/-- No field is given twice. -/
def LacksAll (f : Fields) : List Field → Prop
  | [] => True
  | field :: fields => f.Lacks field ∧ (f.add field).LacksAll fields

end Fields

variable {f : Fields} {field : Field} {fields : List Field} {first : Bool}
  {lead gap space cs part after rest : List Char}

theorem readField_of_valueText (new : f.Lacks field) (hg : Blank gap) (hs : Blank space)
    (h : field.ValueText cs) (rest : List Char) :
    readField f field.name (gap ++ ':' :: (space ++ (cs ++ rest))) = .ok (f.add field, rest) := by
  cases field with
  | templates texts =>
      have lacks : f.templates = none := new
      have value := (Reader.takes_listText Reader.takes_stringText).read h hs rest
      simp [readField, Field.name, Fields.add, lacks, readColon_blank hg, value, Except.map]
  | assets pairs =>
      have lacks : f.assets = none := new
      have value := Assets.read_of_pairsText h hs rest
      simp [readField, Field.name, Fields.add, lacks, readColon_blank hg, value, Except.map]

theorem readFields_close (hg : Blank gap) (f : Fields) (first : Bool) (rest : List Char) :
    readFields f first (gap ++ '\x7d' :: rest) = .ok (f, rest) := by
  have stop : skipBlank (gap ++ '\x7d' :: rest) = '\x7d' :: rest := skipBlank_append_cons hg rfl
  rw [readFields, nextKey?_close hg, stop]
  rfl

/-- One field, up to what stands behind it. -/
theorem readFields_of_text (new : f.Lacks field) (hl : Lead first lead) (hg : Blank gap)
    (h : field.Text part) :
    readFields f first (lead ++ (gap ++ (part ++ after))) =
      readFields (f.add field) false after := by
  obtain ⟨key, before, space, value, ⟨written, spelled, rfl⟩, hb, hs, h, rfl⟩ := h
  have text : '"' :: (written ++ ['"']) ++ (before ++ ':' :: (space ++ value)) ++ after =
      '"' :: (written ++ '"' :: (before ++ ':' :: (space ++ (value ++ after)))) := by simp
  rw [text, readFields, nextKey?_lead hl hg]
  dsimp only
  rw [readChars_of_spelled spelled]
  dsimp only
  rw [String.ofList_toList, readField_of_valueText new hb hs h]

/-- The fields are read one after the other. -/
theorem readFields_of_elements (h : Elements Field.Text fields cs) (new : f.LacksAll fields)
    (hl : Lead first lead) (rest : List Char) :
    readFields f first (lead ++ (cs ++ '\x7d' :: rest)) = .ok (fields.foldl Fields.add f, rest) := by
  revert f
  apply h.read (R := fun first cs fields => ∀ {f : Fields}, f.LacksAll fields →
    readFields f first cs = .ok (fields.foldl Fields.add f, rest)) hl
  · intro gap hg f _
    exact readFields_close hg f false rest
  · intro first lead before part after field fields hl hb h others f new
    rw [readFields_of_text new.1 hl hb h]
    exact others new.2

/-- The texts of an object with the two fields. -/
def FieldsText (templates : List String) (pairs : List (String × List String))
    (cs : List Char) : Prop :=
  Enclosed '\x7b' '\x7d' Field.Text [.templates templates, .assets pairs] cs ∨
    Enclosed '\x7b' '\x7d' Field.Text [.assets pairs, .templates templates] cs

variable {templates : List String} {pairs : List (String × List String)}

theorem read_of_fieldsText (h : FieldsText templates pairs cs) (hg : Blank gap)
    (rest : List Char) :
    Dataset.read (gap ++ (cs ++ rest)) = .ok (⟨templates, Assets.ofList pairs⟩, rest) := by
  have inside {fields : List Field} {parts : List Char} (h : Elements Field.Text fields parts)
      (new : Fields.LacksAll {} fields)
      (complete : (fields.foldl Fields.add {}).complete = .ok ⟨templates, Assets.ofList pairs⟩) :
      Dataset.read (gap ++ ('\x7b' :: (parts ++ ['\x7d']) ++ rest)) =
        .ok (⟨templates, Assets.ofList pairs⟩, rest) := by
    have start : skipBlank (gap ++ '\x7b' :: (parts ++ '\x7d' :: rest)) =
        '\x7b' :: (parts ++ '\x7d' :: rest) := skipBlank_append_cons hg rfl
    have read := readFields_of_elements h new .start rest
    rw [List.nil_append] at read
    rw [cons_append_singleton]
    simp only [Dataset.read, start, readObject, read, complete]
  rcases h with h | h
  · cases h with
    | full h => exact inside h ⟨rfl, rfl, trivial⟩ rfl
  · cases h with
    | full h => exact inside h ⟨rfl, rfl, trivial⟩ rfl

/-- A text of an object with both fields describes the dataset of its templates and pairs. -/
theorem ofText_of_framed {text : String} (h : Framed (FieldsText templates pairs) text) :
    ofText text = .ok ⟨templates, Assets.ofList pairs⟩ := by
  obtain ⟨before, cs, after, hb, h, ha, eq⟩ := h
  simp only [ofText, parse, ofJson, eq, read_of_fieldsText h hb, finish_of_blank ha, Except.map]

end Dataset

end Phrasebook
