import Phrasebook.Proofs.Assets.Pairs
import Phrasebook.Proofs.Dataset.Texts
import Phrasebook.Proofs.Json.Written

/-! # Saved datasets

A dataset that was written is read back, and so are assets on their own. It does not matter in which
order the placeholders were written, nor which of the two fields came first.
-/

namespace Phrasebook

open Phrasebook.Json

theorem listText_strings (texts : List String) :
    ListText StringText texts (Value.strings texts).compact :=
  listText_compact stringText_quote texts

theorem framed_compact {Text : List Char → Prop} {v : Value} (h : Text v.compact) :
    Framed Text v.toCompact := by
  refine ⟨[], v.compact, [], blank_nil, h, blank_nil, ?_⟩
  rw [Value.toCompact, String.toList_ofList, List.nil_append, List.append_nil]

/-! ## Assets -/

namespace Assets

/-- Entries as a value to be written, in any order. -/
def entriesValue (entries : List (String × List String)) : Value :=
  .object (entries.map fun e => (e.1, .strings e.2))

theorem pairsText_entriesValue (entries : List (String × List String)) :
    PairsText entries (entriesValue entries).compact := objectText_compact listText_strings entries

variable {a : Assets} {entries : List (String × List String)}

theorem ofJson_entriesValue (h : entries.Perm a.entries) :
    ofJson (entriesValue entries).toCompact = .ok a := by
  rw [ofJson_of_framed (framed_compact (pairsText_entriesValue entries)), ofList_eq_of_perm h]

end Assets

/-! ## Datasets -/

namespace Dataset

def templatesField (d : Dataset) : String × Value := ("templates", .strings d.templates)

/-- The assets, with their entries in any order. -/
def assetsField (entries : List (String × List String)) : String × Value :=
  ("assets", Assets.entriesValue entries)

/-- A field as a member to be written. -/
def Field.member : Field → String × Value
  | .templates texts => ("templates", .strings texts)
  | .assets entries => assetsField entries

theorem text_member (field : Field) :
    field.Text (quote field.member.1 ++ ':' :: field.member.2.compact) := by
  have value : field.ValueText field.member.2.compact := by
    cases field with
    | templates texts => exact listText_strings texts
    | assets entries => exact Assets.pairsText_entriesValue entries
  have name : field.member.1 = field.name := by
    cases field with
    | templates => rfl
    | assets => rfl
  rw [name]
  exact ⟨quote field.name, [], [], _, stringText_quote _, blank_nil, blank_nil, value, rfl⟩

/-- An object of two fields as it is written. -/
theorem enclosed_members (m n : Field) :
    Enclosed '\x7b' '\x7d' Field.Text [m, n] (Value.object [m.member, n.member]).compact := by
  have text : (Value.object [m.member, n.member]).compact =
      '\x7b' :: (separated ([m, n].map fun field =>
        [] ++ (quote field.member.1 ++ ':' :: field.member.2.compact)) ++ [] ++ ['\x7d']) := by
    simp [Value.compact, Value.compactMembers, separated]
  rw [text]
  exact enclosed_separated '\x7b' '\x7d' text_member blank_nil blank_nil [m, n]

variable {d : Dataset} {entries : List (String × List String)}

theorem ofText_templates_assets (h : entries.Perm d.assets.entries) :
    ofText (Value.object [d.templatesField, assetsField entries]).toCompact = .ok d := by
  have fields : FieldsText d.templates entries _ :=
    Or.inl (enclosed_members (.templates d.templates) (.assets entries))
  have read := ofText_of_framed (framed_compact fields)
  rw [Assets.ofList_eq_of_perm h] at read
  exact read

theorem ofText_assets_templates (h : entries.Perm d.assets.entries) :
    ofText (Value.object [assetsField entries, d.templatesField]).toCompact = .ok d := by
  have fields : FieldsText d.templates entries _ :=
    Or.inr (enclosed_members (.assets entries) (.templates d.templates))
  have read := ofText_of_framed (framed_compact fields)
  rw [Assets.ofList_eq_of_perm h] at read
  exact read

/-- A dataset is read back from the text that is written for it, and so are assets on their own; it
makes no difference in which order the entries and the two fields are written. -/
theorem ofText_toCompact (d : Dataset) (a : Assets) :
    ofText d.toValue.toCompact = .ok d ∧ Assets.ofJson a.toValue.toCompact = .ok a ∧
    (∀ entries, entries.Perm d.assets.entries →
      ofText (Value.object [d.templatesField, assetsField entries]).toCompact = .ok d ∧
      ofText (Value.object [assetsField entries, d.templatesField]).toCompact = .ok d) ∧
    ∀ entries, entries.Perm a.entries →
      Assets.ofJson (Assets.entriesValue entries).toCompact = .ok a := by
  refine ⟨?_, ?_, fun entries h => ?_, fun entries h => Assets.ofJson_entriesValue h⟩
  · exact ofText_templates_assets (List.Perm.refl d.assets.entries)
  · exact Assets.ofJson_entriesValue (List.Perm.refl a.entries)
  · exact ⟨ofText_templates_assets h, ofText_assets_templates h⟩

/-- Quotes, backslashes, control characters, an empty name and an empty list. -/
def awkward : Dataset :=
  ⟨["\"[é]\" \\ \n\x00", ""], Assets.ofList [("", []), ("é", ["\x1f", "\x7f", "😀/\t"])]⟩

theorem ofText_awkward :
    [("é", ["\x1f", "\x7f", "😀/\t"]), ("", [])].Perm awkward.assets.entries ∧
      ofText (Value.object [assetsField [("é", ["\x1f", "\x7f", "😀/\t"]), ("", [])],
        awkward.templatesField]).toCompact = .ok awkward := by
  have perm : [("é", ["\x1f", "\x7f", "😀/\t"]), ("", [])].Perm awkward.assets.entries := by
    decide +kernel
  exact ⟨perm, ((ofText_toCompact awkward awkward.assets).2.2.1 _ perm).2⟩

end Dataset

end Phrasebook
