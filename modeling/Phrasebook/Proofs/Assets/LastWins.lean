import Mathlib.Data.List.Dedup
import Phrasebook.Proofs.Dataset.Saved

/-! # The last list wins

Assets that are built from pairs hold for each name the list of the last pair with it, and nothing
else. A step of the building is one lemma (`LastWins.insert`); that pairs written one by one, all at
once, or as the members of a JSON object make the same assets follows from it by induction, and from
the fact that a text is read as its members in their order. Assets with the same last lists are the
same, so they have the same text.
-/

namespace Phrasebook.Assets

open Phrasebook.Json

/-- What is seen of assets in which the last pair with a name wins. -/
structure LastWins (pairs : List (String × List String)) (a : Assets) : Prop where
  candidates? : ∀ name, a.candidates? name = lastOf pairs name
  contains : ∀ name, a.contains name = true ↔ ∃ list, a.candidates? name = some list
  /-- The names ascend strictly, by code point. -/
  ascending : a.names.Pairwise (· < ·)
  size : a.size = (pairs.map (·.1)).dedup.length
  /-- The entries are the names in their order, each with its candidates. -/
  entries : a.entries.map (fun entry => (entry.1, some entry.2)) =
    a.names.map fun name => (name, a.candidates? name)

variable {a b : Assets} {name : String} {list : List String}
  {pairs more : List (String × List String)}

theorem lastOf_append (pairs more : List (String × List String)) (name : String) :
    lastOf (pairs ++ more) name = (lastOf more name).or (lastOf pairs name) := by
  induction pairs with
  | nil => simp [lastOf]
  | cons pair pairs ih => rw [List.cons_append, lastOf_cons, lastOf_cons, ih, Option.or_assoc]

theorem mem_names_iff (h : ∀ name, a.candidates? name = lastOf pairs name) :
    name ∈ a.names ↔ name ∈ pairs.map (·.1) := by
  rw [← contains_iff, Assets.contains, h, Option.isSome_iff_ne_none, Ne, lastOf_eq_none_iff,
    not_not]

/-- All that is seen of assets comes from the lists that are found in them. -/
theorem lastWins_of_candidates? (h : ∀ name, a.candidates? name = lastOf pairs name) :
    LastWins pairs a where
  candidates? := h
  contains name := Option.isSome_iff_exists
  ascending := a.ascending_names
  size := by
    have perm : a.names.Perm (pairs.map (·.1)).dedup := by
      refine (List.perm_ext_iff_of_nodup a.nodup_names (List.nodup_dedup _)).mpr fun name => ?_
      rw [mem_names_iff h, List.mem_dedup]
    rw [← perm.length_eq, Assets.size, Assets.names, List.length_map]
  entries := by
    rw [Assets.names, List.map_map]
    refine List.map_congr_left fun entry mem => ?_
    rw [Function.comp_apply, candidates?_eq_some_iff.mpr mem]

theorem lastWins_empty : LastWins [] empty := lastWins_of_candidates? fun _ => rfl

/-- One pair more is put over what is there under its name. -/
theorem LastWins.insert (h : LastWins pairs a) (name : String) (list : List String) :
    LastWins (pairs ++ [(name, list)]) (a.insert name list) := by
  apply lastWins_of_candidates?
  intro other
  rw [candidates?_insert, lastOf_append, lastOf_cons, h.candidates?]
  by_cases same : other = name
  · simp [same, lastOf]
  · simp [same, lastOf]

theorem LastWins.insertAll (h : LastWins pairs a) (more : List (String × List String)) :
    LastWins (pairs ++ more) (a.insertAll more) := by
  induction more generalizing pairs a with
  | nil =>
      rw [List.append_nil]
      exact h
  | cons pair more ih =>
      rw [insertAll_cons, List.append_cons]
      exact ih (h.insert pair.1 pair.2)

theorem lastWins_ofList (pairs : List (String × List String)) : LastWins pairs (ofList pairs) := by
  rw [← List.nil_append pairs]
  exact lastWins_empty.insertAll pairs

theorem LastWins.unique (ha : LastWins pairs a) (hb : LastWins more b)
    (same : ∀ name, lastOf pairs name = lastOf more name) : a = b := by
  refine eq_of_candidates?_eq fun name => ?_
  rw [ha.candidates?, hb.candidates?, same]

/-- Pairs make the same assets however they are written: one by one, all at once, or as the members
of an object in any of its texts, alone or as a field of a dataset. In these assets the last list with
a name wins. So pairs with the same last lists make the same assets, with the same text. -/
theorem ofList_last_wins (pairs : List (String × List String)) :
    pairs.foldl (fun a pair => a.insert pair.1 pair.2) empty = ofList pairs ∧
    Framed (PairsText pairs) (entriesValue pairs).toCompact ∧
    (∀ text, Framed (PairsText pairs) text → ofJson text = .ok (ofList pairs)) ∧
    (∀ templates text, Framed (Dataset.FieldsText templates pairs) text →
      Dataset.ofText text = .ok ⟨templates, ofList pairs⟩) ∧
    LastWins pairs (ofList pairs) ∧
    ∀ more, (∀ name, lastOf pairs name = lastOf more name) →
      ofList pairs = ofList more ∧
        (ofList pairs).toValue.toCompact = (ofList more).toValue.toCompact := by
  refine ⟨rfl, framed_compact (pairsText_entriesValue pairs), fun text => ofJson_of_framed,
    fun templates text => Dataset.ofText_of_framed, lastWins_ofList pairs, fun more same => ?_⟩
  have eq := (lastWins_ofList pairs).unique (lastWins_ofList more) same
  exact ⟨eq, by rw [eq]⟩

/-- A name is written twice. -/
def repeated : List (String × List String) := [("b", ["x"]), ("a", []), ("b", ["y"])]

/-- One text of it, with blank characters at odd places, and the second `b` spelled by its unit. -/
def repeatedText : String := "\x7b\"b\" : [\"x\"],\"a\":[ ],\"\\u0062\":[\"y\"]\x7d\n"

theorem framed_repeatedText : Framed (PairsText repeated) repeatedText := by
  have letter (c : Char) (noQuote : c ≠ '"') (noBackslash : c ≠ '\\')
      (noControl : isControl c = false) : StringText (String.ofList [c]) ['"', c, '"'] := by
    refine ⟨[c], ?_, rfl⟩
    rw [String.toList_ofList]
    exact .plain noQuote noBackslash noControl .nil
  have one (c : Char) (noQuote : c ≠ '"') (noBackslash : c ≠ '\\')
      (noControl : isControl c = false) :
      ListText StringText [String.ofList [c]] ['[', '"', c, '"', ']'] :=
    .full (.last blank_nil (letter c noQuote noBackslash noControl) blank_nil)
  have spelled : StringText "b" ['"', '\\', 'u', '0', '0', '6', '2', '"'] :=
    ⟨_, .unit (n := 0x62) rfl rfl rfl .nil, rfl⟩
  have first : MemberText (ListText StringText) ("b", ["x"])
      ['"', 'b', '"', ' ', ':', ' ', '[', '"', 'x', '"', ']'] :=
    ⟨_, [' '], [' '], _, letter 'b' (by decide) (by decide) rfl, blank_singleton, blank_singleton,
      one 'x' (by decide) (by decide) rfl, rfl⟩
  have second : MemberText (ListText StringText) ("a", [])
      ['"', 'a', '"', ':', '[', ' ', ']'] :=
    ⟨_, [], [], ['[', ' ', ']'], letter 'a' (by decide) (by decide) rfl, blank_nil, blank_nil,
      .empty blank_singleton, rfl⟩
  have third : MemberText (ListText StringText) ("b", ["y"])
      ['"', '\\', 'u', '0', '0', '6', '2', '"', ':', '[', '"', 'y', '"', ']'] :=
    ⟨_, [], [], _, spelled, blank_nil, blank_nil, one 'y' (by decide) (by decide) rfl, rfl⟩
  exact ⟨[], _, ['\n'], blank_nil,
    .full (.cons blank_nil first blank_nil (.cons blank_nil second blank_nil
      (.last blank_nil third blank_nil))), blank_lineBreak 0, by decide +kernel⟩

theorem ofList_last_wins_repeated :
    Framed (PairsText repeated) repeatedText ∧
      ofJson repeatedText = .ok (ofList repeated) ∧
      Framed (Dataset.FieldsText ["[b]"] repeated)
        (Value.object [Dataset.assetsField repeated, ("templates", .strings ["[b]"])]).toCompact ∧
      Dataset.ofText (Value.object
        [Dataset.assetsField repeated, ("templates", .strings ["[b]"])]).toCompact =
          .ok ⟨["[b]"], ofList repeated⟩ ∧
      (∀ name, lastOf repeated name = lastOf [("a", []), ("b", ["y"])] name) ∧
      ofList repeated = ofList [("a", []), ("b", ["y"])] := by
  have law := ofList_last_wins repeated
  have fields : Framed (Dataset.FieldsText ["[b]"] repeated)
      (Value.object [Dataset.assetsField repeated, ("templates", .strings ["[b]"])]).toCompact :=
    framed_compact (Or.inr
      (Dataset.enclosed_members (.assets repeated) (.templates ["[b]"])))
  have same (name : String) :
      lastOf repeated name = lastOf [("a", []), ("b", ["y"])] name := by
    by_cases b : name = "b"
    · subst b
      decide +kernel
    · simp [repeated, lastOf_cons, b]
  exact ⟨framed_repeatedText, law.2.2.1 _ framed_repeatedText, fields, law.2.2.2.1 _ _ fields,
    same, (law.2.2.2.2.2 _ same).1⟩

end Phrasebook.Assets
