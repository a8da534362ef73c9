import Phrasebook.Proofs.Expander.Outcomes

/-! # The language of an expander

Which texts an expander can make is said by rules that know nothing of words, draws or chains: a
budget bounds how deep candidates with markers may be nested, and each marker is replaced by itself.
`ends_expandWithin_ok_iff` says that the ends of an expansion are the texts the rules derive. With
words that steer every pick, the texts that some stream leads to are the same.
-/

namespace Phrasebook.Expander

open Phrasebook.Random

/-- The texts that segments yield, if candidates with markers may be nested `budget` deep. -/
inductive Derives (e : Expander) (a : Assets) : (budget : Nat) → List Segment → String → Prop
  | nil (budget : Nat) : Derives e a budget [] ""
  /-- Literal text stands for itself. -/
  | literal {budget : Nat} {rest : List Segment} {o : String} (text : String)
      (tail : Derives e a budget rest o) : Derives e a budget (.literal text :: rest) (text ++ o)
  /-- A marker that may be dropped yields nothing. -/
  | dropped {budget : Nat} {rest : List Segment} {o : String} {m : Marker} (may : e.MayDrop m)
      (tail : Derives e a budget rest o) : Derives e a budget (.marker m :: rest) o
  /-- A marker that may be kept yields a candidate without markers as it is. -/
  | plain {budget : Nat} {rest : List Segment} {o c : String} {m : Marker}
      {candidates : List String} (may : e.MayKeep m)
      (known : a.candidates? (e.key m) = some candidates) (offered : e.IsEligible candidates c)
      (markers : (Template.parse c).markers = []) (tail : Derives e a budget rest o) :
      Derives e a budget (.marker m :: rest) (c ++ o)
  /-- A candidate with markers yields what it yields alone, with one less to spend. -/
  | nested {budget : Nat} {rest : List Segment} {o c x : String} {m : Marker}
      {candidates : List String} (may : e.MayKeep m)
      (known : a.candidates? (e.key m) = some candidates) (offered : e.IsEligible candidates c)
      (markers : (Template.parse c).markers ≠ [])
      (inner : Derives e a budget (Template.parse c).segments x)
      (tail : Derives e a (budget + 1) rest o) :
      Derives e a (budget + 1) (.marker m :: rest) (x ++ o)

variable {e : Expander} {a : Assets}

/-- What segments come to is derived, if what is entered for them is derived with less to spend. -/
theorem derives_of_ends_fill {enter : String → Template → Draw ExpandError String} {budget : Nat}
    {segs : List Segment} {o : String}
    (sub : ∀ key t x, (enter key t).Ends (.ok x) →
      ∃ less, budget = less + 1 ∧ Derives e a less t.segments x)
    (h : (e.fill a enter segs).Ends (.ok o)) : Derives e a budget segs o := by
  induction segs generalizing o with
  | nil =>
      obtain rfl : o = "" := by simpa using h
      exact .nil budget
  | cons seg rest ih =>
      cases seg with
      | literal text =>
          obtain ⟨tail, ht, rfl⟩ := ends_fill_literal_ok_iff.mp h
          exact .literal text (ih ht)
      | marker m =>
          obtain ⟨head, tail, hh, ht, rfl⟩ := ends_fill_marker_ok_iff.mp h
          rcases ends_resolve_iff.mp hh with ⟨may, eq⟩ | ⟨may, hs⟩
          · obtain rfl : head = "" := Except.ok.inj eq
            rw [String.empty_append]
            exact .dropped may (ih ht)
          · obtain ⟨candidates, c, known, offered, hr⟩ := ends_substitute_ok_iff.mp hs
            rw [replacement_eq] at hr
            split at hr
            · rename_i literal
              obtain rfl : head = c := Except.ok.inj (Draw.ends_done_iff.mp hr)
              exact .plain may known offered (Template.isLiteral_iff.mp literal) (ih ht)
            · rename_i literal
              obtain ⟨less, rfl, inner⟩ := sub _ _ _ hr
              exact .nested may known offered (mt Template.isLiteral_iff.mpr literal) inner (ih ht)

theorem derives_of_ends_expandWithin {room : Nat} {chain : List String} {t : Template} {o : String}
    (h : (e.expandWithin a room chain t).Ends (.ok o)) : Derives e a room t.segments o := by
  induction room generalizing chain t o with
  | zero =>
      rw [expandWithin_eq] at h
      refine derives_of_ends_fill (fun key t x hx => ?_) h
      obtain ⟨less, eq, -⟩ := ends_entering_ok_iff.mp hx
      exact absurd eq (Nat.succ_ne_zero less).symm
  | succ room ih => exact derives_of_ends_fill (fun key t x hx => ⟨room, rfl, ih hx⟩) h

theorem ends_expandWithin_of_derives {room : Nat} {segs : List Segment} {o : String}
    (h : Derives e a room segs o) (chain : List String) :
    (e.expandWithin a room chain ⟨segs⟩).Ends (.ok o) := by
  induction h generalizing chain with
  | nil budget =>
      rw [expandWithin_eq]
      exact ends_fill_nil_iff.mpr rfl
  | literal text _ ih =>
      have tail := ih chain
      rw [expandWithin_eq] at tail ⊢
      exact ends_fill_literal_ok_iff.mpr ⟨_, tail, rfl⟩
  | dropped may _ ih =>
      have tail := ih chain
      rw [expandWithin_eq] at tail ⊢
      refine ends_fill_marker_ok_iff.mpr ⟨"", _, ?_, tail, String.empty_append.symm⟩
      exact ends_resolve_iff.mpr (Or.inl ⟨may, rfl⟩)
  | plain may known offered markers _ ih =>
      have tail := ih chain
      rw [expandWithin_eq] at tail ⊢
      refine ends_fill_marker_ok_iff.mpr ⟨_, _, ends_resolve_iff.mpr (Or.inr ⟨may, ?_⟩), tail, rfl⟩
      refine ends_substitute_ok_iff.mpr ⟨_, _, known, offered, ?_⟩
      rw [replacement_eq, if_pos (Template.isLiteral_iff.mpr markers)]
      exact .done _
  | @nested budget rest o c x m candidates may known offered markers _ _ ihInner ih =>
      have tail := ih chain
      rw [expandWithin_eq] at tail ⊢
      refine ends_fill_marker_ok_iff.mpr ⟨_, _, ends_resolve_iff.mpr (Or.inr ⟨may, ?_⟩), tail, rfl⟩
      refine ends_substitute_ok_iff.mpr ⟨_, _, known, offered, ?_⟩
      rw [replacement_of_markers markers]
      exact ihInner (chain ++ [e.key m])

theorem ends_expandWithin_ok_iff {room : Nat} {chain : List String} {t : Template} {o : String} :
    (e.expandWithin a room chain t).Ends (.ok o) ↔ Derives e a room t.segments o :=
  ⟨derives_of_ends_expandWithin, fun h => ends_expandWithin_of_derives h chain⟩

/-- A phrase expands to a text on some stream of words just if the rules derive the text from it. -/
theorem exists_run_expand_iff_derives (e : Expander) (a : Assets) (narrow : a.IsNarrow)
    (phrase o : String) :
    (∃ s : Words, ((e.expand a phrase).run s).1 = .ok o) ↔
      Derives e a e.depthLimit (Template.parse phrase).segments o := by
  have steered : (e.expand a phrase).Narrow := narrow_expandWithin narrow e.depthLimit [] _
  rw [Draw.exists_run_iff_ends steered]
  exact ends_expandWithin_ok_iff

/-- A name with a nickname in one of its candidates. -/
def nicknames : Assets := Assets.ofList [("first", ["Bo"]), ("name", ["Ann", "[first] the Bold"])]

/-- Of two optional names the second is left out, and the first takes a candidate with a marker of
its own, nested as deep as the limit allows. -/
theorem exists_run_expand_nested :
    nicknames.IsNarrow ∧
      ∃ s : Words, ((expand ⟨1, true, none⟩ nicknames "[name?30] and [name?30]").run s).1 =
        .ok "Bo the Bold and " := by
  have narrow : nicknames.IsNarrow := Assets.isNarrow_of_forall_mem (by decide)
  refine ⟨narrow, (exists_run_expand_iff_derives _ _ narrow _ _).mpr ?_⟩
  have phrase : (Template.parse "[name?30] and [name?30]").segments =
      [.marker ⟨"name?30"⟩, .literal " and ", .marker ⟨"name?30"⟩] := by decide +kernel
  have bold : (Template.parse "[first] the Bold").segments =
      [.marker ⟨"first"⟩, .literal " the Bold"] := by decide +kernel
  have optional : optional? ⟨1, true, none⟩ ⟨"name?30"⟩ = some ⟨"name", 30⟩ := by decide +kernel
  have noTerm : searchTerm? ⟨1, true, none⟩ = none := by decide +kernel
  have keepFirst : MayKeep ⟨1, true, none⟩ ⟨"first"⟩ := by
    have plain : optional? ⟨1, true, none⟩ ⟨"first"⟩ = none := by decide +kernel
    simp [MayKeep, plain]
  have knownFirst : nicknames.candidates? (key ⟨1, true, none⟩ ⟨"first"⟩) = some ["Bo"] := by
    decide +kernel
  have knownName : nicknames.candidates? (key ⟨1, true, none⟩ ⟨"name?30"⟩) =
      some ["Ann", "[first] the Bold"] := by decide +kernel
  have inner := Derives.plain keepFirst knownFirst
    ((isEligible_iff_mem noTerm).mpr (List.mem_singleton_self "Bo")) (by decide +kernel)
    (.literal " the Bold" (.nil 0))
  have parts : "Bo the Bold and " = "Bo" ++ (" the Bold" ++ "") ++ (" and " ++ "") := by decide
  rw [← bold] at inner
  rw [phrase, parts]
  refine .nested ?_ knownName ((isEligible_iff_mem noTerm).mpr (by decide)) ?_ inner ?_
  · simp [MayKeep, optional]
  · simp [Template.markers, bold, Segment.marker?]
  · exact .literal " and " (.dropped ⟨_, optional, by decide⟩ (.nil 1))

end Phrasebook.Expander
