import Mathlib.Data.List.Infix
import Phrasebook.Proofs.Expander.Locality
import Phrasebook.Proofs.Text.Lowercase

/-! # Settings that make no difference

A setting is without effect on a phrase if it changes nothing in what the phrase leads to. For
optional markers this is so if no marker there is spelled as one (`run_expand_withOptionalMarkers`).
For a search term it is so if each candidate list there matches as a whole or not at all, since the
pick is made from the whole list in both cases; and a term of white space counts as none
(`run_expand_withoutSearch`).
-/

namespace Phrasebook

open Phrasebook.Random

/-- No marker of the template is spelled as an optional one. -/
def Template.IsPlain (t : Template) : Prop := ∀ m ∈ t.markers, m.asOptional = none

instance (t : Template) : Decidable t.IsPlain :=
  inferInstanceAs (Decidable (∀ m ∈ t.markers, m.asOptional = none))

namespace Expander

variable {e : Expander} {a : Assets} {phrase : String}

/-! ## Optional markers -/

/-- The same settings, with optional markers on or off. -/
def withOptionalMarkers (e : Expander) (on : Bool) : Expander := { e with optionalMarkers := on }

theorem optional?_of_isPlain {t : Template} (plain : t.IsPlain) :
    ∀ m ∈ t.markers, e.optional? m = none := by
  intro m hm
  rw [optional?, plain m hm, ite_self]

theorem coincide_withOptionalMarkers (on : Bool) (plain : (Template.parse phrase).IsPlain)
    (behind : ∀ candidates, a.Offers e.Reads phrase candidates →
      ∀ c ∈ candidates, (Template.parse c).IsPlain) :
    e.Coincide (e.withOptionalMarkers on) a a phrase where
  depth := rfl
  read m hm := by rw [optional?_of_isPlain plain m hm, optional?_of_isPlain plain m hm]
  readBehind candidates offered c hc m hm := by
    have none := behind candidates offered c hc
    rw [optional?_of_isPlain none m hm, optional?_of_isPlain none m hm]
  known _ _ := rfl
  eligible _ _ := rfl

/-- Where no marker is spelled as an optional one, every run is the same with optional markers on and
with them off. What the phrase leads to may be read with either setting. -/
theorem run_expand_withOptionalMarkers (e : Expander) (a : Assets) {phrase : String}
    (plain : (Template.parse phrase).IsPlain)
    (behind : ∀ candidates, a.Offers e.Reads phrase candidates →
      ∀ c ∈ candidates, (Template.parse c).IsPlain) (s : Words) :
    ((e.withOptionalMarkers true).expand a phrase).run s =
      ((e.withOptionalMarkers false).expand a phrase).run s := by
  calc ((e.withOptionalMarkers true).expand a phrase).run s
    _ = (e.expand a phrase).run s :=
      run_expand_of_coincide (coincide_withOptionalMarkers true plain behind) s
    _ = ((e.withOptionalMarkers false).expand a phrase).run s :=
      (run_expand_of_coincide (coincide_withOptionalMarkers false plain behind) s).symm

/-- Question marks in names, and an optional marker that nothing leads to. -/
def questions : Assets :=
  Assets.ofList [("?5", ["[who?me]"]), ("aside", ["[who?50]"]), ("who?1000", ["[?5]", "nobody"]),
    ("who?me", ["you", "[who?1000]"])]

/-- There is no key before the first mark, no row of digits behind the second, and too many of them
behind the third. -/
theorem run_expand_withOptionalMarkers_questions :
    ((withOptionalMarkers ⟨8, true, none⟩ true).expand questions "[?5] or [who?1000]").run
          (.ofArray #[7, 4294967295, 4294967295]) =
        ((withOptionalMarkers ⟨8, true, none⟩ false).expand questions "[?5] or [who?1000]").run
          (.ofArray #[7, 4294967295, 4294967295]) ∧
      (((withOptionalMarkers ⟨8, true, none⟩ true).expand questions "[?5] or [who?1000]").run
        (.ofArray #[7, 4294967295, 4294967295])).1 = .ok "nobody or you" := by
  constructor
  · refine run_expand_withOptionalMarkers ⟨8, true, none⟩ questions (by decide +kernel) ?_ _
    exact forall_offers_of_closed ["?5", "who?1000", "who?me"] (by decide +kernel)
      (by decide +kernel) (by decide +kernel)
  · decide +kernel

/-! ## The search term -/

/-- The same settings with another search term. -/
def withSearch (e : Expander) (search : Option String) : Expander := { e with search }

/-- A term stands in a candidate, upper and lower case being the same. -/
def Matches (term candidate : String) : Prop :=
  (Text.lowercase term).toList <:+: (Text.lowercase candidate).toList

theorem isMatch_iff {term c : String} : isMatch term c = true ↔ Matches term c :=
  Text.contains_iff

instance (term c : String) : Decidable (Matches term c) := decidable_of_iff _ isMatch_iff

theorem eligible_of_searchTerm?_eq_none (h : e.searchTerm? = none) (candidates : List String) :
    e.eligible candidates = candidates := by
  rw [eligible, h]

/-- A pick is made from the whole list if all of it matches, and also if nothing does. -/
theorem eligible_eq_self {candidates : List String}
    (h : ∀ term, e.searchTerm? = some term →
      (∀ c ∈ candidates, Matches term c) ∨ ∀ c ∈ candidates, ¬ Matches term c) :
    e.eligible candidates = candidates := by
  cases ht : e.searchTerm? with
  | none => exact eligible_of_searchTerm?_eq_none ht candidates
  | some term =>
      simp only [eligible, ht]
      rcases h term ht with all | none
      · have kept : candidates.filter (isMatch term) = candidates :=
          List.filter_eq_self.mpr fun c hc => isMatch_iff.mpr (all c hc)
        simp only [kept, ite_self]
      · have dropped : candidates.filter (isMatch term) = [] :=
          List.filter_eq_nil_iff.mpr fun c hc => mt isMatch_iff.mp (none c hc)
        simp only [dropped, List.isEmpty_nil, if_true]

theorem run_expand_withSearch_none
    (whole : ∀ candidates, a.Offers e.Reads phrase candidates → e.eligible candidates = candidates)
    (s : Words) :
    ((e.withSearch none).expand a phrase).run s = (e.expand a phrase).run s := by
  refine run_expand_of_coincide ?_ s
  refine ⟨rfl, fun _ _ => rfl, fun _ _ _ _ _ _ => rfl, fun _ _ => rfl, ?_⟩
  intro candidates offered
  rw [eligible_of_searchTerm?_eq_none rfl, whole candidates offered]

theorem trim_of_blank {text : String} (h : ∀ c ∈ text.toList, Text.blank.has c = true) :
    Text.trim text = "" := by
  have front : text.toList.dropWhile Text.blank.has = [] := List.dropWhile_eq_nil_iff.mpr h
  rw [Text.trim, Text.stripBoth, front]
  rfl

theorem searchTerm?_of_blank {term : String} (h : ∀ c ∈ term.toList, Text.blank.has c = true) :
    (e.withSearch (some term)).searchTerm? = none := by
  show (some (Text.trim term)).filter _ = none
  rw [trim_of_blank h]
  rfl

/-- A search term that matches all of a candidate list or nothing in it, for each list that the
phrase leads to, might as well not be there: every run is the same without it. A term of nothing but
white space is never there. -/
theorem run_expand_withoutSearch (e : Expander) (a : Assets) (phrase : String) :
    ((∀ term, e.searchTerm? = some term →
        ∀ candidates, a.Offers e.Reads phrase candidates →
          (∀ c ∈ candidates, Matches term c) ∨ ∀ c ∈ candidates, ¬ Matches term c) →
      ∀ s, (e.expand a phrase).run s = ((e.withSearch none).expand a phrase).run s) ∧
    ∀ term : String, (∀ c ∈ term.toList, Text.blank.has c = true) →
      ∀ s, ((e.withSearch (some term)).expand a phrase).run s =
        ((e.withSearch none).expand a phrase).run s := by
  constructor
  · intro even s
    refine (run_expand_withSearch_none ?_ s).symm
    intro candidates offered
    exact eligible_eq_self fun term ht => even term ht candidates offered
  · intro term blank s
    have absent : (e.withSearch (some term)).searchTerm? = none := searchTerm?_of_blank blank
    have same : (((e.withSearch (some term)).withSearch none).expand a phrase).run s =
        ((e.withSearch (some term)).expand a phrase).run s :=
      run_expand_withSearch_none (fun candidates _ => eligible_of_searchTerm?_eq_none absent _) s
    exact same.symm

/-- All the guests match, no seat does, and nothing leads to the crew. -/
def party : Assets :=
  Assets.ofList [("crew", ["Dan", "Eve"]), ("guest", ["Ann", "JAN on a [seat]", "Hans"]),
    ("nobody", []), ("seat", ["box", "stall"])]

/-- The term is trimmed and its case does not count. The empty list fails with the term as it does
without. -/
theorem run_expand_withoutSearch_party :
    searchTerm? ⟨64, false, some " aN\u3000"⟩ = some "aN" ∧
      (expand ⟨64, false, some " aN\u3000"⟩ party "[guest] and [guest], [nobody]").run
          (.ofArray #[2147483648, 4294967295]) =
        ((withSearch ⟨64, false, some " aN\u3000"⟩ none).expand party
          "[guest] and [guest], [nobody]").run (.ofArray #[2147483648, 4294967295]) ∧
      ((expand ⟨64, false, some " aN\u3000"⟩ party "[guest] and [guest], [nobody]").run
        (.ofArray #[2147483648, 4294967295])).1 = .error (.emptyChoice "nobody") ∧
      ((withSearch ⟨64, false, none⟩ (some "\u00a0\t")).expand party "[crew]").run default =
        ((withSearch ⟨64, false, none⟩ none).expand party "[crew]").run default := by
  have term : searchTerm? ⟨64, false, some " aN\u3000"⟩ = some "aN" := by decide +kernel
  refine ⟨term, ?_, by decide +kernel, ?_⟩
  · refine (run_expand_withoutSearch ⟨64, false, some " aN\u3000"⟩ party _).1 ?_ _
    intro found ht
    obtain rfl : "aN" = found := Option.some.inj (term.symm.trans ht)
    exact forall_offers_of_closed ["guest", "nobody", "seat"] (by decide +kernel)
      (by decide +kernel) (by decide +kernel)
  · have blank : "\u00a0\t".toList.all Text.blank.has = true := by decide +kernel
    exact (run_expand_withoutSearch ⟨64, false, none⟩ party _).2 _
      (List.all_eq_true.mp blank) _

end Expander

end Phrasebook
