import Phrasebook.Lint

/-! # References

A text refers to the placeholders its markers stand for, and a placeholder to what its candidates
refer to. How a marker is read depends on one setting only, so expanders that agree on it see the
same references (`keys_congr`). What a text leads to in the end is said for any way of reading:
`reads text k` stands for a text in which the placeholder `k` is read.
-/

namespace Phrasebook

namespace Assets

/-- `next` is read in a candidate of `k`. -/
def LeadsOn (a : Assets) (reads : String → String → Prop) (k next : String) : Prop :=
  ∃ candidates c, a.candidates? k = some candidates ∧ c ∈ candidates ∧ reads c next

/-- A placeholder with a candidate that has markers of its own. -/
def Nests (a : Assets) (k : String) : Prop :=
  ∃ candidates c, a.candidates? k = some candidates ∧ c ∈ candidates ∧
    (Template.parse c).markers ≠ []

/-- The placeholders read in a text, in the candidates of those, in the candidates of these, and so
on. -/
inductive Reaches (a : Assets) (reads : String → String → Prop) (text : String) :
    String → Prop where
  | here {k : String} (h : reads text k) : Reaches a reads text k
  | next {k next : String} (h : Reaches a reads text k) (leads : a.LeadsOn reads k next) :
      Reaches a reads text next

/-- A candidate list that a text leads to. -/
def Offers (a : Assets) (reads : String → String → Prop) (text : String)
    (candidates : List String) : Prop :=
  ∃ k, a.Reaches reads text k ∧ a.candidates? k = some candidates

/-- What a candidate of a reached placeholder leads to is reached as well. -/
theorem Reaches.of_candidate {a : Assets} {reads : String → String → Prop}
    {text k c next : String} {candidates : List String} (hk : a.Reaches reads text k)
    (known : a.candidates? k = some candidates) (hc : c ∈ candidates)
    (h : a.Reaches reads c next) : a.Reaches reads text next := by
  induction h with
  | here h => exact hk.next ⟨candidates, c, known, hc, h⟩
  | next _ leads ih => exact ih.next leads

end Assets

namespace Expander

/-- A text has a marker for the placeholder. -/
def Reads (e : Expander) (text k : String) : Prop := k ∈ e.keys text

/-- A candidate of `k` has a marker for `next`. -/
def Refers (e : Expander) (a : Assets) (k next : String) : Prop :=
  ∃ candidates c, a.candidates? k = some candidates ∧ c ∈ candidates ∧ next ∈ e.keys c

variable {e : Expander} {a : Assets}

theorem mem_keys_iff {text k : String} :
    k ∈ e.keys text ↔ ∃ m ∈ (Template.parse text).markers, e.key m = k := List.mem_map

/-- Names that are closed under references hold all that a text leads to, if they hold those it
reads. So what is true of their candidate lists is true of all that the text leads to. -/
theorem forall_offers_of_closed {P : List String → Prop} {text : String} (names : List String)
    (start : ∀ k ∈ e.keys text, k ∈ names)
    (closed : ∀ entry ∈ a.entries, entry.1 ∈ names →
      ∀ c ∈ entry.2, ∀ k ∈ e.keys c, k ∈ names)
    (h : ∀ entry ∈ a.entries, entry.1 ∈ names → P entry.2) :
    ∀ candidates, a.Offers e.Reads text candidates → P candidates := by
  have reached (k : String) (hk : a.Reaches e.Reads text k) : k ∈ names := by
    induction hk with
    | here read => exact start _ read
    | next _ leads ih =>
        obtain ⟨candidates, c, known, hc, read⟩ := leads
        exact closed _ (Assets.candidates?_eq_some_iff.mp known) ih c hc _ read
  intro candidates offered
  obtain ⟨k, hk, known⟩ := offered
  exact h _ (Assets.candidates?_eq_some_iff.mp known) (reached k hk)

theorem mem_references_iff {texts : List String} {k : String} :
    k ∈ e.references texts ↔ ∃ text ∈ texts, k ∈ e.keys text := by
  simp only [references, Names.mem_ofList, List.mem_flatMap]

theorem references_nodup (texts : List String) : (e.references texts).Nodup :=
  Names.nodup_of_ascending (Names.ascending_ofList _)

theorem keys_congr {l : Expander} (same : l.optionalMarkers = e.optionalMarkers) (text : String) :
    l.keys text = e.keys text := by
  unfold keys key optional?
  rw [same]

theorem refers_congr {l : Expander} (same : l.optionalMarkers = e.optionalMarkers)
    {k next : String} : l.Refers a k next ↔ e.Refers a k next := by
  simp only [Refers, keys_congr same]

theorem contains_of_refers {k next : String} (h : e.Refers a k next) : a.contains k = true := by
  obtain ⟨candidates, -, known, -⟩ := h
  rw [Assets.contains, known]
  rfl

theorem nests_of_refers {k next : String} (h : e.Refers a k next) : a.Nests k := by
  obtain ⟨candidates, c, known, hc, read⟩ := h
  obtain ⟨m, hm, -⟩ := mem_keys_iff.mp read
  exact ⟨candidates, c, known, hc, List.ne_nil_of_mem hm⟩

theorem reads_congr {l : Expander} (same : l.optionalMarkers = e.optionalMarkers) :
    l.Reads = e.Reads := by
  unfold Reads
  rw [funext (keys_congr same)]

end Expander

end Phrasebook
