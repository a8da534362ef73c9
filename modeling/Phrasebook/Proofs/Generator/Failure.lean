import Phrasebook.Proofs.Generator.Templates

/-! # How a generation fails

`FailsWith` collects the runs in which a generator fails, from a template picked at random or from
one at a position that the dataset has, alone or in a batch. `cause_of_failsWith` traces all of them
back: either there is no template at all, or the expansion of a template fails with the same error.
-/

namespace Phrasebook.Generator

open Phrasebook.Random

/-- A generation fails with an error on a stream; positions are within the templates. -/
inductive FailsWith (g : Generator) (s : Words) (err : ExpandError) : Prop where
  | generate (h : (g.generate.run s).1 = .error err)
  | generateMany (count : Nat) (h : ((g.generateMany count).run s).1 = .error err)
  | generateIndexed (index : Nat) (inRange : index < g.dataset.templates.length)
      (h : ((g.generateIndexed index).run s).1 = .error err)
  | generateManyIndexed (index count : Nat) (inRange : index < g.dataset.templates.length)
      (h : ((g.generateManyIndexed index count).run s).1 = .error err)

/-- Every generation ends in phrases on a stream; positions are within the templates. -/
structure Succeeds (g : Generator) (s : Words) : Prop where
  generate : ∃ phrase, (g.generate.run s).1 = .ok phrase
  generateMany : ∀ count, ∃ phrases, ((g.generateMany count).run s).1 = .ok phrases
  generateIndexed : ∀ index < g.dataset.templates.length,
    ∃ phrase, ((g.generateIndexed index).run s).1 = .ok phrase
  generateManyIndexed : ∀ index < g.dataset.templates.length, ∀ count,
    ∃ phrases, ((g.generateManyIndexed index count).run s).1 = .ok phrases

variable {g : Generator} {s : Words} {err : ExpandError}

theorem exists_ok_of_ne_error {α : Type} {r : Except ExpandError α}
    (h : ∀ err, r ≠ .error err) : ∃ a, r = .ok a := by
  cases r with
  | error err => exact absurd rfl (h err)
  | ok a => exact ⟨a, rfl⟩

theorem succeeds_of_not_failsWith (h : ∀ err, ¬ g.FailsWith s err) : g.Succeeds s where
  generate := exists_ok_of_ne_error fun err hr => h err (.generate hr)
  generateMany count := exists_ok_of_ne_error fun err hr => h err (.generateMany count hr)
  generateIndexed index inRange :=
    exists_ok_of_ne_error fun err hr => h err (.generateIndexed index inRange hr)
  generateManyIndexed index inRange count :=
    exists_ok_of_ne_error fun err hr => h err (.generateManyIndexed index count inRange hr)

/-! ## Causes -/

/-- A batch has no failures but those of the draw that it repeats. -/
theorem ends_of_ends_batch_error {draw : Draw ExpandError String} {count : Nat}
    (h : (batch draw count).Ends (.error err)) : draw.Ends (.error err) := by
  induction count with
  | zero => simp [batch] at h
  | succ count ih =>
      rw [batch, Draw.ends_bind_iff] at h
      rcases h with ⟨phrase, -, h⟩ | ⟨err', h, eq⟩
      · exact ih (Draw.ends_error_bind_pure_iff.mp h)
      · obtain rfl := Except.error.inj eq
        exact h

theorem ends_generateFrom_error_iff {template : String} :
    (g.generateFrom template).Ends (.error err) ↔
      (g.expander.expand g.dataset.assets template).Ends (.error err) :=
  Draw.ends_error_bind_pure_iff

theorem ends_generate_error_iff :
    g.generate.Ends (.error err) ↔
      (g.dataset.templates = [] ∧ err = .noTemplates) ∨
      ∃ t ∈ g.dataset.templates, (g.expander.expand g.dataset.assets t).Ends (.error err) := by
  rw [generate_eq, Draw.ends_bind_iff]
  simp only [ends_anyTemplate_ok_iff, ends_anyTemplate_error_iff, ends_generateFrom_error_iff,
    Except.error.injEq, exists_eq_right']
  exact or_comm

theorem exists_template_of_ends_generateIndexed_error {index : Nat}
    (inRange : index < g.dataset.templates.length)
    (h : (g.generateIndexed index).Ends (.error err)) :
    ∃ t ∈ g.dataset.templates, (g.expander.expand g.dataset.assets t).Ends (.error err) := by
  rw [generateIndexed, List.getElem?_eq_getElem inRange] at h
  exact ⟨_, List.getElem_mem inRange, ends_generateFrom_error_iff.mp h⟩

/-- A failing generation lacks templates, or fails as the expansion of one of them does. -/
theorem cause_of_failsWith (h : g.FailsWith s err) :
    (g.dataset.templates = [] ∧ err = .noTemplates) ∨
      ∃ t ∈ g.dataset.templates, (g.expander.expand g.dataset.assets t).Ends (.error err) := by
  cases h with
  | generate h => exact ends_generate_error_iff.mp (h ▸ Draw.ends_run _ s)
  | generateMany count h =>
      exact ends_generate_error_iff.mp (ends_of_ends_batch_error (h ▸ Draw.ends_run _ s))
  | generateIndexed index inRange h =>
      exact Or.inr (exists_template_of_ends_generateIndexed_error inRange (h ▸ Draw.ends_run _ s))
  | generateManyIndexed index count inRange h =>
      exact Or.inr (exists_template_of_ends_generateIndexed_error inRange
        (ends_of_ends_batch_error (h ▸ Draw.ends_run _ s)))

end Phrasebook.Generator
