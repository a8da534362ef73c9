import Phrasebook.Proofs.Expander.Failure

/-! # Which phrases can fail

Whether some words make an expansion fail is a matter of the assets alone. `Stumbles` says it by
rules that follow the nesting: a marker stands for a placeholder without candidates, or its
candidates nest too deeply, or one of them stumbles itself. `exists_ends_error_iff_stumbles` finds
in these rules the failing ends of an expansion, and `stumbles_iff` solves them: somewhere the
phrase leads to a placeholder without candidates, or it leads further down than the limit allows.
-/

namespace Phrasebook

open Phrasebook.Random

namespace Assets

/-- A placeholder from which nothing can be picked: it is missing, or its list is empty. -/
def Lacks (a : Assets) (k : String) : Prop := a.candidates? k = none ∨ a.candidates? k = some []

end Assets

namespace Expander

/-- A text has a marker for the placeholder, and not an optional one that is never kept. -/
def Follows (e : Expander) (text k : String) : Prop :=
  ∃ m ∈ (Template.parse text).markers, e.MayKeep m ∧ e.key m = k

/-- The expansion of a text can fail, if candidates may be nested `room` deep. -/
inductive Stumbles (e : Expander) (a : Assets) : (room : Nat) → (text : String) → Prop where
  | lacking {room : Nat} {text k : String} (h : e.Follows text k) (lacks : a.Lacks k) :
      Stumbles e a room text
  | tooDeep {text k : String} (h : e.Follows text k) (nests : a.Nests k) : Stumbles e a 0 text
  | nested {room : Nat} {text k c : String} {candidates : List String} (h : e.Follows text k)
      (known : a.candidates? k = some candidates) (hc : c ∈ candidates)
      (inner : Stumbles e a room c) : Stumbles e a (room + 1) text

variable {e : Expander} {a : Assets} {room : Nat} {text k : String}

theorem Follows.markers_ne_nil (h : e.Follows text k) : (Template.parse text).markers ≠ [] := by
  obtain ⟨m, hm, -⟩ := h
  exact List.ne_nil_of_mem hm

theorem Stumbles.markers_ne_nil (h : e.Stumbles a room text) :
    (Template.parse text).markers ≠ [] := by
  cases h with
  | lacking h _ => exact h.markers_ne_nil
  | tooDeep h _ => exact h.markers_ne_nil
  | nested h _ _ _ => exact h.markers_ne_nil

/-! ## Failing ends -/

theorem stumbles_of_ends_expandWithin {chain : List String} {err : ExpandError}
    (h : (e.expandWithin a room chain (Template.parse text)).Ends (.error err)) :
    e.Stumbles a room text := by
  induction room generalizing chain text with
  | zero =>
      rw [expandWithin_eq] at h
      obtain ⟨m, hm, may, ⟨missing, -⟩ | ⟨empty, -⟩ | ⟨candidates, c, known, hc, markers, -⟩⟩ :=
        ends_fill_error_cases h
      · exact .lacking ⟨m, hm, may, rfl⟩ (Or.inl missing)
      · exact .lacking ⟨m, hm, may, rfl⟩ (Or.inr empty)
      · exact .tooDeep ⟨m, hm, may, rfl⟩ ⟨candidates, c, known, hc, markers⟩
  | succ room ih =>
      obtain ⟨m, hm, may, ⟨missing, -⟩ | ⟨empty, -⟩ | ⟨candidates, c, known, hc, -, hf⟩⟩ :=
        ends_fill_error_cases h
      · exact .lacking ⟨m, hm, may, rfl⟩ (Or.inl missing)
      · exact .lacking ⟨m, hm, may, rfl⟩ (Or.inr empty)
      · exact .nested ⟨m, hm, may, rfl⟩ known hc (ih hf)

section

variable {enter : String → Template → Draw ExpandError String}

theorem exists_ends_substitute_error (lacks : a.Lacks k) :
    ∃ err, (e.substitute a enter k).Ends (.error err) := by
  rcases lacks with missing | empty
  · exact ⟨_, ends_substitute_error_iff.mpr (Or.inl ⟨missing, rfl⟩)⟩
  · exact ⟨_, ends_substitute_error_iff.mpr (Or.inr (Or.inl ⟨empty, rfl⟩))⟩

theorem ends_substitute_error_of_entered (noTerm : e.searchTerm? = none) {c : String}
    {candidates : List String} {err : ExpandError} (known : a.candidates? k = some candidates)
    (hc : c ∈ candidates) (markers : (Template.parse c).markers ≠ [])
    (h : (enter k (Template.parse c)).Ends (.error err)) :
    (e.substitute a enter k).Ends (.error err) := by
  have offered : e.IsEligible candidates c := (isEligible_iff_mem noTerm).mpr hc
  have fails : (replacement (enter k) c).Ends (.error err) := by
    rwa [replacement_of_markers markers]
  exact ends_substitute_error_iff.mpr (Or.inr (Or.inr ⟨candidates, c, known, offered, fails⟩))

end

theorem exists_ends_expandWithin_error {chain : List String} {err : ExpandError}
    (h : e.Follows text k) (hs : (e.substitute a (e.entering a room chain) k).Ends (.error err)) :
    ∃ err, (e.expandWithin a room chain (Template.parse text)).Ends (.error err) := by
  obtain ⟨m, hm, may, rfl⟩ := h
  rw [expandWithin_eq]
  exact exists_ends_fill_error hm (ends_resolve_error_iff.mpr ⟨may, hs⟩)

theorem exists_ends_of_stumbles (noTerm : e.searchTerm? = none) (h : e.Stumbles a room text)
    (chain : List String) :
    ∃ err, (e.expandWithin a room chain (Template.parse text)).Ends (.error err) := by
  induction h generalizing chain with
  | lacking h lacks =>
      obtain ⟨err, hs⟩ := exists_ends_substitute_error lacks
      exact exists_ends_expandWithin_error h hs
  | tooDeep h nests =>
      obtain ⟨candidates, c, known, hc, markers⟩ := nests
      exact exists_ends_expandWithin_error h
        (ends_substitute_error_of_entered noTerm known hc markers (.fail _))
  | @nested room text k c candidates h known hc inner ih =>
      obtain ⟨err, hf⟩ := ih (chain ++ [k])
      exact exists_ends_expandWithin_error h
        (ends_substitute_error_of_entered noTerm known hc inner.markers_ne_nil hf)

theorem exists_ends_error_iff_stumbles (noTerm : e.searchTerm? = none) {chain : List String} :
    (∃ err, (e.expandWithin a room chain (Template.parse text)).Ends (.error err)) ↔
      e.Stumbles a room text :=
  ⟨fun ⟨_, h⟩ => stumbles_of_ends_expandWithin h, fun h => exists_ends_of_stumbles noTerm h chain⟩

/-! ## Routes -/

/-- Placeholders that lead on from a text, through markers that may be kept. -/
structure IsRoute (e : Expander) (a : Assets) (text : String) (ks : List String) : Prop where
  start : ∀ k ∈ ks.head?, e.Follows text k
  links : ks.IsChain (a.LeadsOn e.Follows)

/-- A route that takes up all the room and ends at a placeholder that nests once more. -/
structure IsDeepRoute (e : Expander) (a : Assets) (room : Nat) (text : String)
    (ks : List String) : Prop extends e.IsRoute a text ks where
  length : ks.length = room + 1
  known : ∀ k ∈ ks, a.contains k = true
  nests : ∀ k ∈ ks.getLast?, a.Nests k

/-- If a placeholder makes every text stumble that follows it, it makes the texts stumble that lead
to it. -/
theorem stumbles_of_reaches (h : a.Reaches e.Follows text k) {room : Nat}
    (hk : ∀ r ≤ room, ∀ t, e.Follows t k → e.Stumbles a r t) : e.Stumbles a room text := by
  induction h with
  | here h => exact hk room le_rfl text h
  | @next k next _ leads ih =>
      -- What holds of `next` holds of `k` too: its candidate is entered, or finds no room.
      obtain ⟨candidates, c, known, hc, follows⟩ := leads
      refine ih fun r hr t ht => ?_
      cases r with
      | zero => exact .tooDeep ht ⟨candidates, c, known, hc, follows.markers_ne_nil⟩
      | succ r => exact .nested ht known hc (hk r (by omega) c follows)

theorem stumbles_of_isDeepRoute {ks : List String} (h : e.IsDeepRoute a room text ks) :
    e.Stumbles a room text := by
  induction ks generalizing room text with
  | nil => exact absurd h.length (by simp)
  | cons k ks ih =>
      have follows : e.Follows text k := h.start k rfl
      cases ks with
      | nil =>
          obtain rfl : room = 0 := by simpa using h.length.symm
          exact .tooDeep follows (h.nests k rfl)
      | cons next ks =>
          obtain ⟨⟨candidates, c, known, hc, onward⟩, links⟩ := List.isChain_cons_cons.mp h.links
          obtain ⟨room, rfl⟩ : ∃ less, room = less + 1 := ⟨ks.length, by simpa using h.length.symm⟩
          refine .nested follows known hc (ih ⟨⟨by simpa using onward, links⟩, ?_, ?_, ?_⟩)
          · simpa using h.length
          · exact fun k hk => h.known k (List.mem_cons_of_mem _ hk)
          · simpa using h.nests

theorem IsDeepRoute.cons {c : String} {candidates ks : List String} (h : e.Follows text k)
    (known : a.candidates? k = some candidates) (hc : c ∈ candidates)
    (deep : e.IsDeepRoute a room c ks) : e.IsDeepRoute a (room + 1) text (k :: ks) where
  start := by simpa using h
  links := deep.links.cons fun next hn => ⟨candidates, c, known, hc, deep.start next hn⟩
  length := by simp [deep.length]
  known := by simpa [Assets.contains, known] using deep.known
  nests := by
    have ne : ks ≠ [] := List.ne_nil_of_length_eq_add_one deep.length
    rw [List.getLast?_cons_of_ne_nil ne]
    exact deep.nests

theorem Stumbles.cases_route (h : e.Stumbles a room text) :
    (∃ k, a.Reaches e.Follows text k ∧ a.Lacks k) ∨ ∃ ks, e.IsDeepRoute a room text ks := by
  induction h with
  | @lacking room text k h lacks => exact Or.inl ⟨k, .here h, lacks⟩
  | @tooDeep text k h nests =>
      refine Or.inr ⟨[k], ⟨⟨by simpa using h, .singleton k⟩, rfl, ?_, by simpa using nests⟩⟩
      obtain ⟨candidates, -, known, -⟩ := nests
      simp [Assets.contains, known]
  | @nested room text k c candidates h known hc _ ih =>
      rcases ih with ⟨last, reached, lacks⟩ | ⟨ks, deep⟩
      · exact Or.inl ⟨last, Assets.Reaches.of_candidate (.here h) known hc reached, lacks⟩
      · exact Or.inr ⟨k :: ks, deep.cons h known hc⟩

theorem stumbles_iff :
    e.Stumbles a room text ↔
      (∃ k, a.Reaches e.Follows text k ∧ a.Lacks k) ∨ ∃ ks, e.IsDeepRoute a room text ks := by
  refine ⟨Stumbles.cases_route, ?_⟩
  rintro (⟨k, reached, lacks⟩ | ⟨ks, deep⟩)
  · exact stumbles_of_reaches reached fun r _ t follows => .lacking follows lacks
  · exact stumbles_of_isDeepRoute deep

/-- Without a search term, some words make the expansion of a phrase fail just if the phrase leads
to a placeholder that is missing or has no candidate, or down a route of one more placeholder than
the limit allows for, which does not end there. -/
theorem exists_run_expand_error_iff (e : Expander) (noTerm : e.searchTerm? = none) (a : Assets)
    (narrow : a.IsNarrow) (phrase : String) :
    (∃ (s : Words) (err : ExpandError), ((e.expand a phrase).run s).1 = .error err) ↔
      (∃ k, a.Reaches e.Follows phrase k ∧
        (a.candidates? k = none ∨ a.candidates? k = some [])) ∨
      ∃ ks, e.IsDeepRoute a e.depthLimit phrase ks := by
  have steered : (e.expand a phrase).Narrow := narrow_expandWithin narrow e.depthLimit [] _
  rw [exists_comm]
  simp only [Draw.exists_run_iff_ends steered]
  exact (exists_ends_error_iff_stumbles noTerm).trans stumbles_iff

/-- Candidates that come round to `a`. The `b` that is missing is never asked for. -/
def roundabout : Assets := Assets.ofList [("a", ["x", "[b?0] [c]"]), ("c", ["y", "[a?1]"])]

/-- Below a limit of one, two placeholders in a row are too many. -/
theorem exists_run_expand_error_roundabout :
    searchTerm? ⟨1, true, none⟩ = none ∧ roundabout.IsNarrow ∧
      ∃ (s : Words) (err : ExpandError),
        ((expand ⟨1, true, none⟩ roundabout "[b?0] [a?50]").run s).1 = .error err := by
  have noTerm : searchTerm? ⟨1, true, none⟩ = none := by decide +kernel
  have narrow : roundabout.IsNarrow := Assets.isNarrow_of_forall_mem (by decide)
  refine ⟨noTerm, narrow, (exists_run_expand_error_iff _ noTerm _ narrow _).mpr (Or.inr ?_)⟩
  have knownA : roundabout.candidates? "a" = some ["x", "[b?0] [c]"] := by decide +kernel
  have knownC : roundabout.candidates? "c" = some ["y", "[a?1]"] := by decide +kernel
  have toA : Follows ⟨1, true, none⟩ "[b?0] [a?50]" "a" := by
    have optional : optional? ⟨1, true, none⟩ ⟨"a?50"⟩ = some ⟨"a", 50⟩ := by decide +kernel
    exact ⟨⟨"a?50"⟩, by decide +kernel, by simp [MayKeep, optional], by decide +kernel⟩
  have toC : Follows ⟨1, true, none⟩ "[b?0] [c]" "c" := by
    have plain : optional? ⟨1, true, none⟩ ⟨"c"⟩ = none := by decide +kernel
    exact ⟨⟨"c"⟩, by decide +kernel, by simp [MayKeep, plain], by decide +kernel⟩
  have leads : roundabout.LeadsOn (Follows ⟨1, true, none⟩) "a" "c" :=
    ⟨_, "[b?0] [c]", knownA, by simp, toC⟩
  exact ⟨["a", "c"], {
    start := by simpa using toA
    links := List.isChain_pair.mpr leads
    length := by decide
    known := by simp [Assets.contains, knownA, knownC]
    nests := by simpa using ⟨_, "[a?1]", knownC, by simp, by decide +kernel⟩ }⟩

end Expander

end Phrasebook
