import Phrasebook.Proofs.Expander.Optional
import Phrasebook.Proofs.Random.Picks

/-! # What an expansion draws

An expansion visits the markers of a phrase from left to right, and those of a candidate that was
picked before the ones behind it. At each visit it rolls if the marker is read as optional, and it
picks a candidate if the marker is kept and has candidates (`Meets`). The visit of a marker without
candidates, or of one whose candidate nests too deeply, is the last (`Visits`).

`picks_expand` says that these visits account for every pick that an expansion makes. They are known
from the picks: no other visits account for the same ones (`Visits.unique`).
-/

namespace Phrasebook.Expander

open Phrasebook.Random

/-- What is drawn for a marker that an expansion reaches. -/
structure Visit where
  marker : Marker
  /-- The number that was rolled, counted from zero, if the marker was rolled for. -/
  roll : Option Nat
  /-- How many candidates there were to pick from, and the place of the one that was picked. -/
  choice : Option (Nat × Nat)

namespace Visit

/-- The picks of a visit. The roll comes first. -/
def picks (v : Visit) : List (Nat × Nat) := (v.roll.map (Prod.mk 100)).toList ++ v.choice.toList

def isRolled (v : Visit) : Bool := v.roll.isSome

/-- Whether the marker was resolved to a candidate. -/
def isResolved (v : Visit) : Bool := v.choice.isSome

end Visit

/-- How an expansion goes on from a visit. -/
inductive Turn where
  /-- It has failed. -/
  | stop
  /-- It turns to what stands behind the marker. -/
  | pass
  /-- It turns to the segments of a candidate first. -/
  | enter (segs : List Segment)

/-- Only a candidate with markers of its own is entered. -/
def turnOf (candidate : String) : Turn :=
  if (Template.parse candidate).isLiteral then .pass else .enter (Template.parse candidate).segments

/-- Whether a marker is kept at a roll. Only one that is read as optional is rolled for. -/
inductive Rolls (e : Expander) (m : Marker) : Option Nat → Bool → Prop where
  | sure (plain : e.optional? m = none) : Rolls e m none true
  | chance {o : OptionalMarker} {i : Nat} (read : e.optional? m = some o) (range : i < 100) :
      Rolls e m (some i) (decide (i + 1 ≤ o.chance))

/-- What can be drawn for a marker by itself, and how it goes on from there. -/
inductive Meets (e : Expander) (a : Assets) (m : Marker) : Visit → Turn → Prop where
  | dropped {roll : Option Nat} (rolls : e.Rolls m roll false) : Meets e a m ⟨m, roll, none⟩ .pass
  | lacking {roll : Option Nat} (rolls : e.Rolls m roll true)
      (nothing : a.candidates? (e.key m) = none ∨ a.candidates? (e.key m) = some []) :
      Meets e a m ⟨m, roll, none⟩ .stop
  | chosen {roll : Option Nat} {candidates : List String} {i : Nat} {c : String}
      (rolls : e.Rolls m roll true) (known : a.candidates? (e.key m) = some candidates)
      (picked : (e.eligible candidates)[i]? = some c) :
      Meets e a m ⟨m, roll, some ((e.eligible candidates).length, i)⟩ (turnOf c)

/-- The visits that segments can bring about, in order, where `room` more candidates may be entered,
and whether the expansion comes to the end of the segments. -/
inductive Visits (e : Expander) (a : Assets) : Nat → List Segment → List Visit → Bool → Prop where
  | nil {room : Nat} : Visits e a room [] [] true
  | literal {room : Nat} {text : String} {rest : List Segment} {visits : List Visit} {ended : Bool}
      (behind : Visits e a room rest visits ended) :
      Visits e a room (.literal text :: rest) visits ended
  | stop {room : Nat} {m : Marker} {rest : List Segment} {v : Visit} (meets : e.Meets a m v .stop) :
      Visits e a room (.marker m :: rest) [v] false
  | pass {room : Nat} {m : Marker} {rest : List Segment} {v : Visit} {visits : List Visit}
      {ended : Bool} (meets : e.Meets a m v .pass) (behind : Visits e a room rest visits ended) :
      Visits e a room (.marker m :: rest) (v :: visits) ended
  | refused {m : Marker} {rest segs : List Segment} {v : Visit}
      (meets : e.Meets a m v (.enter segs)) : Visits e a 0 (.marker m :: rest) [v] false
  | broken {room : Nat} {m : Marker} {rest segs : List Segment} {v : Visit} {inner : List Visit}
      (meets : e.Meets a m v (.enter segs)) (inside : Visits e a room segs inner false) :
      Visits e a (room + 1) (.marker m :: rest) (v :: inner) false
  | entered {room : Nat} {m : Marker} {rest segs : List Segment} {v : Visit}
      {inner visits : List Visit} {ended : Bool} (meets : e.Meets a m v (.enter segs))
      (inside : Visits e a room segs inner true)
      (behind : Visits e a (room + 1) rest visits ended) :
      Visits e a (room + 1) (.marker m :: rest) (v :: (inner ++ visits)) ended

variable {e : Expander} {a : Assets} {m : Marker} {picks more more' : List (Nat × Nat)}

/-! ## The visits are known from the picks -/

theorem Rolls.unique {roll roll' : Option Nat} {kept kept' : Bool} (h : e.Rolls m roll kept)
    (h' : e.Rolls m roll' kept')
    (same : (roll.map (Prod.mk 100)).toList ++ more = (roll'.map (Prod.mk 100)).toList ++ more') :
    roll = roll' ∧ kept = kept' ∧ more = more' := by
  cases h with
  | sure plain =>
      cases h' with
      | sure => exact ⟨rfl, rfl, by simpa using same⟩
      | chance read => simp [plain] at read
  | chance read =>
      cases h' with
      | sure plain => simp [plain] at read
      | chance read' =>
          obtain rfl := Option.some.inj (read.symm.trans read')
          obtain ⟨rfl, rfl⟩ := by simpa using same
          exact ⟨rfl, rfl, rfl⟩

theorem not_picked_of_lacking {key c : String} {candidates : List String} {i : Nat}
    (nothing : a.candidates? key = none ∨ a.candidates? key = some [])
    (known : a.candidates? key = some candidates) : (e.eligible candidates)[i]? ≠ some c := by
  rcases nothing with unknown | empty
  · simp [known] at unknown
  · obtain rfl := Option.some.inj (known.symm.trans empty)
    simp [eligible_eq_nil_iff.mpr]

theorem Meets.unique {v v' : Visit} {turn turn' : Turn} (h : e.Meets a m v turn)
    (h' : e.Meets a m v' turn') (same : v.picks ++ more = v'.picks ++ more') :
    v = v' ∧ turn = turn' ∧ more = more' := by
  simp only [Visit.picks, List.append_assoc] at same
  cases h with
  | dropped rolls =>
      cases h' with
      | dropped rolls' =>
          obtain ⟨rfl, -, tails⟩ := rolls.unique rolls' same
          exact ⟨rfl, rfl, tails⟩
      | lacking rolls' => exact absurd (rolls.unique rolls' same).2.1 (by decide)
      | chosen rolls' => exact absurd (rolls.unique rolls' same).2.1 (by decide)
  | lacking rolls nothing =>
      cases h' with
      | dropped rolls' => exact absurd (rolls.unique rolls' same).2.1 (by decide)
      | lacking rolls' =>
          obtain ⟨rfl, -, tails⟩ := rolls.unique rolls' same
          exact ⟨rfl, rfl, tails⟩
      | chosen rolls' known picked => exact absurd picked (not_picked_of_lacking nothing known)
  | chosen rolls known picked =>
      cases h' with
      | dropped rolls' => exact absurd (rolls.unique rolls' same).2.1 (by decide)
      | lacking rolls' nothing => exact absurd picked (not_picked_of_lacking nothing known)
      | chosen rolls' known' picked' =>
          obtain ⟨rfl, -, tails⟩ := rolls.unique rolls' same
          obtain rfl := Option.some.inj (known.symm.trans known')
          obtain ⟨rfl, rfl⟩ := by simpa using tails
          obtain rfl := Option.some.inj (picked.symm.trans picked')
          exact ⟨rfl, rfl, rfl⟩

/-- The visits that can come behind a visit, by the turn that is taken there. -/
def Goes (e : Expander) (a : Assets) :
    (room : Nat) → Turn → (rest : List Segment) → List Visit → (ended : Bool) → Prop
  | _, .stop, _, visits, ended => visits = [] ∧ ended = false
  | room, .pass, rest, visits, ended => e.Visits a room rest visits ended
  | 0, .enter _, _, visits, ended => visits = [] ∧ ended = false
  | room + 1, .enter segs, rest, visits, ended =>
    (e.Visits a room segs visits false ∧ ended = false) ∨
      ∃ inner behind, e.Visits a room segs inner true ∧ e.Visits a (room + 1) rest behind ended ∧
        visits = inner ++ behind

/-- The first visit is known from the picks, and so is the turn that is taken there. -/
theorem Visits.goes {room : Nat} {rest : List Segment} {visits : List Visit} {ended : Bool}
    {v : Visit} {turn : Turn} (h : e.Visits a room (.marker m :: rest) visits ended)
    (meets : e.Meets a m v turn) (same : v.picks ++ more = visits.flatMap Visit.picks ++ more') :
    ∃ behind, visits = v :: behind ∧ more = behind.flatMap Visit.picks ++ more' ∧
      e.Goes a room turn rest behind ended := by
  cases h with
  | stop meets' =>
      obtain ⟨rfl, rfl, tails⟩ := meets.unique meets' (by simpa using same)
      exact ⟨[], rfl, tails, rfl, rfl⟩
  | pass meets' behind =>
      obtain ⟨rfl, rfl, tails⟩ := meets.unique meets' (by simpa using same)
      exact ⟨_, rfl, tails, behind⟩
  | refused meets' =>
      obtain ⟨rfl, rfl, tails⟩ := meets.unique meets' (by simpa using same)
      exact ⟨[], rfl, tails, rfl, rfl⟩
  | broken meets' inside =>
      obtain ⟨rfl, rfl, tails⟩ := meets.unique meets' (by simpa using same)
      exact ⟨_, rfl, tails, Or.inl ⟨inside, rfl⟩⟩
  | entered meets' inside behind =>
      obtain ⟨rfl, rfl, tails⟩ := meets.unique meets' (by simpa using same)
      exact ⟨_, rfl, by simpa using tails, Or.inr ⟨_, _, inside, behind, rfl⟩⟩

/-- The same picks are accounted for in one way only, whatever picks come behind them. -/
theorem Visits.unique {room : Nat} {segs : List Segment} {visits visits' : List Visit}
    {ended ended' : Bool} (h : e.Visits a room segs visits ended)
    (h' : e.Visits a room segs visits' ended')
    (same : visits.flatMap Visit.picks ++ more = visits'.flatMap Visit.picks ++ more') :
    visits = visits' ∧ ended = ended' ∧ more = more' := by
  induction h generalizing visits' ended' more more' with
  | nil =>
      cases h'
      exact ⟨rfl, rfl, same⟩
  | literal behind ih =>
      cases h' with
      | literal behind' => exact ih behind' same
  | stop meets =>
      obtain ⟨_, rfl, tails, rfl, rfl⟩ := h'.goes meets (by simpa using same)
      exact ⟨rfl, rfl, tails⟩
  | pass meets behind ih =>
      rw [List.flatMap_cons, List.append_assoc] at same
      obtain ⟨_, rfl, tails, behind'⟩ := h'.goes meets same
      obtain ⟨rfl, rfl, tails⟩ := ih behind' tails
      exact ⟨rfl, rfl, tails⟩
  | refused meets =>
      obtain ⟨_, rfl, tails, rfl, rfl⟩ := h'.goes meets (by simpa using same)
      exact ⟨rfl, rfl, tails⟩
  | broken meets inside ih =>
      rw [List.flatMap_cons, List.append_assoc] at same
      obtain ⟨_, rfl, tails, ⟨inside', rfl⟩ | ⟨_, _, inside', -, rfl⟩⟩ := h'.goes meets same
      · obtain ⟨rfl, -, tails⟩ := ih inside' tails
        exact ⟨rfl, rfl, tails⟩
      · rw [List.flatMap_append, List.append_assoc] at tails
        obtain ⟨-, ended, -⟩ := ih inside' tails
        contradiction
  | entered meets inside behind ihInside ihBehind =>
      rw [List.flatMap_cons, List.flatMap_append, List.append_assoc, List.append_assoc] at same
      obtain ⟨_, rfl, tails, ⟨inside', rfl⟩ | ⟨_, _, inside', behind', rfl⟩⟩ := h'.goes meets same
      · obtain ⟨-, ended, -⟩ := ihInside inside' tails
        contradiction
      · rw [List.flatMap_append, List.append_assoc] at tails
        obtain ⟨rfl, -, tails⟩ := ihInside inside' tails
        obtain ⟨rfl, rfl, tails⟩ := ihBehind behind' tails
        exact ⟨rfl, rfl, tails⟩

/-! ## Every pick belongs to a visit -/

section

variable {room : Nat} {r : Except ExpandError String}
  {enter : String → Template → Draw ExpandError String}

/-- Whether a marker is kept is settled by a roll at most, and without a failure. -/
theorem exists_rolls {settled : Except ExpandError Bool}
    (h : (e.keeps m).EndsBy picks settled) :
    ∃ roll kept, settled = .ok kept ∧ e.Rolls m roll kept ∧
      picks = (roll.map (Prod.mk 100)).toList := by
  unfold keeps at h
  cases read : e.optional? m with
  | none =>
      simp only [read, Draw.endsBy_done_iff] at h
      obtain ⟨rfl, rfl⟩ := h
      exact ⟨none, true, rfl, .sure read, rfl⟩
  | some o =>
      simp only [read] at h
      obtain ⟨rolled, number, rfl⟩ := Draw.endsBy_bind_pure_iff.mp h
      obtain ⟨i, _, last, rfl⟩ := Draw.endsBy_pick_iff.mp number
      obtain ⟨rfl, rfl⟩ := Draw.endsBy_done_iff.mp last
      exact ⟨some i, _, rfl, .chance read i.isLt, rfl⟩

theorem endsBy_choose_ok {key c : String} {candidates : List String}
    (h : (e.choose key candidates).EndsBy picks (.ok c)) :
    ∃ i, (e.eligible candidates)[i]? = some c ∧
      picks = [((e.eligible candidates).length, i)] := by
  unfold choose at h
  split at h
  · simp at h
  · obtain ⟨i, _, picked, rfl, same⟩ := Draw.endsBy_element_iff.mp h
    obtain rfl := Except.ok.inj same
    exact ⟨i, picked, rfl⟩

theorem endsBy_choose_error {key : String} {err : ExpandError} {candidates : List String}
    (h : (e.choose key candidates).EndsBy picks (.error err)) : candidates = [] ∧ picks = [] := by
  unfold choose at h
  split at h
  · rename_i nothing
    obtain ⟨rfl, -⟩ := Draw.endsBy_fail_iff.mp h
    exact ⟨eligible_eq_nil_iff.mp nothing, rfl⟩
  · obtain ⟨_, _, _, _, same⟩ := Draw.endsBy_element_iff.mp h
    contradiction

/-- A candidate is picked by one pick among those that are eligible. -/
theorem endsBy_candidate_ok {key c : String} (h : (e.candidate a key).EndsBy picks (.ok c)) :
    ∃ candidates i, a.candidates? key = some candidates ∧
      (e.eligible candidates)[i]? = some c ∧
      picks = [((e.eligible candidates).length, i)] := by
  unfold candidate at h
  split at h
  · simp at h
  · rename_i candidates known
    obtain ⟨i, picked, rfl⟩ := endsBy_choose_ok h
    exact ⟨candidates, i, known, picked, rfl⟩

/-- Without candidates nothing is picked. -/
theorem endsBy_candidate_error {key : String} {err : ExpandError}
    (h : (e.candidate a key).EndsBy picks (.error err)) :
    (a.candidates? key = none ∨ a.candidates? key = some []) ∧ picks = [] := by
  unfold candidate at h
  split at h
  · rename_i unknown
    obtain ⟨rfl, -⟩ := Draw.endsBy_fail_iff.mp h
    exact ⟨Or.inl unknown, rfl⟩
  · rename_i candidates known
    obtain ⟨rfl, rfl⟩ := endsBy_choose_error h
    exact ⟨Or.inr known, rfl⟩

/-- The visits lead from a marker to what stands behind it, or else to a failure. -/
def Leads (e : Expander) (a : Assets) (room : Nat) (m : Marker) (visits : List Visit) :
    (past : Bool) → Prop
  | false => ∀ rest, e.Visits a room (.marker m :: rest) visits false
  | true => ∀ rest behind ended, e.Visits a room rest behind ended →
    e.Visits a room (.marker m :: rest) (visits ++ behind) ended

/-- The picks of a candidate that is entered belong to visits inside it. -/
def Accounts (e : Expander) (a : Assets) (room : Nat)
    (enter : String → Template → Draw ExpandError String) : Prop :=
  ∀ key t picks r, (enter key t).EndsBy picks r → ∃ inner, picks = inner.flatMap Visit.picks ∧
    ∀ m v, e.Meets a m v (.enter t.segments) → e.Leads a room m (v :: inner) r.isOk

theorem exists_leads_replacement {key c : String} {v : Visit} (accounts : e.Accounts a room enter)
    (meets : e.Meets a m v (turnOf c)) (h : (replacement (enter key) c).EndsBy picks r) :
    ∃ inner, picks = inner.flatMap Visit.picks ∧ e.Leads a room m (v :: inner) r.isOk := by
  rw [replacement_eq] at h
  unfold turnOf at meets
  by_cases literal : (Template.parse c).isLiteral
  · rw [if_pos literal] at h meets
    obtain ⟨rfl, rfl⟩ := Draw.endsBy_done_iff.mp h
    exact ⟨[], rfl, fun rest behind ended => .pass meets⟩
  · rw [if_neg literal] at h meets
    obtain ⟨inner, rfl, leads⟩ := accounts key _ _ _ h
    exact ⟨inner, rfl, leads m v meets⟩

theorem exists_leads_resolve (accounts : e.Accounts a room enter)
    (h : (e.resolve a enter m).EndsBy picks r) :
    ∃ visits, picks = visits.flatMap Visit.picks ∧ e.Leads a room m visits r.isOk := by
  rw [resolve_eq_keeps] at h
  rcases Draw.endsBy_bind_iff.mp h with ⟨kept, _, _, settled, rest, rfl⟩ | ⟨err, failed, rfl⟩
  · obtain ⟨roll, _, same, rolls, rfl⟩ := exists_rolls settled
    obtain rfl := Except.ok.inj same
    cases kept with
    | false =>
        obtain ⟨rfl, rfl⟩ := Draw.endsBy_done_iff.mp rest
        refine ⟨[⟨m, roll, none⟩], by simp [Visit.picks], ?_⟩
        exact fun rest behind ended => .pass (.dropped rolls)
    | true =>
        rw [if_pos rfl, substitute_eq] at rest
        rcases Draw.endsBy_bind_iff.mp rest with ⟨c, _, _, chosen, placed, rfl⟩ | ⟨err, failed, rfl⟩
        · obtain ⟨candidates, i, known, picked, rfl⟩ := endsBy_candidate_ok chosen
          have meets := Meets.chosen rolls known picked
          obtain ⟨inner, rfl, leads⟩ := exists_leads_replacement accounts meets placed
          exact ⟨_, by simp [Visit.picks], leads⟩
        · obtain ⟨lacking, rfl⟩ := endsBy_candidate_error failed
          refine ⟨[⟨m, roll, none⟩], by simp [Visit.picks], ?_⟩
          exact fun rest => .stop (.lacking rolls lacking)
  · obtain ⟨roll, kept, same, -⟩ := exists_rolls failed
    contradiction

theorem exists_visits_fill (accounts : e.Accounts a room enter) {segs : List Segment}
    (h : (e.fill a enter segs).EndsBy picks r) :
    ∃ visits, picks = visits.flatMap Visit.picks ∧ e.Visits a room segs visits r.isOk := by
  induction segs generalizing picks r with
  | nil =>
      obtain ⟨rfl, rfl⟩ := Draw.endsBy_done_iff.mp h
      exact ⟨[], rfl, .nil⟩
  | cons seg segs ih =>
      cases seg with
      | literal text =>
          obtain ⟨r, tail, rfl⟩ := Draw.endsBy_bind_pure_iff.mp h
          obtain ⟨visits, rfl, behind⟩ := ih tail
          refine ⟨visits, rfl, ?_⟩
          cases r <;> exact .literal behind
      | marker m =>
          rcases Draw.endsBy_bind_iff.mp h with ⟨_, _, _, head, rest, rfl⟩ | ⟨err, failed, rfl⟩
          · obtain ⟨visits, rfl, leads⟩ := exists_leads_resolve accounts head
            obtain ⟨r, tail, rfl⟩ := Draw.endsBy_bind_pure_iff.mp rest
            obtain ⟨behind, rfl, more⟩ := ih tail
            refine ⟨visits ++ behind, List.flatMap_append.symm, ?_⟩
            cases r <;> exact leads segs behind _ more
          · obtain ⟨visits, rfl, leads⟩ := exists_leads_resolve accounts failed
            exact ⟨visits, rfl, leads segs⟩

theorem exists_visits_expandWithin {chain : List String} {t : Template}
    (h : (e.expandWithin a room chain t).EndsBy picks r) :
    ∃ visits, picks = visits.flatMap Visit.picks ∧
      e.Visits a room t.segments visits r.isOk := by
  induction room generalizing chain t picks r with
  | zero =>
      have accounts : e.Accounts a 0 (e.entering a 0 chain) := by
        intro key t picks r h
        obtain ⟨rfl, rfl⟩ := Draw.endsBy_fail_iff.mp h
        exact ⟨[], rfl, fun m v meets rest => .refused meets⟩
      rw [expandWithin_eq] at h
      exact exists_visits_fill accounts h
  | succ room ih =>
      have accounts : e.Accounts a (room + 1) (e.entering a (room + 1) chain) := by
        intro key t picks r h
        obtain ⟨inner, rfl, inside⟩ := ih h
        refine ⟨inner, rfl, fun m v meets => ?_⟩
        cases r with
        | error err => exact fun rest => .broken meets inside
        | ok text => exact fun rest behind ended => .entered meets inside
      rw [expandWithin_eq] at h
      exact exists_visits_fill accounts h

end

theorem length_flatMap_picks (visits : List Visit) :
    (visits.flatMap Visit.picks).length =
      visits.countP Visit.isResolved + visits.countP Visit.isRolled := by
  induction visits with
  | nil => rfl
  | cons v visits ih =>
      have own : v.picks.length = v.isResolved.toNat + v.isRolled.toNat := by
        rcases v with ⟨m, _ | i, _ | choice⟩ <;> rfl
      have count (p : Visit → Bool) : (v :: visits).countP p = (p v).toNat + visits.countP p := by
        cases h : p v <;> simp [h, Nat.add_comm]
      rw [List.flatMap_cons, List.length_append, ih, own, count, count]
      omega

/-- The picks of an expansion, whether it succeeds or fails, are those of the markers that it visits
in the order of the text, a candidate's own markers coming before what stands behind it. There is a
pick for each marker that was resolved and one for each that was rolled for, and each takes a word
or two. -/
theorem picks_expand (e : Expander) (a : Assets) (phrase : String) (s : Words) :
    ∃ visits, e.Visits a e.depthLimit (Template.parse phrase).segments visits
        ((e.expand a phrase).run s).1.isOk ∧
      (e.expand a phrase).picks s = visits.flatMap Visit.picks ∧
      (∀ visits' ended, e.Visits a e.depthLimit (Template.parse phrase).segments visits' ended →
        (e.expand a phrase).picks s = visits'.flatMap Visit.picks → visits' = visits) ∧
      ((e.expand a phrase).picks s).length =
        visits.countP Visit.isResolved + visits.countP Visit.isRolled ∧
      s.Makes ((e.expand a phrase).picks s) ((e.expand a phrase).run s).2 := by
  have ends := (e.expand a phrase).endsBy_run s
  obtain ⟨visits, same, reached⟩ := exists_visits_expandWithin ends
  refine ⟨visits, reached, same, ?_, ?_, (e.expand a phrase).makes_run s⟩
  · intro visits' ended reached' same'
    have joined : visits.flatMap Visit.picks ++ [] = visits'.flatMap Visit.picks ++ [] := by
      rw [← same, ← same']
    exact (reached.unique reached' joined).1.symm
  · rw [same]
    exact length_flatMap_picks visits

/-- The marker that fails draws nothing, but what was drawn before it stays drawn. -/
example :
    (expand ⟨64, true, none⟩ (Assets.ofList [("a", ["x"]), ("b", ["[a?]", "y"])])
      "[b]-[c]-[b]").picks (Words.ofArray #[]) = [(2, 0), (100, 0), (1, 0)] := by decide +kernel

end Phrasebook.Expander
