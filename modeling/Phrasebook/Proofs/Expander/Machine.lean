import Mathlib.Logic.Relation
import Phrasebook.Proofs.Expander.Outcomes
import Phrasebook.Proofs.Random.Runs

/-! # An expansion step by step

The run of an expansion is the run of a machine that works off one segment after the other. A
candidate with markers of its own is entered by laying the work around it aside in a frame, and left
by taking that frame up again; the frames are the candidates that are nested in each other at the
moment. `steps_expand` says that the machine halts with the very outcome of the expansion, and
`depth_le_of_steps` that it never has more frames than the limit allows. The recursion counts the
room that is left and the machine the frames it has, so both together are always the limit.
-/

namespace Phrasebook.Expander

open Phrasebook.Random

/-! ## The machine -/

/-- The work around a candidate that was entered. -/
structure Frame where
  /-- The placeholder of the candidate. -/
  key : String
  /-- The text made in front of the candidate. -/
  text : String
  /-- The segments behind the marker that stands for it. -/
  rest : List Segment

/-- A state of the machine: the frames from the innermost to the outermost, the text made and the
segments left of the template at hand, and the words that are left. -/
inductive State where
  | running (frames : List Frame) (text : String) (segs : List Segment) (words : Words)
  | halted (result : Except ExpandError String) (words : Words)

/-- The number of candidates that are nested inside each other. -/
def State.depth : State → Nat
  | running frames _ _ _ => frames.length
  | halted _ _ => 0

/-- The placeholders of the candidates at hand, the outermost first. -/
def chainOf (frames : List Frame) : List String := (frames.map Frame.key).reverse

/-- The candidate that is picked for a placeholder. -/
def candidate (e : Expander) (a : Assets) (key : String) : Draw ExpandError String :=
  match a.candidates? key with
  | none => .fail (.placeholderNotFound key (Suggestion.suggest key a.names))
  | some candidates => e.choose key candidates

/-- The candidate that is drawn for a marker; none if the marker is dropped. -/
def drawn (e : Expander) (a : Assets) (m : Marker) : Draw ExpandError (Option String) :=
  match e.optional? m with
  | none => some <$> e.candidate a m.name
  | some o => do
    let n ← roll
    if o.chance < n then return none else some <$> e.candidate a o.key

/-- Lays the work aside for a candidate, unless as many are entered as the limit allows. -/
def push (e : Expander) (frames : List Frame) (text : String) (rest : List Segment)
    (key : String) (c : String) (words : Words) : State :=
  if frames.length < e.depthLimit then
    .running (⟨key, text, rest⟩ :: frames) "" (Template.parse c).segments words
  else
    .halted (.error (.maxDepthExceeded e.depthLimit (chainOf frames ++ [key]))) words

/-- What comes of the candidate that was drawn for a marker. -/
def place (e : Expander) (frames : List Frame) (text : String) (rest : List Segment)
    (key : String) : Except ExpandError (Option String) → Words → State
  | .error err, words => .halted (.error err) words
  | .ok none, words => .running frames text rest words
  | .ok (some c), words =>
    if (Template.parse c).isLiteral then .running frames (text ++ c) rest words
    else e.push frames text rest key c words

/-- The next state, unless the machine has halted. -/
def next? (e : Expander) (a : Assets) : State → Option State
  | .running frames text (.literal more :: rest) words =>
    some (.running frames (text ++ more) rest words)
  | .running frames text (.marker m :: rest) words =>
    let outcome := (e.drawn a m).run words
    some (e.place frames text rest (e.key m) outcome.1 outcome.2)
  | .running (frame :: frames) text [] words =>
    some (.running frames (frame.text ++ text) frame.rest words)
  | .running [] text [] words => some (.halted (.ok text) words)
  | .halted _ _ => none

/-- The machine comes from one state to another in any number of steps. -/
def Steps (e : Expander) (a : Assets) : State → State → Prop :=
  Relation.ReflTransGen fun st st' => e.next? a st = some st'

/-- The state in which the expansion of a phrase starts. -/
def startState (phrase : String) (s : Words) : State :=
  .running [] "" (Template.parse phrase).segments s

variable {e : Expander} {a : Assets} {frames : List Frame}

@[simp]
theorem chainOf_cons (frame : Frame) (frames : List Frame) :
    chainOf (frame :: frames) = chainOf frames ++ [frame.key] := by
  simp [chainOf]

/-! ## Depth -/

theorem depth_push_le {text key c : String} {rest : List Segment} {words : Words} :
    (e.push frames text rest key c words).depth ≤ e.depthLimit := by
  unfold push
  split
  · rename_i free
    exact free
  · exact Nat.zero_le _

theorem depth_place_le {text key : String} {rest : List Segment}
    (h : frames.length ≤ e.depthLimit) (outcome : Except ExpandError (Option String))
    (words : Words) : (e.place frames text rest key outcome words).depth ≤ e.depthLimit := by
  rcases outcome with err | _ | c
  · exact Nat.zero_le _
  · exact h
  · change (if _ then _ else _ : State).depth ≤ _
    split
    · exact h
    · exact depth_push_le

theorem depth_le_of_next? {st st' : State} (h : st.depth ≤ e.depthLimit)
    (step : e.next? a st = some st') : st'.depth ≤ e.depthLimit := by
  rcases st with ⟨frames, text, segs, words⟩ | ⟨result, words⟩
  · rcases segs with _ | ⟨more | m, rest⟩
    · rcases frames with _ | ⟨frame, frames⟩
      · obtain rfl := Option.some.inj step
        exact Nat.zero_le _
      · obtain rfl := Option.some.inj step
        exact Nat.le_of_succ_le h
    · obtain rfl := Option.some.inj step
      exact h
    · obtain rfl := Option.some.inj step
      exact depth_place_le h _ _
  · simp [next?] at step

theorem depth_le_of_steps {phrase : String} {s : Words} {st : State}
    (h : e.Steps a (startState phrase s) st) : st.depth ≤ e.depthLimit := by
  induction h with
  | refl => exact Nat.zero_le _
  | tail _ step ih => exact depth_le_of_next? ih step

/-! ## The machine runs the expansion -/

section

variable {enter : String → Template → Draw ExpandError String}

theorem substitute_eq (key : String) :
    e.substitute a enter key = e.candidate a key >>= replacement (enter key) := by
  unfold substitute candidate
  cases a.candidates? key with
  | none => rfl
  | some candidates => rfl

/-- To resolve a marker is to draw for it and to expand what was drawn. -/
theorem resolve_eq (m : Marker) :
    e.resolve a enter m =
      e.drawn a m >>= fun c => c.elim (.done "") (replacement (enter (e.key m))) := by
  unfold resolve drawn key
  cases e.optional? m with
  | none => simp [substitute_eq]
  | some o =>
      simp only [bind_assoc, substitute_eq]
      refine bind_congr fun n => ?_
      split
      · rfl
      · simp

end

/-- From `segs` to `rest` the machine does what the draw does. -/
structure Performs (e : Expander) (a : Assets) (frames : List Frame) (segs rest : List Segment)
    (d : Draw ExpandError String) : Prop where
  ok (text : String) {o : String} {s s' : Words} : d.run s = (.ok o, s') →
    e.Steps a (.running frames text segs s) (.running frames (text ++ o) rest s')
  error (text : String) {err : ExpandError} {s s' : Words} : d.run s = (.error err, s') →
    e.Steps a (.running frames text segs s) (.halted (.error err) s')

/-- Where a candidate is entered, the machine does what the handler does. -/
structure Enters (e : Expander) (a : Assets) (frames : List Frame)
    (enter : String → Template → Draw ExpandError String) : Prop where
  ok {text key c o : String} {rest : List Segment} {s s' : Words} :
    (enter key (Template.parse c)).run s = (.ok o, s') →
      e.Steps a (e.push frames text rest key c s) (.running frames (text ++ o) rest s')
  error {text key c : String} {rest : List Segment} {err : ExpandError} {s s' : Words} :
    (enter key (Template.parse c)).run s = (.error err, s') →
      e.Steps a (e.push frames text rest key c s) (.halted (.error err) s')

theorem steps_head {st next last : State} (step : e.next? a st = some next)
    (h : e.Steps a next last) : e.Steps a st last := Relation.ReflTransGen.head step h

theorem performs_resolve {enter : String → Template → Draw ExpandError String}
    (enters : e.Enters a frames enter) (m : Marker) (rest : List Segment) :
    e.Performs a frames (.marker m :: rest) rest (e.resolve a enter m) where
  ok text o s s' run := by
    rw [resolve_eq] at run
    obtain ⟨choice, between, hc, hr⟩ := Draw.run_bind_ok_iff.mp run
    have step : e.next? a (.running frames text (.marker m :: rest) s) =
        some (e.place frames text rest (e.key m) (.ok choice) between) := by rw [next?, hc]
    refine steps_head step ?_
    cases choice with
    | none =>
        obtain ⟨rfl, rfl⟩ : "" = o ∧ between = s' := by simpa using hr
        rw [String.append_empty]
        exact .refl
    | some c =>
        rw [Option.elim_some, replacement_eq] at hr
        rw [place]
        by_cases literal : (Template.parse c).isLiteral
        · rw [if_pos literal] at hr ⊢
          obtain ⟨rfl, rfl⟩ : c = o ∧ between = s' := by simpa using hr
          exact .refl
        · rw [if_neg literal] at hr ⊢
          exact enters.ok hr
  error text err s s' run := by
    rw [resolve_eq] at run
    rcases Draw.run_bind_error_iff.mp run with hc | ⟨choice, between, hc, hr⟩
    · have step : e.next? a (.running frames text (.marker m :: rest) s) =
          some (.halted (.error err) s') := by rw [next?, hc, place]
      exact steps_head step .refl
    · have step : e.next? a (.running frames text (.marker m :: rest) s) =
          some (e.place frames text rest (e.key m) (.ok choice) between) := by rw [next?, hc]
      refine steps_head step ?_
      cases choice with
      | none => simp at hr
      | some c =>
          rw [Option.elim_some, replacement_eq] at hr
          rw [place]
          by_cases literal : (Template.parse c).isLiteral
          · simp [literal] at hr
          · rw [if_neg literal] at hr ⊢
            exact enters.error hr

theorem Performs.append {segs between rest : List Segment} {d d' : Draw ExpandError String}
    (h : e.Performs a frames segs between d) (h' : e.Performs a frames between rest d') :
    e.Performs a frames segs rest (do
      let head ← d
      let tail ← d'
      return head ++ tail) where
  ok text o s s' run := by
    obtain ⟨head, next, hh, run⟩ := Draw.run_bind_ok_iff.mp run
    obtain ⟨tail, last, ht, hr⟩ := Draw.run_bind_ok_iff.mp run
    obtain ⟨rfl, rfl⟩ : head ++ tail = o ∧ last = s' := by simpa using hr
    rw [← String.append_assoc]
    exact (h.ok text hh).trans (h'.ok (text ++ head) ht)
  error text err s s' run := by
    rcases Draw.run_bind_error_iff.mp run with hh | ⟨head, next, hh, run⟩
    · exact h.error text hh
    · rcases Draw.run_bind_error_iff.mp run with ht | ⟨tail, last, -, hr⟩
      · exact (h.ok text hh).trans (h'.error (text ++ head) ht)
      · simp at hr

theorem performs_literal (more : String) (rest : List Segment) :
    e.Performs a frames (.literal more :: rest) rest (pure more) where
  ok text o s s' run := by
    obtain ⟨rfl, rfl⟩ : more = o ∧ s = s' := by simpa using run
    exact steps_head rfl .refl
  error text err s s' run := by simp at run

theorem performs_fill {enter : String → Template → Draw ExpandError String}
    (enters : e.Enters a frames enter) (segs : List Segment) :
    e.Performs a frames segs [] (e.fill a enter segs) := by
  induction segs with
  | nil =>
      refine ⟨fun text o s s' run => ?_, fun text err s s' run => by simp [fill] at run⟩
      obtain ⟨rfl, rfl⟩ : "" = o ∧ s = s' := by simpa [fill] using run
      rw [String.append_empty]
      exact .refl
  | cons seg segs ih =>
      cases seg with
      | literal more => exact (performs_literal more segs).append ih
      | marker m => exact (performs_resolve enters m segs).append ih

theorem enters_entering {room : Nat} (limit : frames.length + room = e.depthLimit) :
    e.Enters a frames (e.entering a room (chainOf frames)) := by
  -- The machine has a frame for every candidate that the recursion has room for no more.
  induction room generalizing frames with
  | zero =>
      have full : ¬ frames.length < e.depthLimit := by omega
      refine ⟨fun run => by simp [entering] at run, fun {text key c rest err s s'} run => ?_⟩
      obtain ⟨rfl, rfl⟩ :
          .maxDepthExceeded e.depthLimit (chainOf frames ++ [key]) = err ∧ s = s' := by
        simpa [entering] using run
      rw [push, if_neg full]
      exact .refl
  | succ room ih =>
      have free : frames.length < e.depthLimit := by omega
      have inside (frame : Frame) (segs : List Segment) :
          e.Performs a (frame :: frames) segs []
            (e.fill a (e.entering a room (chainOf frames ++ [frame.key])) segs) := by
        rw [← chainOf_cons]
        exact performs_fill (ih (by simp only [List.length_cons]; omega)) segs
      refine ⟨fun {text key c o rest s s'} run => ?_, fun {text key c rest err s s'} run => ?_⟩
      · rw [entering, expandWithin_eq] at run
        have expanded := (inside ⟨key, text, rest⟩ _).ok "" run
        rw [String.empty_append] at expanded
        rw [push, if_pos free]
        exact expanded.tail rfl
      · rw [entering, expandWithin_eq] at run
        rw [push, if_pos free]
        exact (inside ⟨key, text, rest⟩ _).error "" run

theorem performs_expand (phrase : String) :
    e.Performs a [] (Template.parse phrase).segments [] (e.expand a phrase) := by
  rw [expand, expandWithin_eq]
  exact performs_fill (enters_entering (Nat.zero_add e.depthLimit)) _

/-- The machine that starts with a phrase halts with the outcome of its expansion, the words that
are left over included. -/
theorem steps_expand (phrase : String) (s : Words) :
    e.Steps a (startState phrase s)
      (.halted ((e.expand a phrase).run s).1 ((e.expand a phrase).run s).2) := by
  rcases hr : (e.expand a phrase).run s with ⟨err | o, rest⟩
  · exact (performs_expand phrase).error "" hr
  · have made := (performs_expand phrase).ok "" hr
    rw [String.empty_append] at made
    exact made.tail rfl

end Phrasebook.Expander
