import Mathlib.Logic.Relation
import Phrasebook.Proofs.Graph.Search

/-! # The search step by step

The search is the run of a machine that keeps its calls on a stack, without any bound on their
number. A step enters a node that has no mark, looks at one edge of the innermost call, or ends that
call. `Keeps.next` says what each step keeps, on any graph: the nodes marked as on the path are the
nodes of the calls, and a node that is done leads to marked nodes only. Each call marks a node for the
first time, so the run comes to an end, and `steps_search` says that it ends in what the recursion
computes: its room never runs out.
-/

namespace Phrasebook

/-- How often the search has entered a node. -/
def Search.entries (s : Search) (node : String) : Nat := s.marks.count (node, .onPath)

namespace Graph

open Search

/-- A call that has not ended, with the targets it has not looked at. -/
structure Call where
  node : String
  rest : List String

/-- A moment of the search: the calls from the innermost to the outermost, the nodes it has still to
start from, and its state. -/
structure Moment where
  calls : List Call
  starts : List String
  state : Search

/-- Calls for a node. -/
def Moment.call (g : Graph) (m : Moment) (node : String) : Moment :=
  ⟨⟨node, g.targets node⟩ :: m.calls, m.starts, m.state.enter node⟩

/-- The next moment, unless the search has ended. -/
def next? (g : Graph) : Moment → Option Moment
  | ⟨[], [], _⟩ => none
  | ⟨[], node :: starts, s⟩ =>
    if (s.mark? node).isSome then some ⟨[], starts, s⟩
    else some (Moment.call g ⟨[], starts, s⟩ node)
  | ⟨⟨node, []⟩ :: calls, starts, s⟩ => some ⟨calls, starts, s.leave node⟩
  | ⟨⟨node, target :: rest⟩ :: calls, starts, s⟩ =>
    let onward : Moment := ⟨⟨node, rest⟩ :: calls, starts, s⟩
    match s.mark? target with
    | none => some (onward.call g target)
    | some .onPath => some { onward with state := s.report target }
    | some .done => some onward

/-- The search comes from one moment to another in any number of steps. -/
def Steps (g : Graph) : Moment → Moment → Prop :=
  Relation.ReflTransGen fun m m' => g.next? m = some m'

/-- The moment at which the search begins. -/
def first (g : Graph) : Moment := ⟨[], g.nodes, {}⟩

/-- A node with an entry of its own, or at the end of an edge. -/
def IsVertex (g : Graph) (node : String) : Prop := node ∈ g.nodes ∨ ∃ a, g.Edge a node

/-! ## What a step keeps -/

/-- What holds at every moment of the search. -/
structure Keeps (g : Graph) (m : Moment) : Prop where
  path : m.state.PathInv g
  /-- The path is made of the nodes of the calls. -/
  calls : m.state.path = (m.calls.map Call.node).reverse
  rest : ∀ c ∈ m.calls, ∀ t ∈ c.rest, g.Edge c.node t
  looked : ∀ c ∈ m.calls, ∀ t, g.Edge c.node t → t ∈ c.rest ∨ m.state.mark? t ≠ none
  starts : ∀ n ∈ m.starts, n ∈ g.nodes
  started : ∀ n ∈ g.nodes, n ∈ m.starts ∨ m.state.mark? n ≠ none
  settled : ∀ n t, m.state.mark? n = some .done → g.Edge n t → m.state.mark? t ≠ none
  vertex : ∀ n, m.state.mark? n ≠ none → g.IsVertex n
  entries : ∀ n, m.state.entries n = if m.state.mark? n = none then 0 else 1

variable {g : Graph} {m m' : Moment} {s : Search} {node target : String} {calls : List Call}
  {starts rest : List String}

theorem IsVertex.mem_vertices (h : g.IsVertex node) : node ∈ g.vertices := by
  rcases h with own | ⟨a, edge⟩
  · exact mem_vertices_of_mem_nodes own
  · exact mem_vertices_of_edge edge

theorem mark?_enter_ne_none {n : String} (h : s.mark? n ≠ none) :
    (s.enter node).mark? n ≠ none := by
  rw [mark?_enter]
  split
  · simp
  · exact h

theorem mark?_leave_ne_none {n : String} (h : s.mark? n ≠ none) :
    (s.leave node).mark? n ≠ none := by
  rw [mark?_leave]
  split
  · simp
  · exact h

theorem entries_enter (n : String) :
    (s.enter node).entries n = s.entries n + if n = node then 1 else 0 := by
  by_cases same : n = node
  · simp [Search.entries, enter, same]
  · simp [Search.entries, enter, same, Ne.symm same]

theorem entries_leave (n : String) : (s.leave node).entries n = s.entries n := by
  simp [Search.entries, leave]

theorem keeps_first (g : Graph) : Keeps g g.first where
  path := pathInv_start g
  calls := rfl
  rest := by simp [first]
  looked := by simp [first]
  starts n hn := hn
  started n hn := Or.inl hn
  settled n t done := by simp [first, mark?] at done
  vertex n marked := absurd rfl marked
  entries n := rfl

/-- The path ends with the node of the innermost call. -/
theorem Keeps.joined (h : Keeps g m) (edge : ∀ c ∈ m.calls.head?, g.Edge c.node node) :
    ∀ last ∈ m.state.path.getLast?, g.Edge last node := by
  rw [h.calls, List.getLast?_reverse, List.head?_map]
  intro last hl
  obtain ⟨c, hc, rfl⟩ := Option.map_eq_some_iff.mp hl
  exact edge c hc

theorem Keeps.call (h : Keeps g m) (new : m.state.mark? node = none) (vertex : g.IsVertex node)
    (edge : ∀ c ∈ m.calls.head?, g.Edge c.node node) : Keeps g (m.call g node) where
  path := h.path.enter new vertex.mem_vertices (h.joined edge)
  calls := by
    show m.state.path ++ [node] = ((node :: m.calls.map Call.node)).reverse
    rw [h.calls, List.reverse_cons]
  rest c hc t ht := by
    rcases List.mem_cons.mp hc with rfl | hc
    · exact ht
    · exact h.rest c hc t ht
  looked c hc t ht := by
    rcases List.mem_cons.mp hc with rfl | hc
    · exact Or.inl ht
    · exact (h.looked c hc t ht).imp id mark?_enter_ne_none
  starts := h.starts
  started n hn := (h.started n hn).imp id mark?_enter_ne_none
  settled n t done ht := by
    have before : m.state.mark? n = some .done := by
      have entered : (m.state.enter node).mark? n = some .done := done
      rw [mark?_enter] at entered
      split at entered
      · contradiction
      · exact entered
    exact mark?_enter_ne_none (h.settled n t before ht)
  vertex n marked := by
    have entered : (m.state.enter node).mark? n ≠ none := marked
    rw [mark?_enter] at entered
    split at entered
    · rename_i same
      exact same ▸ vertex
    · exact h.vertex n entered
  entries n := by
    show (m.state.enter node).entries n = if (m.state.enter node).mark? n = none then 0 else 1
    rw [entries_enter, mark?_enter, h.entries]
    by_cases same : n = node
    · simp [same, new]
    · simp [same]

/-- A call may end when it has looked at all its edges. -/
theorem Keeps.leave (h : Keeps g ⟨⟨node, []⟩ :: calls, starts, s⟩) :
    Keeps g ⟨calls, starts, s.leave node⟩ := by
  have path : s.path = (calls.map Call.node).reverse ++ [node] := by
    simpa using h.calls
  refine ⟨h.path.leave path, ?_, ?_, ?_, h.starts, ?_, ?_, ?_, ?_⟩
  · rw [path_leave, path, List.dropLast_concat]
  · exact fun c hc => h.rest c (List.mem_cons_of_mem _ hc)
  · exact fun c hc t ht =>
      (h.looked c (List.mem_cons_of_mem _ hc) t ht).imp id mark?_leave_ne_none
  · exact fun n hn => (h.started n hn).imp id mark?_leave_ne_none
  · intro n t done ht
    rw [mark?_leave] at done
    split at done
    · rename_i same
      subst same
      have looked := h.looked ⟨n, []⟩ List.mem_cons_self t ht
      exact mark?_leave_ne_none (looked.resolve_left List.not_mem_nil)
    · exact mark?_leave_ne_none (h.settled n t done ht)
  · intro n marked
    rw [mark?_leave] at marked
    split at marked
    · rename_i same
      have onPath : s.mark? node = some .onPath := by
        rw [h.path.onPath_iff, path]
        simp
      exact same ▸ h.vertex node (by simp [onPath])
    · exact h.vertex n marked
  · intro n
    have onPath : s.mark? node = some .onPath := by
      rw [h.path.onPath_iff, path]
      simp
    rw [entries_leave, h.entries, mark?_leave]
    by_cases same : n = node
    · simp [same, onPath]
    · simp [same]

/-- An edge to a marked node need not be looked at again, and a chain may be reported for it. -/
theorem Keeps.look {cycles : List (List String)} (inner : List Call)
    (h : Keeps g ⟨inner ++ ⟨node, target :: rest⟩ :: calls, starts, s⟩)
    (marked : s.mark? target ≠ none) :
    Keeps g ⟨inner ++ ⟨node, rest⟩ :: calls, starts, { s with cycles := cycles }⟩ where
  path := ⟨h.path.linked, h.path.nodup, h.path.subset, h.path.onPath_iff⟩
  calls := by simpa using h.calls
  rest c hc t ht := by
    rcases List.mem_append.mp hc with hc | hc
    · exact h.rest c (List.mem_append_left _ hc) t ht
    · rcases List.mem_cons.mp hc with rfl | hc
      · exact h.rest ⟨node, target :: rest⟩ (by simp) t (List.mem_cons_of_mem target ht)
      · exact h.rest c (by simp [hc]) t ht
  looked c hc t ht := by
    rcases List.mem_append.mp hc with hc | hc
    · exact h.looked c (List.mem_append_left _ hc) t ht
    · rcases List.mem_cons.mp hc with rfl | hc
      · rcases h.looked ⟨node, target :: rest⟩ (by simp) t ht with left | looked
        · rcases List.mem_cons.mp left with rfl | left
          · exact Or.inr marked
          · exact Or.inl left
        · exact Or.inr looked
      · exact h.looked c (by simp [hc]) t ht
  starts := h.starts
  started := h.started
  settled := h.settled
  vertex := h.vertex
  entries := h.entries

/-- The search need not start from a marked node. -/
theorem Keeps.pass (h : Keeps g ⟨calls, node :: starts, s⟩) (marked : s.mark? node ≠ none) :
    Keeps g ⟨calls, starts, s⟩ :=
  { h with
    starts := fun n hn => h.starts n (List.mem_cons_of_mem node hn)
    started := fun n hn => by
      rcases h.started n hn with left | looked
      · rcases List.mem_cons.mp left with rfl | left
        · exact Or.inr marked
        · exact Or.inl left
      · exact Or.inr looked }

theorem Keeps.next (h : Keeps g m) (step : g.next? m = some m') : Keeps g m' := by
  have entered (n : String) (s : Search) : (s.enter n).mark? n ≠ none := by simp
  rcases m with ⟨_ | ⟨⟨node, _ | ⟨target, rest⟩⟩, calls⟩, starts, s⟩
  · rcases starts with _ | ⟨node, starts⟩
    · contradiction
    · rw [next?] at step
      split at step
      · rename_i marked
        obtain rfl := Option.some.inj step
        exact h.pass (Option.isSome_iff_ne_none.mp marked)
      · rename_i unmarked
        obtain rfl := Option.some.inj step
        have new : s.mark? node = none := by simpa using unmarked
        have own : g.IsVertex node := Or.inl (h.starts node List.mem_cons_self)
        exact (h.call new own (by simp)).pass (entered node s)
  · obtain rfl := Option.some.inj step
    exact h.leave
  · have edge : g.Edge node target :=
      h.rest ⟨node, target :: rest⟩ List.mem_cons_self target List.mem_cons_self
    rw [next?] at step
    split at step
    · rename_i new
      obtain rfl := Option.some.inj step
      have called := h.call new (Or.inr ⟨node, edge⟩) (by simpa using edge)
      exact called.look [⟨target, g.targets target⟩] (entered target s)
    · rename_i onPath
      obtain rfl := Option.some.inj step
      exact h.look [] (by simp [onPath])
    · rename_i done
      obtain rfl := Option.some.inj step
      exact h.look [] (by simp [done])

theorem Keeps.steps (h : Keeps g m) (steps : g.Steps m m') : Keeps g m' := by
  induction steps with
  | refl => exact h
  | tail _ step ih => exact ih.next step

/-! ## The run of the recursion -/

/-- There is room for one call for each call that has not ended. -/
theorem Keeps.length_calls_le (h : Keeps g m) : m.calls.length ≤ g.room := by
  have path := h.path.length_le
  rw [h.calls, List.length_reverse, List.length_map] at path
  exact path

/-- The edges of a call are followed one after the other, once the calls inside it are settled. -/
theorem steps_foldl_follow {visit : String → Search → Search}
    (sub : ∀ rest target s, Keeps g (Moment.call g ⟨⟨node, rest⟩ :: calls, starts, s⟩ target) →
      g.Steps (Moment.call g ⟨⟨node, rest⟩ :: calls, starts, s⟩ target)
        ⟨⟨node, rest⟩ :: calls, starts, visit target s⟩)
    (h : Keeps g ⟨⟨node, rest⟩ :: calls, starts, s⟩) :
    g.Steps ⟨⟨node, rest⟩ :: calls, starts, s⟩
      ⟨⟨node, []⟩ :: calls, starts, rest.foldl (Search.follow visit) s⟩ := by
  induction rest generalizing s with
  | nil => exact .refl
  | cons target rest ih =>
      -- The edge to `target` takes one step, and a whole call if `target` has no mark.
      have along : g.Steps ⟨⟨node, target :: rest⟩ :: calls, starts, s⟩
          ⟨⟨node, rest⟩ :: calls, starts, Search.follow visit s target⟩ := by
        cases mark : s.mark? target with
        | none =>
            have step : g.next? ⟨⟨node, target :: rest⟩ :: calls, starts, s⟩ =
                some (Moment.call g ⟨⟨node, rest⟩ :: calls, starts, s⟩ target) := by
              simp [next?, mark]
            have inside := sub rest target s (h.next step)
            have followed : Search.follow visit s target = visit target s := by
              simp [Search.follow, mark]
            rw [followed]
            exact inside.head step
        | some m =>
            apply Relation.ReflTransGen.single
            cases m with
            | onPath => simp [next?, mark, Search.follow]
            | done => simp [next?, mark, Search.follow]
      exact along.trans (ih (h.steps along))

/-- A call of the machine does what the recursion does, however much room it has. -/
theorem steps_visit {room : Nat} (h : Keeps g (Moment.call g ⟨calls, starts, s⟩ node))
    (enough : g.room ≤ calls.length + room) :
    g.Steps (Moment.call g ⟨calls, starts, s⟩ node) ⟨calls, starts, g.visit room node s⟩ := by
  induction room generalizing calls s node with
  | zero =>
      -- There would be more calls than there is room for.
      have fits : calls.length + 1 ≤ g.room := h.length_calls_le
      omega
  | succ room ih =>
      have edges : g.Steps (Moment.call g ⟨calls, starts, s⟩ node)
          ⟨⟨node, []⟩ :: calls, starts,
            (g.targets node).foldl (Search.follow (g.visit room)) (s.enter node)⟩ := by
        refine steps_foldl_follow (fun rest target s inside => ?_) h
        have fewer : g.room ≤ calls.length + 1 + room := by omega
        exact ih inside fewer
      exact edges.tail rfl

theorem steps_foldl_start (h : Keeps g ⟨[], starts, s⟩) :
    g.Steps ⟨[], starts, s⟩ ⟨[], [], starts.foldl g.start s⟩ := by
  induction starts generalizing s with
  | nil => exact .refl
  | cons node starts ih =>
      have along : g.Steps ⟨[], node :: starts, s⟩ ⟨[], starts, g.start s node⟩ := by
        by_cases marked : (s.mark? node).isSome
        · apply Relation.ReflTransGen.single
          simp [next?, start, marked]
        · have step : g.next? ⟨[], node :: starts, s⟩ =
              some (Moment.call g ⟨[], starts, s⟩ node) := by
            simp [next?, marked]
          have started : g.start s node = g.visit g.room node s := by simp [start, marked]
          rw [started]
          exact (steps_visit (h.next step) (by simp)).head step
      exact along.trans (ih (h.steps along))

/-- The machine ends with what the recursion computes. -/
theorem steps_search (g : Graph) : g.Steps g.first ⟨[], [], g.search⟩ :=
  steps_foldl_start (keeps_first g)

/-! ## Order -/

/-- What the search keeps in order at every moment. -/
structure InOrder (g : Graph) (m : Moment) : Prop where
  /-- The path is made of the nodes of the calls, the innermost last. -/
  calls : m.state.path = (m.calls.map Call.node).reverse
  onPath_iff : ∀ n, m.state.mark? n = some .onPath ↔ n ∈ m.state.path
  nodup : m.state.path.Nodup
  linked : m.state.path.IsChain g.Edge
  /-- A node that is done leads to nodes that were entered. -/
  settled : ∀ n t, m.state.mark? n = some .done → g.Edge n t → m.state.mark? t ≠ none
  /-- A target that is marked as on the path is found there, and the chain begins at its place. -/
  located : ∀ t, m.state.mark? t = some .onPath → ∃ k, m.state.path.idxOf? t = some k ∧
    (m.state.report t).cycles = m.state.cycles ++ [m.state.path.drop k ++ [t]]
  /-- A new call is for a node that had no mark, and marks it. -/
  called : ∀ m', g.next? m = some m' → m.calls.length < m'.calls.length →
    ∃ n, m.state.mark? n = none ∧ m'.state = m.state.enter n
  /-- A node was entered once if it has a mark, and never otherwise. -/
  entries : ∀ n, m.state.entries n = if m.state.mark? n = none then 0 else 1

theorem exists_idxOf?_of_mem {path : List String} (h : target ∈ path) :
    ∃ k, path.idxOf? target = some k ∧ path.dropWhile (· ≠ target) = path.drop k := by
  induction path with
  | nil => simp at h
  | cons x path ih =>
      by_cases same : x = target
      · exact ⟨0, by simp [List.idxOf?_cons, same], by simp [same]⟩
      · obtain ⟨k, found, dropped⟩ := ih ((List.mem_cons.mp h).resolve_left (Ne.symm same))
        refine ⟨k + 1, by simp [List.idxOf?_cons, same, found], ?_⟩
        rw [List.dropWhile_cons_of_pos (by simpa using same), dropped, List.drop_succ_cons]

theorem exists_enter_of_next? (step : g.next? m = some m')
    (deeper : m.calls.length < m'.calls.length) :
    ∃ n, m.state.mark? n = none ∧ m'.state = m.state.enter n := by
  rcases m with ⟨_ | ⟨⟨node, _ | ⟨target, rest⟩⟩, calls⟩, starts, s⟩
  · rcases starts with _ | ⟨node, starts⟩
    · contradiction
    · rw [next?] at step
      split at step
      · obtain rfl := Option.some.inj step
        simp at deeper
      · rename_i unmarked
        obtain rfl := Option.some.inj step
        exact ⟨node, by simpa using unmarked, rfl⟩
  · obtain rfl := Option.some.inj step
    have shorter : calls.length + 1 < calls.length := deeper
    omega
  · rw [next?] at step
    split at step
    · rename_i new
      obtain rfl := Option.some.inj step
      exact ⟨target, new, rfl⟩
    · obtain rfl := Option.some.inj step
      simp at deeper
    · obtain rfl := Option.some.inj step
      simp at deeper

theorem Keeps.inOrder (h : Keeps g m) : InOrder g m where
  calls := h.calls
  onPath_iff := h.path.onPath_iff
  nodup := h.path.nodup
  linked := h.path.linked
  settled := h.settled
  located t onPath := by
    obtain ⟨k, found, dropped⟩ := exists_idxOf?_of_mem ((h.path.onPath_iff t).mp onPath)
    exact ⟨k, found, by rw [report, dropped]⟩
  called m' := exists_enter_of_next?
  entries := h.entries

/-- The search has one run, so all its moments lead to the end. -/
theorem steps_search_of_steps (h : g.Steps g.first m) : g.Steps m ⟨[], [], g.search⟩ := by
  have unique : Relator.RightUnique fun m m' => g.next? m = some m' :=
    fun a b c hb hc => Option.some.inj (hb.symm.trans hc)
  rcases Relation.ReflTransGen.total_of_right_unique unique h (steps_search g) with steps | back
  · exact steps
  · rcases back.cases_head with same | ⟨m', step, -⟩
    · exact same ▸ .refl
    · contradiction

/-- At the end all vertices are done, and nothing else has a mark. -/
theorem mark?_search (g : Graph) (n : String) :
    (g.IsVertex n → g.search.mark? n = some .done) ∧
      (¬ g.IsVertex n → g.search.mark? n = none) := by
  have keeps := (keeps_first g).steps (steps_search g)
  have empty : g.search.path = [] := keeps.calls
  have done (n : String) (marked : g.search.mark? n ≠ none) : g.search.mark? n = some .done := by
    cases mark : g.search.mark? n with
    | none => exact absurd mark marked
    | some m =>
        cases m with
        | done => rfl
        | onPath =>
            have onPath := (keeps.path.onPath_iff n).mp mark
            rw [empty] at onPath
            contradiction
  have own (n : String) (hn : n ∈ g.nodes) : g.search.mark? n = some .done :=
    done n ((keeps.started n hn).resolve_left List.not_mem_nil)
  constructor
  · rintro (hn | ⟨a, edge⟩)
    · exact own n hn
    · exact done n (keeps.settled a n (own a (mem_nodes_of_edge edge)) edge)
  · intro no
    by_contra marked
    exact no (keeps.vertex n marked)

/-- On any graph the search keeps its marks and its path in order at every moment, finds each target
on the path that is marked so, and calls for unmarked nodes only. All its moments lead to the end,
which is what the recursion computes: there the path is empty, and every vertex was entered once and
is done. -/
theorem search_in_order (g : Graph) :
    (∀ m, g.Steps g.first m → InOrder g m ∧ g.Steps m ⟨[], [], g.search⟩) ∧
    g.next? ⟨[], [], g.search⟩ = none ∧ g.search.path = [] ∧
    (∀ n, g.IsVertex n → g.search.mark? n = some .done ∧ g.search.entries n = 1) ∧
    ∀ n, ¬ g.IsVertex n → g.search.mark? n = none ∧ g.search.entries n = 0 := by
  have keeps := (keeps_first g).steps (steps_search g)
  refine ⟨fun m steps => ?_, rfl, keeps.calls, fun n vertex => ?_, fun n other => ?_⟩
  · exact ⟨((keeps_first g).steps steps).inOrder, steps_search_of_steps steps⟩
  · have done := (mark?_search g n).1 vertex
    have entries := keeps.entries n
    simp only [done, reduceCtorEq, if_false] at entries
    exact ⟨done, entries⟩
  · have unmarked := (mark?_search g n).2 other
    have entries := keeps.entries n
    simp only [unmarked, if_true] at entries
    exact ⟨unmarked, entries⟩

/-- A loop at `a`, a cycle through `b`, and a node `d` with an edge into what is done by then. -/
def knotted : Graph := ⟨[("a", ["a", "b", "c"]), ("b", ["a"]), ("d", ["b"])]⟩

/-- The moment at which `b` has looked back at `a`. -/
def knottedMoment : Moment :=
  ⟨[⟨"b", []⟩, ⟨"a", ["c"]⟩], ["b", "d"],
    ⟨[("b", .onPath), ("a", .onPath)], ["a", "b"], [["a", "a"], ["a", "b", "a"]]⟩⟩

theorem search_in_order_knotted :
    knotted.Steps knotted.first knottedMoment ∧
      (InOrder knotted knottedMoment ∧ knotted.Steps knottedMoment ⟨[], [], knotted.search⟩) ∧
      knotted.IsVertex "c" ∧
      (knotted.search.mark? "c" = some .done ∧ knotted.search.entries "c" = 1) ∧
      ¬ knotted.IsVertex "e" ∧
      (knotted.search.mark? "e" = none ∧ knotted.search.entries "e" = 0) := by
  have steps : knotted.Steps knotted.first knottedMoment := by
    unfold Steps
    refine .head (show knotted.next? _ = some _ from rfl) ?_
    refine .head (show knotted.next? _ = some _ from rfl) ?_
    refine .head (show knotted.next? _ = some _ from rfl) ?_
    exact .single rfl
  have vertex : knotted.IsVertex "c" := Or.inr ⟨"a", show "c" ∈ knotted.targets "a" by decide⟩
  have other : ¬ knotted.IsVertex "e" := by
    intro vertex
    exact absurd vertex.mem_vertices (by decide)
  have order := search_in_order knotted
  exact ⟨steps, order.1 _ steps, vertex, order.2.2.2.1 _ vertex, other, order.2.2.2.2 _ other⟩

end Graph

end Phrasebook
