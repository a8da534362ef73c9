import Mathlib.Data.List.Perm.Subperm
import Phrasebook.Proofs.Graph.Walk

/-! # The depth-first search

`Search.Inv` is what holds of every state between two steps: the path is a walk without repetition
and holds just the nodes marked as on it, the finished nodes are settled, and the chains reported so
far are simple cycles with different last edges. `Search.Exploring` is the state inside a call after
some edges of its node have been followed, and `Search.Explored` what the call leaves behind.
`Graph.explored_visit` goes by the room that is left, which never runs out, since the path
repeats no node.
-/

namespace Phrasebook

/-! ## Graphs -/

namespace Graph

/-- An edge of the graph. -/
def Edge (g : Graph) (a b : String) : Prop := b ∈ g.targets a

/-- No edge is listed twice. -/
def IsSimple (g : Graph) : Prop := ∀ node, (g.targets node).Nodup

variable {g : Graph}

theorem exists_entry_of_edge {a b : String} (h : g.Edge a b) :
    ∃ targets, (a, targets) ∈ g.edges ∧ b ∈ targets := by
  unfold Edge targets at h
  cases hf : g.edges.find? fun entry => entry.1 = a with
  | none => simp [hf] at h
  | some entry =>
      obtain rfl : entry.1 = a := by simpa using List.find?_some hf
      exact ⟨entry.2, List.mem_of_find?_eq_some hf, by simpa [hf] using h⟩

theorem mem_nodes_of_edge {a b : String} (h : g.Edge a b) : a ∈ g.nodes := by
  obtain ⟨targets, hmem, -⟩ := exists_entry_of_edge h
  exact List.mem_map.mpr ⟨(a, targets), hmem, rfl⟩

theorem mem_vertices_of_edge {a b : String} (h : g.Edge a b) : b ∈ g.vertices := by
  obtain ⟨targets, hmem, hb⟩ := exists_entry_of_edge h
  exact List.mem_flatMap.mpr ⟨(a, targets), hmem, List.mem_cons_of_mem a hb⟩

theorem mem_vertices_of_mem_nodes {a : String} (h : a ∈ g.nodes) : a ∈ g.vertices := by
  obtain ⟨entry, hmem, rfl⟩ := List.mem_map.mp h
  exact List.mem_flatMap.mpr ⟨entry, hmem, List.mem_cons_self⟩

end Graph

/-! ## States -/

namespace Search

/-- The nodes that the search is done with, the latest first. -/
def finished (s : Search) : List String :=
  s.marks.filterMap fun entry => if entry.2 = .done then some entry.1 else none

/-- The edge is the last one of a reported chain. -/
def Reported (s : Search) (a b : String) : Prop := ∃ chain ∈ s.cycles, [a, b] <:+ chain

variable {s : Search} {node target : String}

@[simp]
theorem mark?_enter (n : String) :
    (s.enter node).mark? n = if n = node then some .onPath else s.mark? n := by
  by_cases h : n = node
  · simp [mark?, enter, h]
  · simp [mark?, enter, h, Ne.symm h]

@[simp]
theorem mark?_leave (n : String) :
    (s.leave node).mark? n = if n = node then some .done else s.mark? n := by
  by_cases h : n = node
  · simp [mark?, leave, h]
  · simp [mark?, leave, h, Ne.symm h]

@[simp]
theorem mark?_report (n : String) : (s.report target).mark? n = s.mark? n := rfl

@[simp]
theorem path_enter : (s.enter node).path = s.path ++ [node] := rfl

@[simp]
theorem path_leave : (s.leave node).path = s.path.dropLast := rfl

@[simp]
theorem finished_enter : (s.enter node).finished = s.finished := by
  simp [finished, enter]

@[simp]
theorem finished_leave : (s.leave node).finished = node :: s.finished := by
  simp [finished, leave]

theorem Reported.mono {s' : Search} {a b : String} (h : s.Reported a b)
    (grows : s.cycles <+: s'.cycles) : s'.Reported a b := by
  obtain ⟨chain, hc, hs⟩ := h
  exact ⟨chain, grows.subset hc, hs⟩

/-- The path is a walk that passes no node twice, and holds just the nodes marked as on it. -/
structure PathInv (g : Graph) (s : Search) : Prop where
  linked : s.path.IsChain g.Edge
  nodup : s.path.Nodup
  subset : s.path ⊆ g.vertices
  onPath_iff : ∀ n, s.mark? n = some .onPath ↔ n ∈ s.path

theorem pathInv_start (g : Graph) : PathInv g {} where
  linked := .nil
  nodup := .nil
  subset := List.nil_subset _
  onPath_iff := by simp [mark?]

theorem PathInv.not_mem_path {g : Graph} (h : s.PathInv g) (new : s.mark? node = none) :
    node ∉ s.path := by
  rw [← h.onPath_iff, new]
  simp

theorem PathInv.length_le {g : Graph} (h : s.PathInv g) : s.path.length ≤ g.room :=
  (h.nodup.subperm h.subset).length_le

theorem PathInv.enter {g : Graph} (h : s.PathInv g) (new : s.mark? node = none)
    (vertex : node ∈ g.vertices) (joined : ∀ last ∈ s.path.getLast?, g.Edge last node) :
    (s.enter node).PathInv g where
  linked := by
    refine List.isChain_append.mpr ⟨h.linked, .singleton node, fun last hl first hf => ?_⟩
    obtain rfl : node = first := by simpa using hf
    exact joined last hl
  nodup := by
    rw [path_enter, List.nodup_append]
    refine ⟨h.nodup, List.nodup_singleton node, ?_⟩
    rintro a ha b hb rfl
    obtain rfl := List.mem_singleton.mp hb
    exact h.not_mem_path new ha
  subset := by
    rw [path_enter]
    exact List.append_subset.mpr ⟨h.subset, by simpa using vertex⟩
  onPath_iff n := by
    rw [mark?_enter, path_enter, List.mem_append, List.mem_singleton]
    split
    · rename_i eq
      simp [eq]
    · rename_i ne
      simp [h.onPath_iff, ne]

theorem PathInv.leave {g : Graph} {before : List String} (h : s.PathInv g)
    (path : s.path = before ++ [node]) : (s.leave node).PathInv g := by
  have linked := h.linked
  have nodup := h.nodup
  have subset := h.subset
  rw [path] at linked nodup subset
  have left : (s.leave node).path = before := by rw [path_leave, path, List.dropLast_concat]
  have out : node ∉ before := fun hn =>
    (List.nodup_append.mp nodup).2.2 node hn node (List.mem_singleton_self node) rfl
  constructor
  · rw [left]
    exact linked.left_of_append
  · rw [left]
    exact (List.nodup_append.mp nodup).1
  · rw [left]
    exact (List.append_subset.mp subset).1
  · intro n
    rw [mark?_leave, left]
    split
    · rename_i eq
      rw [eq]
      simp [out]
    · rename_i ne
      rw [h.onPath_iff, path]
      simp [ne]

/-- What holds between any two steps of the search. -/
structure Inv (g : Graph) (s : Search) : Prop where
  path_linked : s.path.IsChain g.Edge
  path_nodup : s.path.Nodup
  path_subset : s.path ⊆ g.vertices
  onPath_iff : ∀ n, s.mark? n = some .onPath ↔ n ∈ s.path
  done_iff : ∀ n, s.mark? n = some .done ↔ n ∈ s.finished
  finished_nodup : s.finished.Nodup
  settled : Settled g.Edge s.Reported s.finished
  cycles_simple : ∀ chain ∈ s.cycles, IsSimpleCycle g.Edge chain
  cycles_apart : s.cycles.Pairwise fun c d => ∀ a b, [a, b] <:+ c → ¬ [a, b] <:+ d
  reported_marked : ∀ a b, s.Reported a b → s.mark? a ≠ none

theorem Inv.toPathInv {g : Graph} (h : s.Inv g) : s.PathInv g :=
  ⟨h.path_linked, h.path_nodup, h.path_subset, h.onPath_iff⟩

theorem inv_start (g : Graph) : Inv g {} where
  path_linked := (pathInv_start g).linked
  path_nodup := (pathInv_start g).nodup
  path_subset := (pathInv_start g).subset
  onPath_iff := (pathInv_start g).onPath_iff
  done_iff := by simp [mark?, finished]
  finished_nodup := .nil
  settled := trivial
  cycles_simple := by simp
  cycles_apart := .nil
  reported_marked := by simp [Reported]

/-- The state inside the call for `node` that began in `s`, once the edges to `seen` have been
followed. -/
structure Exploring (g : Graph) (node : String) (s : Search) (seen : List String) (now : Search) :
    Prop where
  inv : now.Inv g
  new : s.mark? node = none
  path : now.path = s.path ++ [node]
  kept : ∀ n mark, s.mark? n = some mark → now.mark? n = some mark
  cycles : s.cycles <+: now.cycles
  fresh : ∀ a b, now.Reported a b → s.Reported a b ∨ s.mark? a = none
  answered : ∀ t ∈ seen, now.Reported node t ∨ t ∈ now.finished
  origin : ∀ t, now.Reported node t → t ∈ seen

/-- What the call for `node` leaves behind. -/
structure Explored (g : Graph) (node : String) (s now : Search) : Prop where
  inv : now.Inv g
  path : now.path = s.path
  kept : ∀ n mark, s.mark? n = some mark → now.mark? n = some mark
  cycles : s.cycles <+: now.cycles
  fresh : ∀ a b, now.Reported a b → s.Reported a b ∨ s.mark? a = none
  finished : node ∈ now.finished

variable {g : Graph} {now : Search} {seen : List String}

/-! ## Steps -/

theorem Inv.not_mem_finished (h : s.Inv g) (new : s.mark? node = none) : node ∉ s.finished := by
  rw [← h.done_iff, new]
  simp

theorem inv_enter (h : s.Inv g) (new : s.mark? node = none) (vertex : node ∈ g.vertices)
    (joined : ∀ last ∈ s.path.getLast?, g.Edge last node) : (s.enter node).Inv g where
  path_linked := (h.toPathInv.enter new vertex joined).linked
  path_nodup := (h.toPathInv.enter new vertex joined).nodup
  path_subset := (h.toPathInv.enter new vertex joined).subset
  onPath_iff := (h.toPathInv.enter new vertex joined).onPath_iff
  done_iff n := by
    rw [mark?_enter, finished_enter]
    split
    · rename_i eq
      rw [eq]
      simp [h.not_mem_finished new]
    · exact h.done_iff n
  finished_nodup := by
    rw [finished_enter]
    exact h.finished_nodup
  settled := by
    rw [finished_enter]
    exact h.settled
  cycles_simple := h.cycles_simple
  cycles_apart := h.cycles_apart
  reported_marked a b hr := by
    rw [mark?_enter]
    split
    · simp
    · exact h.reported_marked a b hr

theorem exploring_enter (h : s.Inv g) (new : s.mark? node = none) (vertex : node ∈ g.vertices)
    (joined : ∀ last ∈ s.path.getLast?, g.Edge last node) :
    Exploring g node s [] (s.enter node) where
  inv := inv_enter h new vertex joined
  new := new
  path := path_enter
  kept n mark hm := by
    rw [mark?_enter, if_neg, hm]
    rintro rfl
    rw [new] at hm
    cases hm
  cycles := List.prefix_refl _
  fresh a b hr := Or.inl hr
  answered := by simp
  origin t hr := absurd new (h.reported_marked node t hr)

/-- The node of a call is on the path as long as the call lasts. -/
theorem Exploring.onPath (h : Exploring g node s seen now) : now.mark? node = some .onPath := by
  rw [h.inv.onPath_iff, h.path]
  simp

theorem Exploring.leave (h : Exploring g node s (g.targets node) now) :
    Explored g node s (now.leave node) where
  inv := by
    have left := h.inv.toPathInv.leave h.path
    have unfinished : node ∉ now.finished := by
      rw [← h.inv.done_iff, h.onPath]
      simp
    refine ⟨left.linked, left.nodup, left.subset, left.onPath_iff, ?_, ?_, ?_, ?_, ?_, ?_⟩
    · intro n
      rw [mark?_leave, finished_leave, List.mem_cons]
      split
      · rename_i eq
        simp [eq]
      · rename_i ne
        rw [h.inv.done_iff]
        simp [ne]
    · rw [finished_leave]
      exact List.nodup_cons.mpr ⟨unfinished, h.inv.finished_nodup⟩
    · rw [finished_leave]
      exact ⟨h.answered, h.inv.settled⟩
    · exact h.inv.cycles_simple
    · exact h.inv.cycles_apart
    · intro a b hr
      rw [mark?_leave]
      split
      · simp
      · exact h.inv.reported_marked a b hr
  path := by rw [path_leave, h.path, List.dropLast_concat]
  kept n mark hm := by
    rw [mark?_leave, if_neg, h.kept n mark hm]
    rintro rfl
    rw [h.new] at hm
    cases hm
  cycles := h.cycles
  fresh := h.fresh
  finished := by simp

theorem mark?_eq_none_of_kept (kept : ∀ n mark, s.mark? n = some mark → now.mark? n = some mark)
    {n : String} (h : now.mark? n = none) : s.mark? n = none := by
  cases hs : s.mark? n with
  | none => rfl
  | some mark =>
      rw [kept n mark hs] at h
      cases h

/-- An edge to an unmarked node is answered by the call for that node. -/
theorem Exploring.visit {next : Search} (h : Exploring g node s seen now)
    (sub : Explored g target now next) : Exploring g node s (seen ++ [target]) next where
  inv := sub.inv
  new := h.new
  path := sub.path.trans h.path
  kept n mark hm := sub.kept n mark (h.kept n mark hm)
  cycles := h.cycles.trans sub.cycles
  fresh a b hr := by
    rcases sub.fresh a b hr with hr | new
    · exact h.fresh a b hr
    · exact Or.inr (mark?_eq_none_of_kept h.kept new)
  answered t ht := by
    rcases List.mem_append.mp ht with ht | ht
    · refine (h.answered t ht).imp (fun hr => hr.mono sub.cycles) fun hf => ?_
      exact (sub.inv.done_iff t).mp (sub.kept t .done ((h.inv.done_iff t).mpr hf))
    · obtain rfl := List.mem_singleton.mp ht
      exact Or.inr sub.finished
  origin t hr := by
    rcases sub.fresh node t hr with hr | new
    · exact List.mem_append_left [target] (h.origin t hr)
    · rw [h.onPath] at new
      cases new

/-- An edge to a finished node is answered already. -/
theorem Exploring.skip (h : Exploring g node s seen now) (done : now.mark? target = some .done) :
    Exploring g node s (seen ++ [target]) now :=
  { h with
    answered := fun t ht => by
      rcases List.mem_append.mp ht with ht | ht
      · exact h.answered t ht
      · obtain rfl := List.mem_singleton.mp ht
        exact Or.inr ((h.inv.done_iff t).mp done)
    origin := fun t hr => List.mem_append_left [target] (h.origin t hr) }

theorem reported_report_iff {zs : List String} {a b : String}
    (chain : now.path.dropWhile (· ≠ target) ++ [target] = zs ++ [node, target]) :
    (now.report target).Reported a b ↔ now.Reported a b ∨ (a = node ∧ b = target) := by
  simp only [Reported, report, chain, List.mem_append, List.mem_singleton, or_and_right,
    exists_or, exists_eq_left, pair_suffix_append_iff]

/-- An edge back to the path is answered by a new chain, which no other edge has. -/
theorem Exploring.report (h : Exploring g node s seen now) (unseen : target ∉ seen)
    (edge : g.Edge node target) (onPath : now.mark? target = some .onPath) :
    Exploring g node s (seen ++ [target]) (now.report target) := by
  have linked := h.inv.path_linked
  have nodup := h.inv.path_nodup
  have back := (h.inv.onPath_iff target).mp onPath
  rw [h.path] at linked nodup back
  obtain ⟨simple, zs, chain⟩ := isSimpleCycle_of_path linked nodup edge back
  rw [← h.path] at simple chain
  have reported {a b : String} := reported_report_iff (a := a) (b := b) chain
  have grows : now.cycles <+: (now.report target).cycles := List.prefix_append _ _
  refine ⟨⟨h.inv.path_linked, h.inv.path_nodup, h.inv.path_subset, h.inv.onPath_iff,
    h.inv.done_iff, h.inv.finished_nodup, h.inv.settled.mono fun a b hr => hr.mono grows,
    ?_, ?_, ?_⟩, h.new, h.path, h.kept, h.cycles.trans grows, ?_, ?_, ?_⟩
  · intro c hc
    rcases List.mem_append.mp hc with hc | hc
    · exact h.inv.cycles_simple c hc
    · exact List.mem_singleton.mp hc ▸ simple
  · refine List.pairwise_append.mpr ⟨h.inv.cycles_apart, List.pairwise_singleton _ _, ?_⟩
    intro c hc d hd a b last new
    rw [List.mem_singleton.mp hd, chain, pair_suffix_append_iff] at new
    obtain ⟨rfl, rfl⟩ := new
    exact unseen (h.origin b ⟨c, hc, last⟩)
  · intro a b hr
    rcases reported.mp hr with hr | ⟨rfl, -⟩
    · exact h.inv.reported_marked a b hr
    · rw [mark?_report, h.onPath]
      simp
  · intro a b hr
    rcases reported.mp hr with hr | ⟨rfl, -⟩
    · exact h.fresh a b hr
    · exact Or.inr h.new
  · intro t ht
    rcases List.mem_append.mp ht with ht | ht
    · exact (h.answered t ht).imp (fun hr => hr.mono grows) id
    · obtain rfl := List.mem_singleton.mp ht
      exact Or.inl (reported.mpr (Or.inr ⟨rfl, rfl⟩))
  · intro t hr
    rcases reported.mp hr with hr | ⟨-, rfl⟩
    · exact List.mem_append_left [target] (h.origin t hr)
    · simp

/-- One edge more is followed. -/
theorem Exploring.follow {visit : String → Search → Search} (h : Exploring g node s seen now)
    (unseen : target ∉ seen) (edge : g.Edge node target)
    (sub : now.mark? target = none → Explored g target now (visit target now)) :
    Exploring g node s (seen ++ [target]) (Search.follow visit now target) := by
  unfold Search.follow
  cases hm : now.mark? target with
  | none => exact h.visit (sub hm)
  | some mark =>
      cases mark with
      | onPath => exact h.report unseen edge hm
      | done => exact h.skip hm

theorem Exploring.foldl_follow {visit : String → Search → Search} {rest : List String}
    (h : Exploring g node s seen now) (unseen : (seen ++ rest).Nodup)
    (edges : ∀ t ∈ rest, g.Edge node t)
    (sub : ∀ t ∈ rest, ∀ mid seen, Exploring g node s seen mid → mid.mark? t = none →
      Explored g t mid (visit t mid)) :
    Exploring g node s (seen ++ rest) (rest.foldl (Search.follow visit) now) := by
  induction rest generalizing seen now with
  | nil => simpa using h
  | cons t rest ih =>
      rw [List.append_cons] at unseen ⊢
      have first : t ∉ seen := by
        have := (List.nodup_append.mp (List.nodup_append.mp unseen).1).2.2
        exact fun ht => this t ht t (List.mem_singleton_self t) rfl
      have step := h.follow first (edges t List.mem_cons_self) (sub t List.mem_cons_self now seen h)
      exact ih step unseen (fun u hu => edges u (List.mem_cons_of_mem t hu))
        fun u hu => sub u (List.mem_cons_of_mem t hu)

/-- The state between two starts: the path is empty and the nodes started from are finished. -/
structure Between (g : Graph) (started : List String) (s : Search) : Prop where
  inv : s.Inv g
  path : s.path = []
  finished : ∀ n ∈ started, n ∈ s.finished

theorem Between.explored {s : Search} {started : List String} (h : Between g started s)
    (sub : Explored g node s now) : Between g (started ++ [node]) now where
  inv := sub.inv
  path := sub.path.trans h.path
  finished n hn := by
    rcases List.mem_append.mp hn with hn | hn
    · exact (sub.inv.done_iff n).mp (sub.kept n .done ((h.inv.done_iff n).mpr (h.finished n hn)))
    · exact List.mem_singleton.mp hn ▸ sub.finished

/-- Between two starts a marked node is finished. -/
theorem Between.skip {s : Search} {started : List String} (h : Between g started s)
    (marked : (s.mark? node).isSome) : Between g (started ++ [node]) s where
  inv := h.inv
  path := h.path
  finished n hn := by
    rcases List.mem_append.mp hn with hn | hn
    · exact h.finished n hn
    · obtain rfl := List.mem_singleton.mp hn
      obtain ⟨mark, hm⟩ := Option.isSome_iff_exists.mp marked
      cases mark with
      | done => exact (h.inv.done_iff n).mp hm
      | onPath =>
          rw [h.inv.onPath_iff, h.path] at hm
          simp at hm

end Search

/-! ## Runs -/

namespace Graph

open Search

variable {g : Graph} {s : Search}

theorem explored_visit (simple : g.IsSimple) {room : Nat} {node : String} (inv : s.Inv g)
    (new : s.mark? node = none) (vertex : node ∈ g.vertices)
    (joined : ∀ last ∈ s.path.getLast?, g.Edge last node) (enough : g.room ≤ s.path.length + room) :
    Explored g node s (g.visit room node s) := by
  induction room generalizing node s with
  | zero =>
      -- The path would hold more nodes than there is room for.
      have entered := (inv.toPathInv.enter new vertex joined).length_le
      rw [path_enter, List.length_append, List.length_singleton] at entered
      omega
  | succ room ih =>
      have entered := exploring_enter inv new vertex joined
      refine Exploring.leave ?_
      refine entered.foldl_follow (simple node) (fun t ht => ht) fun t ht mid seen hmid hn => ?_
      refine ih hmid.inv hn (mem_vertices_of_edge ht) ?_ ?_
      · rw [hmid.path, List.getLast?_concat]
        rintro last ⟨rfl⟩
        exact ht
      · rw [hmid.path, List.length_append, List.length_singleton]
        omega

theorem between_start (simple : g.IsSimple) {started : List String} {node : String}
    (h : Between g started s) (hn : node ∈ g.nodes) :
    Between g (started ++ [node]) (g.start s node) := by
  unfold start
  split
  · rename_i marked
    exact h.skip marked
  · rename_i unmarked
    have new : s.mark? node = none := by simpa using unmarked
    refine h.explored (explored_visit simple h.inv new (mem_vertices_of_mem_nodes hn) ?_ ?_)
    · simp [h.path]
    · simp [h.path]

theorem between_foldl_start (simple : g.IsSimple) {started rest : List String}
    (h : Between g started s) (sub : rest ⊆ g.nodes) :
    Between g (started ++ rest) (rest.foldl g.start s) := by
  induction rest generalizing started s with
  | nil => simpa using h
  | cons node rest ih =>
      obtain ⟨hn, sub⟩ := List.cons_subset.mp sub
      rw [List.append_cons]
      exact ih (between_start simple h hn) sub

theorem between_search (simple : g.IsSimple) : Between g g.nodes g.search := by
  have start : Between g [] {} := ⟨inv_start g, rfl, by simp⟩
  exact between_foldl_start simple start (List.Subset.refl g.nodes)

/-- Every closed walk has the last edge of a reported chain among its edges. -/
theorem exists_chain_of_isClosedWalk (simple : g.IsSimple) {walk : List String}
    (h : IsClosedWalk g.Edge walk) :
    ∃ chain ∈ g.cycles, ∃ a b, [a, b] <:+ chain ∧ [a, b] <:+: walk := by
  have between := between_search simple
  have visited : walk ⊆ g.search.finished := by
    intro v hv
    obtain ⟨w, edge⟩ := h.exists_succ hv
    exact between.finished v (mem_nodes_of_edge edge)
  have ne : walk ≠ [] := by
    rintro rfl
    have := h.two_le_length
    simp at this
  obtain ⟨a, b, hw, chain, hc, last⟩ := between.inv.settled.exists_reported
    (fun v w hvw => rel_of_consecutive h.linked hvw) ne visited fun w hw => h.exists_pred hw
  exact ⟨chain, hc, a, b, last, hw⟩

theorem isSimpleCycle_of_mem_cycles (simple : g.IsSimple) {chain : List String}
    (h : chain ∈ g.cycles) : IsSimpleCycle g.Edge chain :=
  (between_search simple).inv.cycles_simple chain h

theorem cycles_pairwise_apart (simple : g.IsSimple) :
    g.cycles.Pairwise fun c d => ∀ a b, [a, b] <:+ c → ¬ [a, b] <:+ d :=
  (between_search simple).inv.cycles_apart

end Graph

end Phrasebook
