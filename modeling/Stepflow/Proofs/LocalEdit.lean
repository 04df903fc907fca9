import Stepflow.Proofs.Image
import Stepflow.Proofs.Sorting
import Stepflow.Proofs.Sound

/-!
# Edits of a graph, seen in its document

A step that is removed leaves two traces in the document: its record is gone, and so is its order
wherever it was listed. An edge that is drawn leaves one: the record of the step that it enters
lists one more order, or this step is listed as iterable. Erasing an edge takes this back. Edges
into a start leave no trace at all, and neither loops nor cycles are special.

All of this needs orders that differ. Two steps of one order could feed a third one, and removing
one of them would take nothing off the list.

Results:
1. `Document.Without`, `Document.Gains`: what a document becomes by removing a step and by drawing
   an edge.
2. `Dropped.document`, `Drawn.document`: they are made of the document by the graph.
3. `Consistent.edits_local`: removing, connecting and disconnecting.
-/

namespace Stepflow

open Dependencies (text? insertDistinct)

/-- The record without an order among its dependencies. -/
def StepRecord.Without (order : Int) (r later : StepRecord) : Prop :=
  ∃ ks : List Int, ks.Pairwise (· < ·) ∧ r.dependsOn = text? ks ∧
    later = { r with dependsOn := text? (ks.filter (· != order)) }

/-- The document without the record of an order, and without this order in any list. -/
structure Document.Without (order : Int) (d later : Document) : Prop where
  records : ∃ front r back, d.steps = front ++ r :: back ∧ r.order = order ∧
    List.Forall₂ (StepRecord.Without order) (front ++ back) later.steps
  rest : later = { d with iterable := d.iterable.map (·.filter (· != order)), steps := later.steps }

/-- What a document becomes by an edge from `m` to `n` that was not there before. -/
inductive Document.Gains (m n : Node) (d : Document) : Document → Prop
  | intoStart : n.isStart = true → Gains m n d d
  | fromStart {listed : List Int} : m.isStart = true → n.isStart = false →
      listed.Pairwise (· < ·) → n.order ∉ listed →
      d.iterable = (if d.iterates then some listed else none) →
      Gains m n d { d with
        iterable := if d.iterates then some (insertDistinct n.order listed) else none }
  | between {front back : List StepRecord} {r : StepRecord} {ks : List Int} :
      m.isStart = false → n.isStart = false → d.steps = front ++ r :: back → r.order = n.order →
      ks.Pairwise (· < ·) → m.order ∉ ks → r.dependsOn = text? ks →
      Gains m n d { d with
        steps := front ++ { r with dependsOn := text? (insertDistinct m.order ks) } :: back }

namespace Graph

/-- Ids and pairs of ends that differ, no edge that dangles, and one start: what documents need of
a sound graph, wherever its start is stored. -/
structure Consistent (g : Graph) : Prop where
  nodeIds : (g.nodes.map (·.id)).Nodup
  edgeIds : (g.edges.map (·.id)).Nodup
  pairs : g.pairs.Nodup
  closed : ∀ e ∈ g.edges, (∃ n ∈ g.nodes, n.id = e.source) ∧ ∃ n ∈ g.nodes, n.id = e.target
  start : ∃ first ∈ g.nodes, first.isStart = true ∧ ∀ n ∈ g.nodes, n.isStart = true → n = first

theorem Sound.consistent {g : Graph} (sound : g.Sound) : g.Consistent where
  nodeIds := sound.nodeIds
  edgeIds := sound.edgeIds
  pairs := sound.pairs
  closed := sound.closed
  start := by
    obtain ⟨first, rest, shape, start, -, -, others⟩ := sound.start
    refine ⟨first, shape ▸ List.mem_cons_self, start, fun n hn marked => ?_⟩
    rw [shape] at hn
    rcases List.mem_cons.mp hn with rfl | later
    · rfl
    · rw [others n later] at marked
      cases marked

/-! ## Removing a step -/

/-- The graph `h` has neither the step `s` of `g` nor the edges that touch it. -/
structure Dropped (s : Node) (g h : Graph) : Prop where
  distinct : (g.nodes.map (·.id)).Nodup
  mem : s ∈ g.steps
  nodes : h.nodes = g.nodes.filter (·.id != s.id)
  joins : ∀ a b, h.Joins a b ↔ g.Joins a b ∧ a ≠ s.id ∧ b ≠ s.id

theorem exists_removeStep? {g : Graph} (distinct : (g.nodes.map (·.id)).Nodup) {s : Node}
    (hs : s ∈ g.steps) : ∃ h, g.removeStep? s.id = some h ∧ Dropped s g h := by
  obtain ⟨inside, step⟩ := mem_steps.mp hs
  refine ⟨_, by rw [removeStep?, node?_of_mem distinct inside]; exact if_neg (by simp [step]),
    distinct, hs, rfl, fun a b => ?_⟩
  simp only [Joins, List.mem_filter, Bool.and_eq_true, bne_iff_ne]
  constructor
  · rintro ⟨e, ⟨he, ends⟩, rfl, rfl⟩
    exact ⟨⟨e, he, rfl, rfl⟩, ends⟩
  · rintro ⟨⟨e, he, rfl, rfl⟩, ends⟩
    exact ⟨e, ⟨he, ends⟩, rfl, rfl⟩

namespace Dropped

variable {s : Node} {g h : Graph} (dropped : Dropped s g h)

include dropped

theorem steps : h.steps = g.steps.filter (·.id != s.id) := by
  rw [Graph.steps, Graph.steps, dropped.nodes, List.filter_comm]

theorem mem_steps {n : Node} : n ∈ h.steps ↔ n ∈ g.steps ∧ n.id ≠ s.id := by
  rw [dropped.steps, List.mem_filter, bne_iff_ne]

theorem sortedSteps : h.sortedSteps = g.sortedSteps.filter (·.id != s.id) := by
  rw [Graph.sortedSteps, Graph.sortedSteps, dropped.steps, sortByOrder_filter]

theorem isStart {id : String} (other : id ≠ s.id) : h.isStart id = g.isStart id := by
  have distinct : (h.nodes.map (·.id)).Nodup := by
    rw [dropped.nodes]
    exact dropped.distinct.sublist (List.filter_sublist.map _)
  rw [Bool.eq_iff_iff, isStart_iff distinct, isStart_iff dropped.distinct]
  simp only [dropped.nodes, List.mem_filter, bne_iff_ne]
  constructor
  · rintro ⟨n, ⟨hn, -⟩, same, start⟩
    exact ⟨n, hn, same, start⟩
  · rintro ⟨n, hn, rfl, start⟩
    exact ⟨n, ⟨hn, other⟩, rfl, start⟩

/-- Starts feed the other nodes as before, since a step is none of them. -/
theorem fedByStart {id : String} (other : id ≠ s.id) : h.fedByStart id = g.fedByStart id := by
  obtain ⟨inside, step⟩ := Graph.mem_steps.mp dropped.mem
  rw [Bool.eq_iff_iff, fedByStart_iff_joins, fedByStart_iff_joins]
  constructor
  · rintro ⟨source, start, joined⟩
    obtain ⟨joined, apart, -⟩ := (dropped.joins _ _).mp joined
    exact ⟨source, dropped.isStart apart ▸ start, joined⟩
  · rintro ⟨source, start, joined⟩
    have apart : source ≠ s.id := by
      rintro rfl
      rw [isStart_of_mem dropped.distinct inside, step] at start
      cases start
    exact ⟨source, (dropped.isStart apart).trans start,
      (dropped.joins _ _).mpr ⟨joined, apart, other⟩⟩

section Orders

variable (orders : (g.steps.map (·.order)).Nodup)

include orders

/-- Another step is told by its order as well as by its id. -/
theorem id_ne_iff {n : Node} (hn : n ∈ g.steps) : n.id ≠ s.id ↔ n.order ≠ s.order := by
  have inside {k : Node} (hk : k ∈ g.steps) : k ∈ g.nodes := (Graph.mem_steps.mp hk).1
  refine not_congr ⟨fun same => ?_, fun same => ?_⟩
  · rw [eq_of_id_eq dropped.distinct (inside hn) (inside dropped.mem) same]
  · rw [List.inj_on_of_nodup_map orders hn dropped.mem same]

theorem feederOrders {id : String} (other : id ≠ s.id) :
    h.feederOrders id = (g.feederOrders id).filter (· != s.order) := by
  refine (feederOrders_pairwise _ _).eq_of_mem_iff ((feederOrders_pairwise _ _).filter _)
    fun k => ?_
  rw [List.mem_filter, mem_feederOrders, mem_feederOrders, bne_iff_ne]
  constructor
  · rintro ⟨n, hn, joined, rfl⟩
    obtain ⟨old, apart⟩ := dropped.mem_steps.mp hn
    exact ⟨⟨n, old, ((dropped.joins _ _).mp joined).1, rfl⟩,
      (dropped.id_ne_iff orders old).mp apart⟩
  · rintro ⟨⟨n, hn, joined, rfl⟩, apart⟩
    have apart := (dropped.id_ne_iff orders hn).mpr apart
    exact ⟨n, dropped.mem_steps.mpr ⟨hn, apart⟩, (dropped.joins _ _).mpr ⟨joined, apart, other⟩,
      rfl⟩

theorem iterableOrders : h.iterableOrders = g.iterableOrders.filter (· != s.order) := by
  have later : (h.steps.map (·.order)).Nodup := by
    rw [dropped.steps]
    exact orders.sublist (List.filter_sublist.map _)
  refine (iterableOrders_strict later).eq_of_mem_iff ((iterableOrders_strict orders).filter _)
    fun k => ?_
  rw [List.mem_filter, mem_iterableOrders, mem_iterableOrders, bne_iff_ne]
  constructor
  · rintro ⟨n, hn, fed, rfl⟩
    obtain ⟨old, apart⟩ := dropped.mem_steps.mp hn
    exact ⟨⟨n, old, dropped.fedByStart apart ▸ fed, rfl⟩, (dropped.id_ne_iff orders old).mp apart⟩
  · rintro ⟨⟨n, hn, fed, rfl⟩, apart⟩
    have apart := (dropped.id_ne_iff orders hn).mpr apart
    exact ⟨n, dropped.mem_steps.mpr ⟨hn, apart⟩, (dropped.fedByStart apart).trans fed, rfl⟩

theorem record {n : Node} (other : n.id ≠ s.id) : (g.record n).Without s.order (h.record n) := by
  refine ⟨g.feederOrders n.id, feederOrders_pairwise _ _, record_dependsOn _ _, ?_⟩
  rw [Graph.record, Graph.record, dependsOn, dropped.feederOrders orders other]
  exact record_with _ _ _

theorem document (p : Profile) : (g.document p).Without s.order (h.document p) where
  records := by
    obtain ⟨front, back, split, others⟩ := sortedSteps_around dropped.distinct dropped.mem
    have sorted : h.sortedSteps = front ++ back := by
      rw [dropped.sortedSteps, split, List.filter_append, List.filter_cons_of_neg (by simp),
        ← List.filter_append, List.filter_eq_self]
      exact fun k hk => bne_iff_ne.mpr (others k hk).2
    refine ⟨front.map g.record, g.record s, back.map g.record, ?_, record_order _ _, ?_⟩
    · rw [Graph.document, split, List.map_append, List.map_cons]
    · rw [Graph.document, sorted, ← List.map_append, List.forall₂_map_left_iff,
        List.forall₂_map_right_iff, List.forall₂_same]
      exact fun k hk => dropped.record orders (others k hk).2
  rest := by
    rw [Graph.document, Graph.document, dropped.iterableOrders orders]
    cases p.iterates with
    | false => rfl
    | true => rfl

end Orders

end Dropped

/-! ## Drawing an edge -/

/-- The graph `h` has the nodes of `g`, and it joins one pair more. -/
structure Drawn (m n : Node) (g h : Graph) : Prop where
  consistent : g.Consistent
  source : m ∈ g.nodes
  target : n ∈ g.nodes
  free : ¬g.Joins m.id n.id
  nodes : h.nodes = g.nodes
  joins : ∀ a b, h.Joins a b ↔ g.Joins a b ∨ (a, b) = (m.id, n.id)

namespace Drawn

variable {m n : Node} {g h : Graph} (drawn : Drawn m n g h)

include drawn

theorem steps : h.steps = g.steps := by
  rw [Graph.steps, Graph.steps, drawn.nodes]

theorem sortedSteps : h.sortedSteps = g.sortedSteps := by
  rw [Graph.sortedSteps, Graph.sortedSteps, drawn.steps]

theorem isStart_source : g.isStart m.id = m.isStart :=
  isStart_of_mem drawn.consistent.nodeIds drawn.source

/-- What the edge adds is the order of its source, if this is a step. -/
theorem mem_feederOrders {id : String} {k : Int} :
    k ∈ h.feederOrders id ↔
      k ∈ g.feederOrders id ∨ m.isStart = false ∧ n.id = id ∧ m.order = k := by
  rw [Graph.mem_feederOrders, Graph.mem_feederOrders, drawn.steps]
  constructor
  · rintro ⟨a, ha, joined, order⟩
    rcases (drawn.joins _ _).mp joined with old | new
    · exact .inl ⟨a, ha, old, order⟩
    · obtain ⟨here, rfl⟩ := Prod.mk.inj new
      obtain ⟨inside, step⟩ := mem_steps.mp ha
      obtain rfl := eq_of_id_eq drawn.consistent.nodeIds inside drawn.source here
      exact .inr ⟨step, rfl, order⟩
  · rintro (⟨a, ha, joined, order⟩ | ⟨step, rfl, order⟩)
    · exact ⟨a, ha, (drawn.joins _ _).mpr (.inl joined), order⟩
    · exact ⟨m, mem_steps.mpr ⟨drawn.source, step⟩, (drawn.joins _ _).mpr (.inr rfl), order⟩

theorem fedByStart_iff {id : String} :
    h.fedByStart id = true ↔ g.fedByStart id = true ∨ m.isStart = true ∧ n.id = id := by
  rw [fedByStart_iff_joins, fedByStart_iff_joins]
  simp only [isStart_congr drawn.nodes, drawn.joins]
  constructor
  · rintro ⟨source, start, old | new⟩
    · exact .inl ⟨source, start, old⟩
    · obtain ⟨rfl, rfl⟩ := Prod.mk.inj new
      exact .inr ⟨drawn.isStart_source ▸ start, rfl⟩
  · rintro (⟨source, start, old⟩ | ⟨start, rfl⟩)
    · exact ⟨source, start, .inl old⟩
    · exact ⟨m.id, drawn.isStart_source.trans start, .inr rfl⟩

/-- The edge adds nothing to the dependencies of a node that it does not enter, and nothing to those
of any node if it leaves a start. -/
theorem record {k : Node} (apart : m.isStart = true ∨ k.id ≠ n.id) : h.record k = g.record k := by
  have same : h.feederOrders k.id = g.feederOrders k.id := by
    refine (feederOrders_pairwise _ _).eq_of_mem_iff (feederOrders_pairwise _ _) fun j => ?_
    rw [drawn.mem_feederOrders]
    refine or_iff_left ?_
    rintro ⟨step, here, -⟩
    rcases apart with start | other
    · rw [step] at start
      cases start
    · exact other here.symm
  rw [Graph.record, Graph.record, dependsOn, dependsOn, same]

theorem iterableOrders (apart : m.isStart = false ∨ n.isStart = true) :
    h.iterableOrders = g.iterableOrders := by
  have same : ∀ k ∈ g.sortedSteps, h.fedByStart k.id = g.fedByStart k.id := by
    intro k hk
    rw [Bool.eq_iff_iff, drawn.fedByStart_iff]
    refine or_iff_left ?_
    rintro ⟨start, here⟩
    obtain ⟨inside, step⟩ := mem_steps.mp (mem_sortedSteps.mp hk)
    obtain rfl := eq_of_id_eq drawn.consistent.nodeIds drawn.target inside here
    rcases apart with source | target
    · rw [source] at start
      cases start
    · rw [step] at target
      cases target
  rw [iterableOrders_eq, iterableOrders_eq, drawn.sortedSteps, List.filter_congr same]

/-! ### Its trace -/

theorem document_intoStart (target : n.isStart = true) (p : Profile) :
    h.document p = g.document p := by
  have records : g.sortedSteps.map h.record = g.sortedSteps.map g.record := by
    refine List.map_congr_left fun k hk => drawn.record (.inr fun same => ?_)
    obtain ⟨inside, step⟩ := mem_steps.mp (mem_sortedSteps.mp hk)
    rw [eq_of_id_eq drawn.consistent.nodeIds inside drawn.target same, target] at step
    cases step
  rw [Graph.document, Graph.document, drawn.iterableOrders (.inr target), drawn.sortedSteps,
    records]

section Orders

variable (orders : (g.steps.map (·.order)).Nodup)

include orders

theorem feederOrders_target (source : m.isStart = false) :
    m.order ∉ g.feederOrders n.id ∧
      h.feederOrders n.id = insertDistinct m.order (g.feederOrders n.id) := by
  constructor
  · intro mem
    obtain ⟨a, ha, joined, order⟩ := Graph.mem_feederOrders.mp mem
    have here := List.inj_on_of_nodup_map orders ha (mem_steps.mpr ⟨drawn.source, source⟩) order
    exact drawn.free (here ▸ joined)
  · refine (feederOrders_pairwise _ _).eq_of_mem_iff
      (Dependencies.insertDistinct_pairwise (feederOrders_pairwise _ _)) fun k => ?_
    rw [drawn.mem_feederOrders, Dependencies.mem_insertDistinct, or_comm]
    simp [source, eq_comm]

/-- There is one start, so the target was not fed by any other before. -/
theorem iterableOrders_target (source : m.isStart = true) (target : n.isStart = false) :
    n.order ∉ g.iterableOrders ∧ h.iterableOrders = insertDistinct n.order g.iterableOrders := by
  have step : n ∈ g.steps := mem_steps.mpr ⟨drawn.target, target⟩
  constructor
  · intro mem
    obtain ⟨k, hk, fed, order⟩ := mem_iterableOrders.mp mem
    obtain rfl := List.inj_on_of_nodup_map orders hk step order
    obtain ⟨id, start, joined⟩ := fedByStart_iff_joins.mp fed
    obtain ⟨a, ha, rfl, first⟩ := (isStart_iff drawn.consistent.nodeIds).mp start
    obtain ⟨one, -, -, only⟩ := drawn.consistent.start
    rw [only a ha first, ← only m drawn.source source] at joined
    exact drawn.free joined
  · have later : (h.steps.map (·.order)).Nodup := drawn.steps ▸ orders
    refine (iterableOrders_strict later).eq_of_mem_iff
      (Dependencies.insertDistinct_pairwise (iterableOrders_strict orders)) fun k => ?_
    simp only [mem_iterableOrders, Dependencies.mem_insertDistinct, drawn.steps,
      drawn.fedByStart_iff]
    constructor
    · rintro ⟨a, ha, old | ⟨-, here⟩, rfl⟩
      · exact .inr ⟨a, ha, old, rfl⟩
      · rw [eq_of_id_eq drawn.consistent.nodeIds drawn.target (mem_steps.mp ha).1 here]
        exact .inl rfl
    · rintro (rfl | ⟨a, ha, old, rfl⟩)
      · exact ⟨n, step, .inr ⟨source, rfl⟩, rfl⟩
      · exact ⟨a, ha, .inl old, rfl⟩

/-- An edge from the start is seen in the list of iterable steps, if there is one. -/
theorem document_fromStart (source : m.isStart = true) (target : n.isStart = false) (p : Profile) :
    h.document p = { g.document p with
      iterable :=
        if p.iterates then some (insertDistinct n.order g.iterableOrders) else none } := by
  have records : g.sortedSteps.map h.record = g.sortedSteps.map g.record :=
    List.map_congr_left fun k _ => drawn.record (.inl source)
  rw [Graph.document, Graph.document, drawn.sortedSteps, records,
    (drawn.iterableOrders_target orders source target).2]

/-- An edge between steps is seen in the record of the step that it enters. -/
theorem document_between (source : m.isStart = false) (target : n.isStart = false) (p : Profile) :
    ∃ front back, (g.document p).steps = front ++ g.record n :: back ∧
      h.document p = { g.document p with
        steps := front ++ { g.record n with
          dependsOn := text? (insertDistinct m.order (g.feederOrders n.id)) } :: back } := by
  obtain ⟨front, back, split, others⟩ :=
    sortedSteps_around drawn.consistent.nodeIds (mem_steps.mpr ⟨drawn.target, target⟩)
  have entered : h.record n =
      { g.record n with dependsOn := text? (insertDistinct m.order (g.feederOrders n.id)) } := by
    rw [Graph.record, Graph.record, dependsOn, (drawn.feederOrders_target orders source).2]
    exact record_with _ _ _
  have ahead : front.map h.record = front.map g.record :=
    List.map_congr_left fun k hk => drawn.record (.inr (others k (List.mem_append_left _ hk)).2)
  have behind : back.map h.record = back.map g.record :=
    List.map_congr_left fun k hk => drawn.record (.inr (others k (List.mem_append_right _ hk)).2)
  refine ⟨front.map g.record, back.map g.record, ?_, ?_⟩
  · rw [Graph.document, split, List.map_append, List.map_cons]
  · rw [Graph.document, Graph.document, drawn.iterableOrders (.inl source), drawn.sortedSteps,
      split, List.map_append, List.map_cons, ahead, behind, entered]

theorem document (p : Profile) : (g.document p).Gains m n (h.document p) := by
  cases target : n.isStart with
  | true =>
    rw [drawn.document_intoStart target]
    exact .intoStart target
  | false =>
    cases source : m.isStart with
    | true =>
      rw [drawn.document_fromStart orders source target]
      exact .fromStart source target (iterableOrders_strict orders)
        (drawn.iterableOrders_target orders source target).1 (document_iterable g p)
    | false =>
      obtain ⟨front, back, place, whole⟩ := drawn.document_between orders source target p
      rw [whole]
      exact .between source target place (record_order _ _) (feederOrders_pairwise _ _)
        (drawn.feederOrders_target orders source).1 (record_dependsOn _ _)

end Orders

end Drawn

/-! ## Edits -/

section Edits

variable {g : Graph} (consistent : g.Consistent)

include consistent

theorem Consistent.connect_drawn {m n : Node} (hm : m ∈ g.nodes) (hn : n ∈ g.nodes)
    (free : ¬g.Joins m.id n.id) {iterates : Bool} (supply : Supply)
    (allowed : m.isStart = true → iterates = true ∨ g.edgesFrom m.id = []) :
    ∃ e h later, g.connect m.id n.id iterates supply = .ok (e, h, later) ∧ Drawn m n g h := by
  refine ⟨(g.link m.id n.id supply).1, (g.link m.id n.id supply).2.1, (g.link m.id n.id supply).2.2,
    ?_, consistent, hm, hn, free, link_nodes g m.id n.id supply, fun a b => joins_link g _ _ supply⟩
  rw [connect, node?_of_mem consistent.nodeIds hm, node?_of_mem consistent.nodeIds hn]
  refine if_neg ?_
  simp only [Bool.and_eq_true, Bool.not_eq_true', List.isEmpty_eq_false_iff]
  rintro ⟨⟨⟨-, start⟩, single⟩, leaving⟩
  rcases allowed start with iterating | none
  · rw [iterating] at single
    cases single
  · exact leaving none

/-- Drawing an edge that was erased gives back all that was joined. -/
theorem Consistent.disconnect_drawn {e : Edge} (he : e ∈ g.edges) :
    ∃ m ∈ g.nodes, ∃ n ∈ g.nodes, m.id = e.source ∧ n.id = e.target ∧
      ∃ h, g.disconnect? e.id = some h ∧ Drawn m n h g := by
  obtain ⟨⟨m, hm, source⟩, n, hn, target⟩ := consistent.closed e he
  have present : (g.edges.any (·.id == e.id)) = true :=
    List.any_eq_true.mpr ⟨e, he, beq_self_eq_true _⟩
  have inside : (g.edges.filter (·.id != e.id)).Sublist g.edges := List.filter_sublist
  refine ⟨m, hm, n, hn, source, target, { g with edges := g.edges.filter (·.id != e.id) },
    if_pos present, ⟨consistent.nodeIds, consistent.edgeIds.sublist (inside.map _),
      consistent.pairs.sublist (inside.map _), fun f hf => consistent.closed f (inside.mem hf),
      consistent.start⟩, hm, hn, ?_, rfl, fun a b => ?_⟩
  · -- Another edge with these ends would have its pair in the graph twice.
    rintro ⟨f, hf, sameSource, sameTarget⟩
    obtain ⟨hf, other⟩ := List.mem_filter.mp hf
    have pair : (f.source, f.target) = (e.source, e.target) := by
      rw [sameSource, sameTarget, source, target]
    rw [List.inj_on_of_nodup_map consistent.pairs hf he pair] at other
    exact absurd rfl (bne_iff_ne.mp other)
  · rw [source, target]
    constructor
    · rintro ⟨f, hf, rfl, rfl⟩
      by_cases same : f.id = e.id
      · rw [List.inj_on_of_nodup_map consistent.edgeIds hf he same]
        exact .inr rfl
      · exact .inl ⟨f, List.mem_filter.mpr ⟨hf, bne_iff_ne.mpr same⟩, rfl, rfl⟩
    · rintro (⟨f, hf, rfl, rfl⟩ | new)
      · exact ⟨f, inside.mem hf, rfl, rfl⟩
      · obtain ⟨rfl, rfl⟩ := Prod.mk.inj new
        exact ⟨e, he, rfl, rfl⟩

end Edits

/-- Where orders differ, edits of a consistent graph change its document in one place. A step that
is removed can be left out of the document, and so can its order. An edge that is drawn adds an
order to one list or to none, and erasing an edge takes back what drawing it would add. -/
theorem Consistent.edits_local {g : Graph} (consistent : g.Consistent)
    (orders : (g.steps.map (·.order)).Nodup) (p : Profile) :
    (∀ s ∈ g.steps, ∃ h, g.removeStep? s.id = some h ∧
      (g.document p).Without s.order (h.document p)) ∧
    (∀ m ∈ g.nodes, ∀ n ∈ g.nodes, ¬g.Joins m.id n.id → ∀ iterates supply,
      (m.isStart = true → iterates = true ∨ g.edgesFrom m.id = []) →
        ∃ e h later, g.connect m.id n.id iterates supply = .ok (e, h, later) ∧
          (g.document p).Gains m n (h.document p)) ∧
    ∀ e ∈ g.edges, ∃ m ∈ g.nodes, ∃ n ∈ g.nodes, m.id = e.source ∧ n.id = e.target ∧
      ∃ h, g.disconnect? e.id = some h ∧ (h.document p).Gains m n (g.document p) := by
  refine ⟨fun s hs => ?_, fun m hm n hn free iterates supply allowed => ?_, fun e he => ?_⟩
  · obtain ⟨h, done, dropped⟩ := exists_removeStep? consistent.nodeIds hs
    exact ⟨h, done, dropped.document orders p⟩
  · obtain ⟨e, h, later, done, drawn⟩ := consistent.connect_drawn hm hn free supply allowed
    exact ⟨e, h, later, done, drawn.document orders p⟩
  · obtain ⟨m, hm, n, hn, source, target, h, done, drawn⟩ := consistent.disconnect_drawn he
    exact ⟨m, hm, n, hn, source, target, h, done, drawn.document (drawn.steps ▸ orders) p⟩

/-- Two steps that feed each other, of which the later one feeds itself and the start as well. -/
def coil : Graph where
  nodes := [{ id := "a", order := 7 }, Node.start, { id := "b", order := 2 }]
  edges := [⟨"1", "start", "b"⟩, ⟨"2", "a", "b"⟩, ⟨"3", "b", "a"⟩, ⟨"4", "a", "a"⟩,
    ⟨"5", "a", "start"⟩]

def coilProfile : Profile :=
  { name := "Coil", iterates := true }

/-- The step that feeds itself is removed, or the start is joined to it, or its edge into the start
is erased. -/
theorem coil_edits_local :
    (∃ h, coil.removeStep? "a" = some h ∧
      (coil.document coilProfile).Without 7 (h.document coilProfile)) ∧
    (∃ e h later, coil.connect "start" "a" true .numbered = .ok (e, h, later) ∧
      (coil.document coilProfile).Gains Node.start { id := "a", order := 7 }
        (h.document coilProfile)) ∧
    ∃ m ∈ coil.nodes, ∃ n ∈ coil.nodes, m.id = "a" ∧ n.id = "start" ∧
      ∃ h, coil.disconnect? "5" = some h ∧
        (h.document coilProfile).Gains m n (coil.document coilProfile) := by
  have consistent : coil.Consistent :=
    ⟨by decide, by decide, by decide, by decide, Node.start, by decide, rfl, by decide⟩
  have orders : (coil.steps.map (·.order)).Nodup := by decide
  have free : ¬∃ e ∈ coil.edges, e.source = "start" ∧ e.target = "a" := by decide
  obtain ⟨remove, connect, disconnect⟩ := consistent.edits_local orders coilProfile
  refine ⟨remove { id := "a", order := 7 } (by decide), ?_,
    disconnect ⟨"5", "a", "start"⟩ (by decide)⟩
  exact connect Node.start (by decide) { id := "a", order := 7 } (by decide) free true .numbered
    fun _ => .inl rfl

end Graph

end Stepflow
