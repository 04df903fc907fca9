import Stepflow.Proofs.Round
import Stepflow.Proofs.Wiring

/-!
# What a round makes of the edges

A flow is exported and imported again. Its edges pass through the dependency lists and the iterable
orders of the document, so no edge survives as such. As long as no order comes twice, the orders
tell the steps apart, and the new edges are told from the old graph: steps feed each other as
before, and a step that nothing fed is lined up behind the order before it or behind the start.
Edges that dangle and edges into a start are gone, and so are the edges from the start of a flow
that does not iterate.

Results:
1. `joins_reimport_iff`, `joins_start_reimport_iff`: when two steps, or the start and a step, are
   joined after a round.
2. `reimport_rewired`: all edges after a round.
-/

namespace Stepflow

open Import

namespace Graph

/-- The graph and the profile that an import makes of the export of a flow. -/
def reimport (env : Environment) (g : Graph) (p : Profile) (supply : Supply) : Graph × Profile :=
  (Import.document env (g.document p).toFields supply).1

/-- The graph `h` has the steps of `g` under their orders, and the edges that a round under the
profile `p` leaves. -/
structure Rewired (g : Graph) (p : Profile) (h : Graph) : Prop where
  nodes : h.nodes = Node.start :: h.steps
  orders : (h.steps.map (·.order)).Perm (g.steps.map (·.order))
  ids : (h.nodes.map (·.id)).Nodup
  /-- One step feeds another if it did so before, or if it is the one before a step that nothing
  fed. -/
  between : ∀ m ∈ g.steps, ∀ n ∈ g.steps, ∀ s ∈ h.steps, ∀ t ∈ h.steps,
    s.order = m.order → t.order = n.order →
      (h.Joins s.id t.id ↔
        m ∈ g.feeders n.id ∨ 1 < n.order ∧ g.feeders n.id = [] ∧ m.order = n.order - 1)
  /-- The start feeds a step if a start did so before and the flow iterates, or if the step is the
  first one and nothing fed it. -/
  fromStart : ∀ n ∈ g.steps, ∀ t ∈ h.steps, t.order = n.order →
    (h.Joins Node.start.id t.id ↔
      (p.iterates = true ∧ ∃ e ∈ g.edgesFromStart, e.target = n.id) ∨
        n.order = 1 ∧ g.feeders n.id = [])
  ends : ∀ e ∈ h.edges,
    (e.source = Node.start.id ∨ ∃ s ∈ h.steps, s.id = e.source) ∧ ∃ t ∈ h.steps, t.id = e.target
  once : h.pairs.Nodup

/-! ## Steps and their successors -/

/-- Every step comes back. -/
theorem exists_built (p : Profile) (supply : Supply) {g : Graph} {n : Node} (hn : n ∈ g.steps) :
    ∃ b ∈ built (g.document p).toFields supply, b.Of (g.record n) := by
  have record : g.record n ∈ (g.document p).steps :=
    List.mem_map_of_mem (mem_sortedSteps.mpr hn)
  exact exists_of_forall₂ (forall₂_built (g.document p) supply).flip record

/-- Every step that comes back was there before. -/
theorem exists_of_built {g : Graph} {p : Profile} {supply : Supply} {b : Built}
    (hb : b ∈ built (g.document p).toFields supply) : ∃ n ∈ g.steps, b.Of (g.record n) := by
  obtain ⟨r, hr, related⟩ := exists_of_forall₂ (forall₂_built (g.document p) supply) hb
  obtain ⟨n, hn, rfl⟩ := List.mem_map.mp hr
  exact ⟨n, mem_sortedSteps.mp hn, related⟩

theorem order_of_record {g : Graph} {n : Node} {b : Built} (h : b.Of (g.record n)) :
    b.node.order = n.order :=
  (order_of h).trans (record_order _ _)

theorem content_of_record {g : Graph} {n : Node} {b : Built} (h : b.Of (g.record n)) :
    b.node.content = n.content := by
  obtain ⟨-, id, here⟩ := h
  rw [here]
  exact (record_base _ _).2.2.1

theorem reimport_steps {env : Environment} {g : Graph} {p : Profile} {supply : Supply} {t : Node} :
    t ∈ (g.reimport env p supply).1.steps ↔
      ∃ b ∈ built (g.document p).toFields supply, b.node = t :=
  mem_graph_steps

/-- The steps come back in their stable order, and each of them is what an import makes of its
record. -/
theorem forall₂_reimport (env : Environment) (g : Graph) (p : Profile) (supply : Supply) :
    List.Forall₂ (fun n t => ∃ b : Built, b.Of (g.record n) ∧ b.node = t) g.sortedSteps
      (g.reimport env p supply).1.steps := by
  have records : List.Forall₂ (fun n b => Built.Of b (g.record n)) g.sortedSteps
      (built (g.document p).toFields supply) :=
    List.forall₂_map_left_iff.mp (forall₂_built (g.document p) supply)
  have steps : (g.reimport env p supply).1.steps =
      (built (g.document p).toFields supply).map (·.node) :=
    graph_steps _ _
  rw [steps, List.forall₂_map_right_iff]
  exact records.imp fun n b h => ⟨b, h, rfl⟩

/-- Every order comes back, as often as it was there. -/
theorem orders_perm_of_document (g : Graph) (p : Profile) (supply : Supply) :
    ((graph (g.document p).toFields supply).1.steps.map (·.order)).Perm (g.steps.map (·.order)) := by
  have orders : (graph (g.document p).toFields supply).1.steps.map (·.order) =
      g.sortedSteps.map (·.order) := by
    rw [graph_steps, List.map_map, ← document_orders g p, ← orders_toFields]
    exact built_orders _ supply
  rw [orders]
  exact g.sortedSteps_perm.map _

/-- A step that comes back declares the orders that fed it, if there were any. -/
theorem declared?_record {g : Graph} (fits : ∀ n ∈ g.steps, Numeral.fits n.order = true) {n : Node}
    {b : Built} (h : b.Of (g.record n)) :
    b.declared? = if g.feeders n.id = [] then none else some (g.feederOrders n.id) := by
  have fitting : ∀ k ∈ g.feederOrders n.id, Numeral.fits k = true := by
    intro k hk
    obtain ⟨m, hm, -, rfl⟩ := mem_feederOrders.mp hk
    exact fits m hm
  rw [h.declared? fitting (record_dependsOn _ _)]
  simp only [List.isEmpty_iff, feederOrders_eq_nil_iff]

/-! ## Edges after a round -/

section Distinct

variable {env : Environment} {g : Graph} {p : Profile} {supply : Supply}
  (distinct : (g.steps.map (·.order)).Nodup) (fits : ∀ n ∈ g.steps, Numeral.fits n.order = true)

include distinct

theorem built_ids_nodup : ((built (g.document p).toFields supply).map (·.node.id)).Nodup :=
  ids_nodup_of_orders (document_orders_nodup_iff.mpr distinct) supply

theorem orders_nodup_of_document :
    ((graph (g.document p).toFields supply).1.steps.map (·.order)).Nodup :=
  (orders_perm_of_document g p supply).nodup_iff.mpr distinct

/-- A step that comes back is told by its order. -/
theorem of_record_of_order {n : Node} (hn : n ∈ g.steps) {b : Built}
    (hb : b ∈ built (g.document p).toFields supply) (same : b.node.order = n.order) :
    b.Of (g.record n) := by
  obtain ⟨m, hm, related⟩ := exists_of_built hb
  have order := (order_of_record related).symm.trans same
  rwa [List.inj_on_of_nodup_map distinct hm hn order] at related

theorem mem_feeders_iff_order {m n : Node} (hm : m ∈ g.steps) :
    m ∈ g.feeders n.id ↔ m.order ∈ g.feederOrders n.id := by
  rw [mem_feeders, mem_feederOrders]
  constructor
  · rintro ⟨-, joined⟩
    exact ⟨m, hm, joined, rfl⟩
  · rintro ⟨k, hk, joined, order⟩
    rw [List.inj_on_of_nodup_map distinct hk hm order] at joined
    exact ⟨hm, joined⟩

include fits

/-- When one step feeds another after a round. -/
theorem joins_reimport_iff {m n : Node} (hm : m ∈ g.steps) {b c : Built}
    (hb : b ∈ built (g.document p).toFields supply)
    (hc : c ∈ built (g.document p).toFields supply)
    (ofM : b.Of (g.record m)) (ofN : c.Of (g.record n)) :
    (g.reimport env p supply).1.Joins b.node.id c.node.id ↔
      m ∈ g.feeders n.id ∨ 1 < n.order ∧ g.feeders n.id = [] ∧ m.order = n.order - 1 := by
  have last (k : Int) :
      last? (graph (g.document p).toFields supply).1.steps k = some b.node ↔ m.order = k := by
    rw [last?_eq_some_iff (orders_nodup_of_document distinct) (mem_graph_steps.mpr ⟨b, hb, rfl⟩),
      order_of_record ofM]
  refine (joins_graph_iff (built_ids_nodup distinct) hb hc).trans ?_
  rw [declared?_record fits ofN, order_of_record ofN]
  by_cases free : g.feeders n.id = []
  · rw [if_pos free]
    simp [free, last]
  · rw [if_neg free, mem_feeders_iff_order distinct hm]
    simp [free, last]

/-- When the start feeds a step after a round. -/
theorem joins_start_reimport_iff {n : Node} (hn : n ∈ g.steps) {c : Built}
    (hc : c ∈ built (g.document p).toFields supply) (ofN : c.Of (g.record n)) :
    (g.reimport env p supply).1.Joins Node.start.id c.node.id ↔
      (p.iterates = true ∧ ∃ e ∈ g.edgesFromStart, e.target = n.id) ∨
        n.order = 1 ∧ g.feeders n.id = [] := by
  have last : last? (graph (g.document p).toFields supply).1.steps c.node.order = some c.node :=
    (last?_eq_some_iff (orders_nodup_of_document distinct)
      (mem_graph_steps.mpr ⟨c, hc, rfl⟩)).mpr rfl
  -- What the document lists as iterable is what it wants.
  have listed : (get (g.document p).toFields "iterate_flow").truthy = true ∧
      c.node.order ∈ iterable (g.document p).toFields ↔
        p.iterates = true ∧ ∃ e ∈ g.edgesFromStart, e.target = n.id := by
    have wants := wanted_toFields (g.document_regular p)
    rw [← mem_document_iterable distinct hn, ← wants, wanted, order_of_record ofN]
    split
    · next on => simp [on]
    · next off => simp [off]
  refine (joins_start_iff (built_ids_nodup distinct) hc).trans ?_
  rw [and_iff_left last, listed, declared?_record fits ofN, order_of_record ofN]
  by_cases free : g.feeders n.id = []
  · simp [free]
  · simp [free]

end Distinct

/-- A flow whose steps have distinct orders comes back from a round with the edges that its wiring
leaves, each of them once, and with no others. -/
theorem reimport_rewired (env : Environment) (g : Graph) (p : Profile)
    (distinct : (g.steps.map (·.order)).Nodup)
    (fits : ∀ n ∈ g.steps, Numeral.fits n.order = true) (supply : Supply) :
    g.Rewired p (g.reimport env p supply).1 := by
  have wired : Wired (g.document p).toFields (g.reimport env p supply).1 :=
    graph_wired (built_ids_nodup distinct)
  refine ⟨wired.nodes, orders_perm_of_document g p supply, wired.ids, ?_, ?_, wired.ends, wired.once⟩
  · intro m hm n hn s hs t ht sameM sameN
    obtain ⟨b, hb, rfl⟩ := reimport_steps.mp hs
    obtain ⟨c, hc, rfl⟩ := reimport_steps.mp ht
    exact joins_reimport_iff distinct fits hm hb hc (of_record_of_order distinct hm hb sameM)
      (of_record_of_order distinct hn hc sameN)
  · intro n hn t ht same
    obtain ⟨c, hc, rfl⟩ := reimport_steps.mp ht
    exact joins_start_reimport_iff distinct fits hn hc (of_record_of_order distinct hn hc same)

/-- A loop over an order below the first, a step that feeds itself, an edge from nowhere, an edge
back to the start, and a step that nothing feeds. -/
def knot : Graph where
  nodes := [{ id := "back", order := -1 }, Node.start, { id := "self", order := 1 },
    { id := "loose", order := 2 }, { id := "next", order := 3 }]
  edges := [⟨"1", "start", "self"⟩, ⟨"2", "self", "self"⟩, ⟨"3", "self", "back"⟩,
    ⟨"4", "back", "self"⟩, ⟨"5", "nowhere", "loose"⟩, ⟨"6", "next", "start"⟩,
    ⟨"7", "self", "next"⟩, ⟨"8", "self", "next"⟩]

theorem knot_rewired :
    knot.Rewired { name := "Knot", iterates := true }
      (knot.reimport {} { name := "Knot", iterates := true } .numbered).1 :=
  reimport_rewired {} knot _ (by decide) (by decide +kernel) .numbered

/-- The edges of this graph after a round: only the step that nothing feeds is lined up. -/
example : (knot.reimport {} { name := "Knot", iterates := true } .numbered).1.pairs =
    [("start", "node-1-00000002"), ("node-1-00000002", "node--1-00000001"),
      ("node--1-00000001", "node-1-00000002"), ("node-1-00000002", "node-1-00000002"),
      ("node-1-00000002", "node-2-00000003"), ("node-1-00000002", "node-3-00000004")] := by
  decide +kernel

end Graph

end Stepflow
