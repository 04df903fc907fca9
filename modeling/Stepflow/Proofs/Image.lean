import Stepflow.Proofs.Report

/-!
# Images of a graph

A graph is looked at through ids, orders and marks of a start only. So another graph answers every
question alike if its nodes are those of the first one under a change that keeps orders and starts,
its edges join the ids as they are renamed, and no two ids fall together. Where nodes and edges are
stored does not matter as long as no id is carried twice.

Results:
1. `Image.joins`, `Image.isStart`: edges and starts of an image.
2. `Image.feederOrders`, `Image.fedByStart`: what feeds a node of an image.
3. `Image.edgesFromStart_length`, `Image.hasRepeatedOrder`: what a check asks of all of an image.
-/

namespace Stepflow.Graph

/-- The ids that a graph mentions: those of its nodes and those at the ends of its edges. -/
def mentions (g : Graph) : Set String :=
  {id | id ∈ g.nodes.map (·.id) ∨ ∃ pair ∈ g.pairs, pair.1 = id ∨ pair.2 = id}

/-- The graph `h` has the nodes of `g` as `change` makes them and the edges of `g` between renamed
ids, wherever it stores them. -/
structure Image (rename : String → String) (change : Node → Node) (g h : Graph) : Prop where
  apart : Set.InjOn rename g.mentions
  id : ∀ n ∈ g.nodes, (change n).id = rename n.id
  order : ∀ n ∈ g.nodes, (change n).order = n.order
  start : ∀ n ∈ g.nodes, (change n).isStart = n.isStart
  nodes : h.nodes.Perm (g.nodes.map change)
  edges : h.pairs.Perm (g.pairs.map (Prod.map rename rename))

theorem id_mem_mentions {g : Graph} {n : Node} (h : n ∈ g.nodes) : n.id ∈ g.mentions :=
  .inl (List.mem_map_of_mem h)

theorem mem_mentions_of_joins {g : Graph} {a b : String} (h : g.Joins a b) :
    a ∈ g.mentions ∧ b ∈ g.mentions := by
  rw [joins_iff_mem_pairs] at h
  exact ⟨.inr ⟨_, h, .inl rfl⟩, .inr ⟨_, h, .inr rfl⟩⟩

/-- Where no id is carried twice, an id stands for a start iff a start carries it. -/
theorem isStart_iff {g : Graph} (distinct : (g.nodes.map (·.id)).Nodup) {id : String} :
    g.isStart id = true ↔ ∃ n ∈ g.nodes, n.id = id ∧ n.isStart = true := by
  rw [isStart, Option.any_eq_true]
  constructor
  · rintro ⟨n, found, start⟩
    exact ⟨n, mem_of_node? found, id_of_node? found, start⟩
  · rintro ⟨n, hn, rfl, start⟩
    exact ⟨n, node?_of_mem distinct hn, start⟩

theorem fedByStart_iff_joins {g : Graph} {id : String} :
    g.fedByStart id = true ↔ ∃ source, g.isStart source = true ∧ g.Joins source id := by
  rw [fedByStart_iff, exists_edgesFromStart_iff]

theorem edgesFromStart_length (g : Graph) :
    g.edgesFromStart.length = g.pairs.countP fun pair => g.isStart pair.1 := by
  rw [edgesFromStart, ← List.countP_eq_length_filter, pairs, List.countP_map]
  rfl

namespace Image

variable {rename : String → String} {change : Node → Node} {g h : Graph}
  (image : Image rename change g h)

include image

theorem steps : h.steps.Perm (g.steps.map change) := by
  have through : (g.nodes.map change).filter (!·.isStart) = g.steps.map change := by
    rw [List.filter_map, Graph.steps]
    refine congrArg (List.map change) (List.filter_congr fun n hn => ?_)
    rw [Function.comp_apply, image.start n hn]
  rw [← through]
  exact image.nodes.filter _

theorem mem_steps {m : Node} : m ∈ h.steps ↔ ∃ n ∈ g.steps, change n = m := by
  rw [image.steps.mem_iff, List.mem_map]

theorem orders : (h.steps.map (·.order)).Perm (g.steps.map (·.order)) := by
  have kept : (g.steps.map change).map (·.order) = g.steps.map (·.order) := by
    rw [List.map_map]
    exact List.map_congr_left fun n hn => image.order n (Graph.mem_steps.mp hn).1
  exact kept ▸ image.steps.map _

theorem nodeIds (distinct : (g.nodes.map (·.id)).Nodup) : (h.nodes.map (·.id)).Nodup := by
  have renamed : (g.nodes.map change).map (·.id) = (g.nodes.map (·.id)).map rename := by
    rw [List.map_map, List.map_map]
    exact List.map_congr_left fun n hn => image.id n hn
  rw [(image.nodes.map _).nodup_iff, renamed]
  exact distinct.map_on fun a ha b hb => image.apart (.inl ha) (.inl hb)

/-! ## Edges and starts -/

theorem joins_renamed {a b : String} (joined : g.Joins a b) : h.Joins (rename a) (rename b) := by
  rw [joins_iff_mem_pairs] at joined ⊢
  exact image.edges.mem_iff.mpr (List.mem_map.mpr ⟨_, joined, rfl⟩)

theorem exists_of_joins {a b : String} (joined : h.Joins a b) :
    ∃ c d, g.Joins c d ∧ rename c = a ∧ rename d = b := by
  rw [joins_iff_mem_pairs, image.edges.mem_iff, List.mem_map] at joined
  obtain ⟨⟨c, d⟩, mem, same⟩ := joined
  cases same
  exact ⟨c, d, joins_iff_mem_pairs.mpr mem, rfl, rfl⟩

/-- Two ids are joined in an image iff they are joined in the graph. -/
theorem joins {a b : String} (ha : a ∈ g.mentions) (hb : b ∈ g.mentions) :
    h.Joins (rename a) (rename b) ↔ g.Joins a b := by
  refine ⟨fun joined => ?_, image.joins_renamed⟩
  obtain ⟨c, d, before, sourceEq, targetEq⟩ := image.exists_of_joins joined
  obtain ⟨hc, hd⟩ := mem_mentions_of_joins before
  rwa [image.apart hc ha sourceEq, image.apart hd hb targetEq] at before

/-- An id stands for a start in an image iff it does so in the graph. -/
theorem isStart (distinct : (g.nodes.map (·.id)).Nodup) {id : String} (hid : id ∈ g.mentions) :
    h.isStart (rename id) = g.isStart id := by
  rw [Bool.eq_iff_iff, isStart_iff distinct, isStart_iff (image.nodeIds distinct)]
  constructor
  · rintro ⟨m, hm, same, start⟩
    obtain ⟨n, hn, rfl⟩ := List.mem_map.mp (image.nodes.mem_iff.mp hm)
    rw [image.id n hn] at same
    exact ⟨n, hn, image.apart (id_mem_mentions hn) hid same, image.start n hn ▸ start⟩
  · rintro ⟨n, hn, rfl, start⟩
    refine ⟨change n, image.nodes.mem_iff.mpr (List.mem_map_of_mem hn), image.id n hn, ?_⟩
    rw [image.start n hn, start]

/-! ## What feeds a node -/

/-- The steps that feed a node of an image have the orders of those that feed it in the graph. -/
theorem feederOrders {id : String} (hid : id ∈ g.mentions) :
    h.feederOrders (rename id) = g.feederOrders id := by
  refine (feederOrders_pairwise _ _).eq_of_mem_iff (feederOrders_pairwise _ _) fun k => ?_
  rw [mem_feederOrders, mem_feederOrders]
  constructor
  · rintro ⟨m, hm, joined, rfl⟩
    obtain ⟨n, hn, rfl⟩ := image.mem_steps.mp hm
    have inside := (Graph.mem_steps.mp hn).1
    rw [image.id n inside, image.joins (id_mem_mentions inside) hid] at joined
    exact ⟨n, hn, joined, (image.order n inside).symm⟩
  · rintro ⟨n, hn, joined, rfl⟩
    have inside := (Graph.mem_steps.mp hn).1
    refine ⟨change n, image.mem_steps.mpr ⟨n, hn, rfl⟩, ?_, image.order n inside⟩
    rw [image.id n inside]
    exact image.joins_renamed joined

/-- A start feeds a node of an image iff a start feeds it in the graph. -/
theorem fedByStart (distinct : (g.nodes.map (·.id)).Nodup) {id : String} (hid : id ∈ g.mentions) :
    h.fedByStart (rename id) = g.fedByStart id := by
  rw [Bool.eq_iff_iff, fedByStart_iff_joins, fedByStart_iff_joins]
  constructor
  · rintro ⟨source, start, joined⟩
    obtain ⟨a, b, before, rfl, same⟩ := image.exists_of_joins joined
    obtain ⟨ha, hb⟩ := mem_mentions_of_joins before
    rw [image.isStart distinct ha] at start
    exact ⟨a, start, image.apart hb hid same ▸ before⟩
  · rintro ⟨source, start, joined⟩
    refine ⟨rename source, ?_, image.joins_renamed joined⟩
    rw [image.isStart distinct (mem_mentions_of_joins joined).1, start]

/-! ## The graph as a whole -/

theorem edgesFromStart_length (distinct : (g.nodes.map (·.id)).Nodup) :
    h.edgesFromStart.length = g.edgesFromStart.length := by
  rw [Graph.edgesFromStart_length, Graph.edgesFromStart_length, image.edges.countP_eq,
    List.countP_map]
  refine List.countP_congr fun pair hp => ?_
  rw [Function.comp_apply, Prod.map_fst, image.isStart distinct (.inr ⟨pair, hp, .inl rfl⟩)]

theorem startIsSplit (distinct : (g.nodes.map (·.id)).Nodup) (p : Profile) :
    h.startIsSplit p = g.startIsSplit p := by
  rw [Graph.startIsSplit, Graph.startIsSplit, image.edgesFromStart_length distinct]

theorem hasRepeatedOrder : hasRepeatedOrder h.steps = hasRepeatedOrder g.steps := by
  rw [← Bool.not_inj_iff, Bool.eq_iff_iff, Bool.not_eq_true', Bool.not_eq_true',
    hasRepeatedOrder_eq_false_iff, hasRepeatedOrder_eq_false_iff]
  exact image.orders.nodup_iff

end Image

end Stepflow.Graph
