import Mathlib.Data.List.Nodup
import Stepflow.Graph

/-!
# Edges and nodes of a graph

A graph is looked at through two questions: which node an id stands for, and whether an edge
joins two ids (`Joins`). The queries of a graph are answered in these terms.

Results:
1. `node?_of_mem`, `exists_around`: in a graph with distinct ids, an id stands for the node that
   carries it, and all nodes around this one have other ids.
2. `mem_feeders`, `exists_edgesFromStart_iff`: what feeds a node, by joined ids.
3. `joins_link`, `pairs_link_nodup`: linking joins two ids, changes nothing else, and never
   joins two ids a second time.
-/

namespace Stepflow.Graph

/-- Some edge leads from `source` to `target`. -/
def Joins (g : Graph) (source target : String) : Prop :=
  ∃ e ∈ g.edges, e.source = source ∧ e.target = target

def pairs (g : Graph) : List (String × String) :=
  g.edges.map fun e => (e.source, e.target)

theorem joins_iff_mem_pairs {g : Graph} {source target : String} :
    g.Joins source target ↔ (source, target) ∈ g.pairs := by
  simp [Joins, pairs]

/-! ## Nodes by id -/

theorem id_of_node? {g : Graph} {id : String} {n : Node} (h : g.node? id = some n) : n.id = id := by
  have hit := List.find?_some h
  exact eq_of_beq hit

theorem mem_of_node? {g : Graph} {id : String} {n : Node} (h : g.node? id = some n) :
    n ∈ g.nodes :=
  List.mem_of_find?_eq_some h

theorem exists_node_of_mem {g : Graph} {n : Node} (h : n ∈ g.nodes) :
    ∃ m, g.node? n.id = some m := by
  refine Option.isSome_iff_exists.mp ?_
  rw [node?, List.find?_isSome]
  exact ⟨n, h, beq_self_eq_true n.id⟩

/-- Nodes with distinct ids are told apart by them. -/
theorem eq_of_id_eq {nodes : List Node} (distinct : (nodes.map (·.id)).Nodup) {m n : Node}
    (hm : m ∈ nodes) (hn : n ∈ nodes) (same : m.id = n.id) : m = n :=
  List.inj_on_of_nodup_map distinct hm hn same

/-- Nodes with distinct ids, cut at one of them. -/
theorem exists_around {nodes : List Node} (distinct : (nodes.map (·.id)).Nodup) {n : Node}
    (hn : n ∈ nodes) :
    ∃ front back, nodes = front ++ n :: back ∧ ∀ k ∈ front ++ back, k ∈ nodes ∧ k.id ≠ n.id := by
  obtain ⟨front, back, rfl⟩ := List.append_of_mem hn
  rw [List.map_append, List.map_cons, List.nodup_middle, List.nodup_cons,
    ← List.map_append] at distinct
  refine ⟨front, back, rfl, fun k hk => ⟨?_, fun same => ?_⟩⟩
  · exact List.perm_middle.mem_iff.mpr (List.mem_cons_of_mem _ hk)
  · exact distinct.1 (same ▸ List.mem_map_of_mem hk)

/-- In a graph with distinct ids, an id stands for the node that carries it. -/
theorem node?_of_mem {g : Graph} (distinct : (g.nodes.map (·.id)).Nodup) {n : Node}
    (h : n ∈ g.nodes) : g.node? n.id = some n := by
  obtain ⟨m, found⟩ := exists_node_of_mem h
  rw [found, eq_of_id_eq distinct (mem_of_node? found) h (id_of_node? found)]

theorem isStart_of_mem {g : Graph} (distinct : (g.nodes.map (·.id)).Nodup) {n : Node}
    (h : n ∈ g.nodes) : g.isStart n.id = n.isStart := by
  rw [isStart, node?_of_mem distinct h, Option.any_some]

theorem isStart_congr {g h : Graph} (nodes : h.nodes = g.nodes) : h.isStart = g.isStart := by
  funext id
  rw [isStart, isStart, node?, node?, nodes]

/-! ## What feeds a node -/

theorem mem_steps {g : Graph} {n : Node} : n ∈ g.steps ↔ n ∈ g.nodes ∧ n.isStart = false := by
  simp [steps]

theorem mem_feeders {g : Graph} {n : Node} {id : String} :
    n ∈ g.feeders id ↔ n ∈ g.steps ∧ g.Joins n.id id := by
  simp only [feeders, edgesInto, Joins, mem_steps, List.mem_filter, List.any_filter,
    Bool.and_eq_true, Bool.not_eq_true', List.any_eq_true, beq_iff_eq, and_assoc]
  refine and_congr_right fun _ => and_congr_right fun _ => exists_congr fun e => ?_
  exact and_congr_right fun _ => and_comm

theorem exists_edgesFromStart_iff {g : Graph} {id : String} :
    (∃ e ∈ g.edgesFromStart, e.target = id) ↔
      ∃ source, g.isStart source = true ∧ g.Joins source id := by
  constructor
  · rintro ⟨e, mem, rfl⟩
    obtain ⟨inside, start⟩ := List.mem_filter.mp mem
    exact ⟨e.source, start, e, inside, rfl, rfl⟩
  · rintro ⟨source, start, e, inside, rfl, rfl⟩
    exact ⟨e, List.mem_filter.mpr ⟨inside, start⟩, rfl⟩

/-- Where no two ids are joined twice, edges from a start with the same ends are one. -/
theorem edgesFromStart_length_le_one {g : Graph} (once : g.pairs.Nodup)
    (same : ∀ e ∈ g.edgesFromStart, ∀ f ∈ g.edgesFromStart,
      (e.source, e.target) = (f.source, f.target)) : g.edgesFromStart.length ≤ 1 := by
  have apart : (g.edgesFromStart.map fun e => (e.source, e.target)).Nodup :=
    once.sublist (List.filter_sublist.map _)
  cases edges : g.edgesFromStart with
  | nil => exact Nat.zero_le 1
  | cons e rest =>
    cases rest with
    | nil => exact Nat.le_refl 1
    | cons f rest =>
      rw [edges] at same apart
      have ends := same f (List.mem_cons_of_mem _ List.mem_cons_self) e List.mem_cons_self
      exact absurd (List.mem_map.mpr ⟨f, List.mem_cons_self, ends⟩) (List.nodup_cons.mp apart).1

/-! ## Linking -/

theorem edgeBetween?_eq_none_iff {g : Graph} {source target : String} :
    g.edgeBetween? source target = none ↔ ¬g.Joins source target := by
  simp only [edgeBetween?, List.find?_eq_none, Joins, Bool.and_eq_true, beq_iff_eq]
  constructor
  · rintro none ⟨e, mem, ends⟩
    exact none e mem ends
  · intro free e mem ends
    exact free ⟨e, mem, ends⟩

/-- Linking leaves the graph alone or adds one edge, which is joined for the first time. -/
theorem link_cases (g : Graph) (source target : String) (supply : Supply) :
    (g.Joins source target ∧ (g.link source target supply).2 = (g, supply)) ∨
      (¬g.Joins source target ∧
        (g.link source target supply).2 =
          ({ g with
              edges := g.edges ++ [⟨"edge-" ++ supply.tag (supply.drawn + 1), source, target⟩] },
            { supply with drawn := supply.drawn + 1 })) := by
  unfold link
  cases found : g.edgeBetween? source target with
  | some e =>
    refine .inl ⟨?_, rfl⟩
    have hit := List.find?_some found
    simp only [Bool.and_eq_true, beq_iff_eq] at hit
    exact ⟨e, List.mem_of_find?_eq_some found, hit⟩
  | none => exact .inr ⟨edgeBetween?_eq_none_iff.mp found, rfl⟩

theorem link_nodes (g : Graph) (source target : String) (supply : Supply) :
    (g.link source target supply).2.1.nodes = g.nodes := by
  rcases link_cases g source target supply with ⟨-, same⟩ | ⟨-, added⟩
  · rw [same]
  · rw [added]

/-- The ends that are joined after linking are those before, and the two that are linked. -/
theorem joins_link (g : Graph) (source target : String) (supply : Supply) {a b : String} :
    (g.link source target supply).2.1.Joins a b ↔
      g.Joins a b ∨ (a, b) = (source, target) := by
  rcases link_cases g source target supply with ⟨joined, same⟩ | ⟨-, added⟩
  · rw [same]
    refine ⟨.inl, ?_⟩
    rintro (old | new)
    · exact old
    · cases new
      exact joined
  · rw [added]
    simp [joins_iff_mem_pairs, pairs]

/-- Linking never joins two ids a second time. -/
theorem pairs_link_nodup {g : Graph} (h : g.pairs.Nodup) (source target : String)
    (supply : Supply) : (g.link source target supply).2.1.pairs.Nodup := by
  rcases link_cases g source target supply with ⟨-, same⟩ | ⟨free, added⟩
  · rwa [same]
  · rw [joins_iff_mem_pairs] at free
    rw [added]
    unfold pairs at free h ⊢
    rw [List.map_append]
    refine List.Nodup.append h (List.nodup_singleton _) ?_
    intro pair old new
    rw [List.map_singleton, List.mem_singleton] at new
    exact free (new ▸ old)

end Stepflow.Graph
