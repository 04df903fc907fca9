import Mathlib.Data.List.Sort
import Stepflow.Document.Export

/-!
# The stable order of nodes

Sorting by order is stable: nodes of one order stay in their places to each other. This leaves no
choice, since a list of nodes in ascending order is told by what it holds of each order.

Results:
1. `sortByOrder_stableSort`: `sortByOrder` sorts, and it is stable.
2. `StableSort.unique`: there is one stable sort of a list of nodes.
3. `sortByOrder_map`, `sortByOrder_filter`: whatever keeps the orders of nodes can be done before or
   after sorting, and nodes can be left out before or after it.
-/

namespace Stepflow

/-- `sorted` is the stable ascending sort of `nodes`. -/
structure StableSort (nodes sorted : List Node) : Prop where
  perm : sorted.Perm nodes
  ascending : sorted.Pairwise (·.order ≤ ·.order)
  stable : ∀ k, sorted.filter (·.order == k) = nodes.filter (·.order == k)

theorem filter_insertByOrder (n : Node) (nodes : List Node) (k : Int) :
    (insertByOrder n nodes).filter (·.order == k) = (n :: nodes).filter (·.order == k) := by
  induction nodes with
  | nil => rfl
  | cons m rest ih =>
    rw [insertByOrder]
    split
    · rfl
    · next notLe =>
      -- The two nodes change places, but their orders differ.
      rw [List.filter_cons, ih]
      by_cases first : m.order = k
      · have other : n.order ≠ k := by omega
        simp [first, other]
      · simp [first, List.filter_cons]

theorem filter_sortByOrder (nodes : List Node) (k : Int) :
    (sortByOrder nodes).filter (·.order == k) = nodes.filter (·.order == k) := by
  induction nodes with
  | nil => rfl
  | cons n rest ih =>
    have step : sortByOrder (n :: rest) = insertByOrder n (sortByOrder rest) := rfl
    rw [step, filter_insertByOrder, List.filter_cons, List.filter_cons, ih]

theorem sortByOrder_stableSort (nodes : List Node) : StableSort nodes (sortByOrder nodes) :=
  ⟨sortByOrder_perm nodes, sortByOrder_pairwise nodes, filter_sortByOrder nodes⟩

theorem mem_iff_of_filter_eq {nodes others : List Node}
    (same : ∀ k, nodes.filter (·.order == k) = others.filter (·.order == k)) {n : Node} :
    n ∈ nodes ↔ n ∈ others := by
  have members := congrArg (n ∈ ·) (same n.order)
  simpa using members

/-- Nodes in ascending order are told by what the list holds of each order. -/
theorem eq_of_filter_eq {nodes others : List Node} (ascending : nodes.Pairwise (·.order ≤ ·.order))
    (ascending' : others.Pairwise (·.order ≤ ·.order))
    (same : ∀ k, nodes.filter (·.order == k) = others.filter (·.order == k)) : nodes = others := by
  induction nodes generalizing others with
  | nil =>
    refine (List.eq_nil_iff_forall_not_mem.mpr fun n hn => ?_).symm
    exact List.not_mem_nil ((mem_iff_of_filter_eq same).mpr hn)
  | cons n rest ih =>
    have mem {k : Node} : k ∈ n :: rest ↔ k ∈ others := mem_iff_of_filter_eq same
    cases others with
    | nil => exact absurd (mem.mp List.mem_cons_self) List.not_mem_nil
    | cons m later =>
      rw [List.pairwise_cons] at ascending ascending'
      -- Each of the two heads is in the other list as well, so their orders are the same.
      have order : n.order = m.order := by
        refine Int.le_antisymm ?_ ?_
        · rcases List.mem_cons.mp (mem.mpr (List.mem_cons_self (a := m))) with here | behind
          · exact Int.le_of_eq (congrArg Node.order here).symm
          · exact ascending.1 m behind
        · rcases List.mem_cons.mp (mem.mp (List.mem_cons_self (a := n))) with here | behind
          · exact Int.le_of_eq (congrArg Node.order here).symm
          · exact ascending'.1 n behind
      have heads := same n.order
      rw [List.filter_cons_of_pos (by simp), List.filter_cons_of_pos (by simp [order])] at heads
      obtain rfl := List.head_eq_of_cons_eq heads
      have tails : ∀ k, rest.filter (·.order == k) = later.filter (·.order == k) := by
        intro k
        have whole := same k
        rw [List.filter_cons, List.filter_cons] at whole
        split at whole
        · exact List.tail_eq_of_cons_eq whole
        · exact whole
      rw [ih ascending.2 ascending'.2 tails]

/-- There is one stable sort of a list of nodes. -/
theorem StableSort.unique {nodes sorted others : List Node} (first : StableSort nodes sorted)
    (second : StableSort nodes others) : sorted = others :=
  eq_of_filter_eq first.ascending second.ascending fun k =>
    (first.stable k).trans (second.stable k).symm

/-- Whatever keeps the orders of nodes can be done before or after sorting. -/
theorem sortByOrder_map {change : Node → Node} {nodes : List Node}
    (kept : ∀ n ∈ nodes, (change n).order = n.order) :
    sortByOrder (nodes.map change) = (sortByOrder nodes).map change := by
  have kept' : ∀ n ∈ sortByOrder nodes, (change n).order = n.order := fun n hn =>
    kept n ((sortByOrder_perm nodes).mem_iff.mp hn)
  have through {list : List Node} (kept : ∀ n ∈ list, (change n).order = n.order) (k : Int) :
      (list.map change).filter (·.order == k) = (list.filter (·.order == k)).map change := by
    rw [List.filter_map]
    refine congrArg (List.map change) (List.filter_congr fun n hn => ?_)
    rw [Function.comp_apply, kept n hn]
  refine (sortByOrder_stableSort _).unique ⟨(sortByOrder_perm nodes).map change, ?_, fun k => ?_⟩
  · rw [List.pairwise_map]
    refine (sortByOrder_pairwise nodes).imp_of_mem fun hm hn le => ?_
    rwa [kept' _ hm, kept' _ hn]
  · rw [through kept', through kept, filter_sortByOrder]

/-- Nodes can be left out before or after sorting. -/
theorem sortByOrder_filter (keep : Node → Bool) (nodes : List Node) :
    sortByOrder (nodes.filter keep) = (sortByOrder nodes).filter keep := by
  refine (sortByOrder_stableSort _).unique
    ⟨(sortByOrder_perm nodes).filter keep, (sortByOrder_pairwise nodes).filter keep, fun k => ?_⟩
  rw [List.filter_comm, filter_sortByOrder, List.filter_comm]

end Stepflow
