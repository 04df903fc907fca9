import Mathlib.Data.List.Sort
import Stepflow.Document.Export
import Stepflow.Proofs.Dependencies
import Stepflow.Proofs.Graph

/-!
# What an export holds

Two facts carry over from the graph to its document: which steps feed which, and which steps
follow a start. The rest of a record is read off its node.

Results:
1. `mem_feederOrders`: the orders on which the record of a step depends.
2. `count_iterableOrders`, `iterableOrders_strict`: how often an order is listed as iterable, counted
   among the steps.
3. `document_regular`: whatever the graph, its document is a `Document.Regular` one.
4. `exported_eq_ok_iff`: when an export gives that document.
-/

namespace Stepflow

/-! ## Sorting -/

/-- Nodes that are in order stay where they are. -/
theorem sortByOrder_of_pairwise {nodes : List Node} (sorted : nodes.Pairwise (·.order ≤ ·.order)) :
    sortByOrder nodes = nodes := by
  induction nodes with
  | nil => rfl
  | cons n rest ih =>
    rw [List.pairwise_cons] at sorted
    have step : sortByOrder (n :: rest) = insertByOrder n (sortByOrder rest) := rfl
    rw [step, ih sorted.2]
    cases rest with
    | nil => rfl
    | cons m later => rw [insertByOrder, if_pos (sorted.1 m List.mem_cons_self)]

section Related

variable {Similar : Node → Node → Prop} (orders : ∀ {m n}, Similar m n → m.order = n.order)

include orders

theorem forall₂_insertByOrder {m n : Node} {nodes others : List Node} (first : Similar m n)
    (rest : List.Forall₂ Similar nodes others) :
    List.Forall₂ Similar (insertByOrder m nodes) (insertByOrder n others) := by
  induction rest with
  | nil => exact .cons first .nil
  | @cons k l nodes others head tail ih =>
    rw [insertByOrder, insertByOrder, orders first, orders head]
    split
    · exact .cons first (.cons head tail)
    · exact .cons head ih

/-- Sorting pairs up the same nodes again, if it cannot tell them apart. -/
theorem forall₂_sortByOrder {nodes others : List Node} (pairs : List.Forall₂ Similar nodes others) :
    List.Forall₂ Similar (sortByOrder nodes) (sortByOrder others) := by
  induction pairs with
  | nil => exact .nil
  | cons head _ ih => exact forall₂_insertByOrder orders head ih

end Related

/-! ## Documents -/

namespace Document

def orders (d : Document) : List Int :=
  d.steps.map (·.order)

/-- A document as exports make them: steps in ascending order, dependency lists that are ascending
and name steps of the document, and iterable orders in the places of their steps. -/
structure Regular (d : Document) : Prop where
  sorted : d.orders.Pairwise (· ≤ ·)
  declared : ∀ r ∈ d.steps, ∃ ks : List Int,
    ks.Pairwise (· < ·) ∧ (∀ k ∈ ks, k ∈ d.orders) ∧ r.dependsOn = Dependencies.text? ks
  listed : (d.iterable.getD []).Sublist d.orders
  iterable : d.iterable.isSome = d.iterates
  query : d.query.isSome = d.iterates
  delivery : d.delivery ≠ some []

theorem Regular.iterable_sorted {d : Document} (regular : d.Regular) :
    (d.iterable.getD []).Pairwise (· ≤ ·) :=
  regular.sorted.sublist regular.listed

end Document

namespace Graph

theorem sortedSteps_perm (g : Graph) : g.sortedSteps.Perm g.steps :=
  sortByOrder_perm _

theorem mem_sortedSteps {g : Graph} {n : Node} : n ∈ g.sortedSteps ↔ n ∈ g.steps :=
  g.sortedSteps_perm.mem_iff

/-- Where ids differ, the steps in order, cut at one of them. -/
theorem sortedSteps_around {g : Graph} (distinct : (g.nodes.map (·.id)).Nodup) {n : Node}
    (hn : n ∈ g.steps) :
    ∃ front back, g.sortedSteps = front ++ n :: back ∧
      ∀ k ∈ front ++ back, k ∈ g.steps ∧ k.id ≠ n.id := by
  have apart : (g.sortedSteps.map (·.id)).Nodup :=
    (g.sortedSteps_perm.map _).nodup_iff.mpr (distinct.sublist (List.filter_sublist.map _))
  simpa only [mem_sortedSteps] using exists_around apart (mem_sortedSteps.mpr hn)

theorem fedByStart_iff {g : Graph} {id : String} :
    g.fedByStart id = true ↔ ∃ e ∈ g.edgesFromStart, e.target = id := by
  simp only [fedByStart, edgesInto, edgesFromStart, List.any_filter, List.any_eq_true,
    Bool.and_eq_true, beq_iff_eq, List.mem_filter, and_assoc]
  exact exists_congr fun e => and_congr_right fun _ => and_comm

/-! ### Dependencies -/

/-- The orders that feed a node are those of the steps with an edge into it. -/
theorem mem_feederOrders {g : Graph} {id : String} {k : Int} :
    k ∈ g.feederOrders id ↔ ∃ n ∈ g.steps, g.Joins n.id id ∧ n.order = k := by
  simp only [feederOrders, Dependencies.mem_ascending, List.mem_map, mem_feeders, and_assoc]

theorem feederOrders_pairwise (g : Graph) (id : String) :
    (g.feederOrders id).Pairwise (· < ·) :=
  Dependencies.ascending_pairwise _

theorem feederOrders_eq_nil_iff {g : Graph} {id : String} :
    g.feederOrders id = [] ↔ g.feeders id = [] := by
  -- Orders may coincide where feeders do not, so lengths would not do.
  rw [List.eq_nil_iff_forall_not_mem, List.eq_nil_iff_forall_not_mem]
  constructor
  · intro none n hn
    obtain ⟨step, joined⟩ := mem_feeders.mp hn
    exact none n.order (mem_feederOrders.mpr ⟨n, step, joined, rfl⟩)
  · intro none k hk
    obtain ⟨n, step, joined, -⟩ := mem_feederOrders.mp hk
    exact none n (mem_feeders.mpr ⟨step, joined⟩)

/-! ### Other edges

What feeds a node is told by the edges into it. -/

section Congruence

variable {g h : Graph} {id : String} (nodes : h.nodes = g.nodes)
  (into : ∀ source, h.Joins source id ↔ g.Joins source id)

include nodes into

theorem feederOrders_congr : h.feederOrders id = g.feederOrders id := by
  refine (feederOrders_pairwise _ _).eq_of_mem_iff (feederOrders_pairwise _ _) fun k => ?_
  simp only [mem_feederOrders, steps, nodes, into]

theorem fedByStart_congr : h.fedByStart id = g.fedByStart id := by
  rw [Bool.eq_iff_iff, fedByStart_iff, fedByStart_iff, exists_edgesFromStart_iff,
    exists_edgesFromStart_iff]
  simp only [isStart_congr nodes, into]

end Congruence

/-! ### Iterable steps -/

theorem iterableOrders_eq (g : Graph) :
    g.iterableOrders = (g.sortedSteps.filter fun n => g.fedByStart n.id).map (·.order) := by
  have same : ∀ n ∈ g.sortedSteps,
      (g.edgesFromStart.any fun e => e.target == n.id) = g.fedByStart n.id := by
    intro n _
    rw [Bool.eq_iff_iff, fedByStart_iff, List.any_eq_true]
    simp only [beq_iff_eq]
  rw [iterableOrders, List.filter_congr same]

/-- An order is listed once for each of its steps that follow a start. -/
theorem count_iterableOrders (g : Graph) (k : Int) :
    g.iterableOrders.count k = g.steps.countP fun n => n.order == k && g.fedByStart n.id := by
  rw [iterableOrders_eq, List.count_eq_countP, List.countP_map, List.countP_filter]
  exact g.sortedSteps_perm.countP_eq _

theorem mem_iterableOrders {g : Graph} {k : Int} :
    k ∈ g.iterableOrders ↔ ∃ n ∈ g.steps, g.fedByStart n.id = true ∧ n.order = k := by
  simp only [iterableOrders_eq, List.mem_map, List.mem_filter, mem_sortedSteps, and_assoc]

theorem iterableOrders_pairwise (g : Graph) : g.iterableOrders.Pairwise (· ≤ ·) := by
  rw [iterableOrders_eq, List.pairwise_map]
  exact (sortByOrder_pairwise _).filter _

/-- Where no order comes twice, none is listed twice. -/
theorem iterableOrders_strict {g : Graph} (distinct : (g.steps.map (·.order)).Nodup) :
    g.iterableOrders.Pairwise (· < ·) := by
  have once : g.iterableOrders.Nodup := by
    rw [iterableOrders_eq]
    exact ((g.sortedSteps_perm.map _).nodup_iff.mpr distinct).sublist (List.filter_sublist.map _)
  exact (g.iterableOrders_pairwise.and once).imp fun ⟨le, ne⟩ => lt_of_le_of_ne le ne

/-! ### The document -/

/-- What a record says apart from the options of its kind. -/
theorem record_base (n : Node) (dependsOn : Option String) :
    (n.record dependsOn).order = n.order ∧ (n.record dependsOn).kind = n.exportedKind ∧
      (n.record dependsOn).content = n.content ∧ (n.record dependsOn).dependsOn = dependsOn := by
  unfold Node.record Node.withOptions
  split
  · exact ⟨rfl, rfl, rfl, rfl⟩
  · split
    · exact ⟨rfl, rfl, rfl, rfl⟩
    · exact ⟨rfl, rfl, rfl, rfl⟩

theorem record_order (n : Node) (dependsOn : Option String) :
    (n.record dependsOn).order = n.order :=
  (record_base n dependsOn).1

theorem record_dependsOn (n : Node) (dependsOn : Option String) :
    (n.record dependsOn).dependsOn = dependsOn :=
  (record_base n dependsOn).2.2.2

/-- The options of a record have nothing to do with its dependencies. -/
theorem record_with (n : Node) (dependsOn other : Option String) :
    n.record other = { n.record dependsOn with dependsOn := other } := by
  unfold Node.record Node.withOptions
  split
  · rfl
  · split
    · rfl
    · rfl

theorem document_orders (g : Graph) (p : Profile) :
    (g.document p).orders = g.sortedSteps.map (·.order) := by
  simp [Document.orders, document, record, record_order, Function.comp_def]

theorem mem_document_orders {g : Graph} {p : Profile} {k : Int} :
    k ∈ (g.document p).orders ↔ ∃ n ∈ g.steps, n.order = k := by
  simp only [document_orders, List.mem_map, mem_sortedSteps]

theorem document_orders_nodup_iff {g : Graph} {p : Profile} :
    (g.document p).orders.Nodup ↔ (g.steps.map (·.order)).Nodup := by
  rw [document_orders]
  exact (g.sortedSteps_perm.map _).nodup_iff

theorem fits_document_orders {g : Graph} {p : Profile}
    (fits : ∀ n ∈ g.steps, Numeral.fits n.order = true) :
    ∀ k ∈ (g.document p).orders, Numeral.fits k = true := by
  intro k hk
  obtain ⟨n, hn, rfl⟩ := mem_document_orders.mp hk
  exact fits n hn

theorem document_iterable (g : Graph) (p : Profile) :
    (g.document p).iterable = if p.iterates then some g.iterableOrders else none :=
  rfl

/-- Where no order comes twice, an order is listed as iterable iff a start leads to its step. -/
theorem mem_document_iterable {g : Graph} {p : Profile} (distinct : (g.steps.map (·.order)).Nodup)
    {n : Node} (hn : n ∈ g.steps) :
    n.order ∈ (g.document p).iterable.getD [] ↔
      p.iterates = true ∧ ∃ e ∈ g.edgesFromStart, e.target = n.id := by
  rw [document_iterable]
  split
  · next on =>
    rw [Option.getD_some, mem_iterableOrders, ← fedByStart_iff]
    constructor
    · rintro ⟨m, hm, fed, same⟩
      rw [List.inj_on_of_nodup_map distinct hm hn same] at fed
      exact ⟨on, fed⟩
    · rintro ⟨-, fed⟩
      exact ⟨n, hn, fed, rfl⟩
  · next off => simp [off]

/-- Whatever the graph, its document has its steps in order and no dependency that dangles. -/
theorem document_regular (g : Graph) (p : Profile) : (g.document p).Regular where
  sorted := by
    rw [document_orders, List.pairwise_map]
    exact sortByOrder_pairwise _
  declared := by
    intro r hr
    obtain ⟨n, -, rfl⟩ := List.mem_map.mp hr
    refine ⟨g.feederOrders n.id, g.feederOrders_pairwise _, ?_, record_dependsOn _ _⟩
    intro k hk
    obtain ⟨m, step, -, order⟩ := mem_feederOrders.mp hk
    exact mem_document_orders.mpr ⟨m, step, order⟩
  listed := by
    rw [document_iterable, document_orders]
    split
    · rw [Option.getD_some, iterableOrders_eq]
      exact List.filter_sublist.map _
    · exact List.nil_sublist _
  iterable := by cases on : p.iterates <;> simp [document, on]
  query := by cases on : p.iterates <;> simp [document, on]
  delivery := by cases rules : p.delivery <;> simp [document, rules]

/-- An export gives the document, or it fails for a numeral in the texts of a record. -/
theorem exported_eq_ok_iff {g : Graph} {p : Profile} {d : Document} :
    g.exported p = .ok d ↔
      (∀ n ∈ g.steps, (∀ k ∈ g.feederOrders n.id, Numeral.fits k = true) ∧
        ∀ amount, n.rangeAmount? = some amount → Numeral.fits amount = true) ∧
      g.document p = d := by
  have texts : ((g.steps.all fun n => (g.numerals n).all Numeral.fits) = true) ↔
      ∀ n ∈ g.steps, (∀ k ∈ g.feederOrders n.id, Numeral.fits k = true) ∧
        ∀ amount, n.rangeAmount? = some amount → Numeral.fits amount = true := by
    simp only [numerals, List.all_eq_true, List.mem_append, Option.mem_toList, or_imp, forall_and]
  rw [exported, ← texts]
  split
  · next fits => simp only [fits, Except.ok.injEq, true_and]
  · next overlong => simp only [overlong, reduceCtorEq, Bool.false_eq_true, false_and]

end Graph

end Stepflow
