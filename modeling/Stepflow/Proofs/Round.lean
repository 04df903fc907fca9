import Stepflow.Proofs.Export
import Stepflow.Proofs.Field
import Stepflow.Proofs.Import
import Stepflow.Proofs.Record

/-!
# One round: import and export

A round imports a document and exports it again. What it makes of a document is told from the
document alone, without the graph in between and without the tags that are drawn for it.

Which steps follow the start is kept as a list of marks: the order of each step, and whether it
follows the start by itself. A step that is only listed as iterable follows the start if it is the
last of its order.

Results:
1. `mem_feederOrders_built`: a step depends on the orders it names that are there.
2. `count_iterableOrders`: how often an order is listed as iterable after a round.
3. `round_steps`: the steps of an exported document after a round.
-/

attribute [ext] Stepflow.Document

namespace Stepflow.Import

/-- The document that an import followed by an export makes of a document. -/
def round (env : Environment) (fields : List (String × Json)) (supply : Supply) : Document :=
  let ((graph, profile), _) := document env fields supply
  graph.document profile

theorem round_regular (env : Environment) (fields : List (String × Json)) (supply : Supply) :
    (round env fields supply).Regular :=
  Graph.document_regular _ _

/-- Sorted lists are told apart by how often they hold their members. -/
theorem eq_of_count {orders others : List Int} (sorted : orders.Pairwise (· ≤ ·))
    (sorted' : others.Pairwise (· ≤ ·)) (same : ∀ k, orders.count k = others.count k) :
    orders = others :=
  (List.perm_iff_count.mpr same).eq_of_pairwise (fun _ _ _ _ => Int.le_antisymm) sorted sorted'

/-- What holds of the pairs of two lists may use that their parts are members. -/
theorem forall₂_imp_of_mem {α β : Type} {R S : α → β → Prop} {l : List α} {m : List β}
    (pairs : List.Forall₂ R l m) (imp : ∀ a ∈ l, ∀ b ∈ m, R a b → S a b) : List.Forall₂ S l m := by
  induction pairs with
  | nil => exact .nil
  | cons head _ ih =>
    refine .cons (imp _ List.mem_cons_self _ List.mem_cons_self head) (ih ?_)
    exact fun a ha b hb => imp a (List.mem_cons_of_mem _ ha) b (List.mem_cons_of_mem _ hb)

/-! ## Steps that feed a step -/

section Distinct

variable {fields : List (String × Json)} {supply : Supply}
  (distinct : ((built fields supply).map (·.node.id)).Nodup)

include distinct

/-- A step is fed by the last steps of the orders that it takes its input from. -/
theorem mem_feederOrders_built {b : Built} (hb : b ∈ built fields supply) {k : Int} :
    k ∈ (graph fields supply).1.feederOrders b.node.id ↔ k ∈ b.sources ∧ k ∈ orders fields := by
  have apart : ∀ c ∈ built fields supply, c.node.id ≠ Node.start.id := fun c hc =>
    build_id_ne_start hc
  rw [Graph.mem_feederOrders, graph_steps]
  constructor
  · rintro ⟨n, mem, joined, rfl⟩
    obtain ⟨c, hc, rfl⟩ := List.mem_map.mp mem
    rw [joins_graph, mem_wires_of_step distinct apart hc hb] at joined
    rw [← built_orders fields supply]
    exact ⟨joined.1, List.mem_map.mpr ⟨c, hc, rfl⟩⟩
  · rintro ⟨source, present⟩
    have carried : k ∈ ((built fields supply).map (·.node)).map (·.order) := by
      rw [List.map_map]
      exact built_orders fields supply ▸ present
    obtain ⟨n, last⟩ := exists_last?_iff.mpr carried
    obtain ⟨mem, rfl⟩ := last?_spec last
    obtain ⟨c, hc, rfl⟩ := List.mem_map.mp mem
    refine ⟨c.node, mem, ?_, rfl⟩
    rw [joins_graph, mem_wires_of_step distinct apart hc hb]
    exact ⟨source, last⟩

end Distinct

/-! ## Steps that follow the start -/

/-- The orders that a document lists as iterable, if it iterates at all. -/
def wanted (fields : List (String × Json)) : List Int :=
  if (get fields "iterate_flow").truthy then iterable fields else []

/-- The order of a step, and whether the step follows the start by itself. -/
def Built.mark (b : Built) : Int × Bool :=
  (b.node.order, b.followsStart)

/-- How often an order is listed as iterable after a round: once for each step that follows the
start by itself, and once more if the order is wanted and its last step does not. -/
def listed (marks : List (Int × Bool)) (wanted : List Int) (k : Int) : Nat :=
  marks.countP (fun mark => mark.1 == k && mark.2) +
    if k ∈ wanted ∧ (marks.reverse.find? (·.1 == k)).any (!·.2) then 1 else 0

section Marks

variable {marks : List (Int × Bool)} {wanted : List Int} {k : Int}

theorem listed_of_not_mem (absent : k ∉ marks.map (·.1)) : listed marks wanted k = 0 := by
  have other : ∀ mark ∈ marks, mark.1 ≠ k := fun mark hm same =>
    absent (List.mem_map.mpr ⟨mark, hm, same⟩)
  have none_found : marks.reverse.find? (·.1 == k) = none := by
    rw [List.find?_eq_none]
    intro mark hm
    simpa using other mark (List.mem_reverse.mp hm)
  have none_counted : marks.countP (fun mark => mark.1 == k && mark.2) = 0 := by
    rw [List.countP_eq_zero]
    intro mark hm
    simp [other mark hm]
  rw [listed, none_counted, none_found]
  simp

/-- Where no order comes twice, none is listed twice. -/
theorem listed_of_nodup (nodup : (marks.map (·.1)).Nodup) {follows : Bool}
    (hk : (k, follows) ∈ marks) :
    listed marks wanted k = if follows = true ∨ k ∈ wanted then 1 else 0 := by
  have only : ∀ mark ∈ marks, mark.1 = k → mark = (k, follows) := fun mark hm same =>
    List.inj_on_of_nodup_map nodup hm hk same
  have found : marks.reverse.find? (·.1 == k) = some (k, follows) := by
    cases hit : marks.reverse.find? (·.1 == k) with
    | none =>
      have miss := List.find?_eq_none.mp hit _ (List.mem_reverse.mpr hk)
      exact absurd (beq_self_eq_true k) miss
    | some mark =>
      rw [only mark (List.mem_reverse.mp (List.mem_of_find?_eq_some hit))
        (by simpa using List.find?_some hit)]
  have counted : marks.countP (fun mark => mark.1 == k && mark.2) = if follows then 1 else 0 := by
    have once := List.count_eq_one_of_mem nodup (List.mem_map.mpr ⟨_, hk, rfl⟩)
    rw [List.count_eq_countP, List.countP_map, Function.comp_def] at once
    cases follows with
    | true =>
      rw [if_pos rfl, ← once]
      refine List.countP_congr fun mark hm => ?_
      simp only [Bool.and_eq_true, beq_iff_eq, and_iff_left_iff_imp]
      intro same
      rw [only mark hm same]
    | false =>
      rw [if_neg Bool.false_ne_true, List.countP_eq_zero]
      intro mark hm
      simp only [Bool.and_eq_true, beq_iff_eq, not_and]
      intro same
      rw [only mark hm same]
      exact Bool.false_ne_true
  rw [listed, counted, found]
  cases follows <;> simp

end Marks

/-- The last step of an order. -/
def lastBuilt? (bs : List Built) (k : Int) : Option Built :=
  bs.reverse.find? (·.node.order == k)

theorem last?_map (bs : List Built) (k : Int) :
    last? (bs.map (·.node)) k = (lastBuilt? bs k).map (·.node) := by
  rw [last?, lastBuilt?, ← List.map_reverse, List.find?_map]
  rfl

theorem lastBuilt?_spec {bs : List Built} {k : Int} {b : Built} (h : lastBuilt? bs k = some b) :
    b ∈ bs ∧ b.node.order = k :=
  ⟨List.mem_reverse.mp (List.mem_of_find?_eq_some h), by simpa using List.find?_some h⟩

theorem find?_marks (bs : List Built) (k : Int) :
    (bs.map Built.mark).reverse.find? (·.1 == k) = (lastBuilt? bs k).map Built.mark := by
  rw [lastBuilt?, ← List.map_reverse, List.find?_map]
  rfl

section Distinct

variable {bs : List Built} (distinct : (bs.map (·.node.id)).Nodup)

include distinct

/-- At most one step is the last of its order. -/
theorem countP_last (on : Built → Bool) (k : Int) :
    (bs.countP fun b => (b.node.order == k && on b) &&
        decide (last? (bs.map (·.node)) b.node.order = some b.node)) =
      if (lastBuilt? bs k).any on then 1 else 0 := by
  cases last : lastBuilt? bs k with
  | none =>
    have absent : last? (bs.map (·.node)) k = none := by rw [last?_map, last, Option.map_none]
    rw [Option.any_none, if_neg Bool.false_ne_true, List.countP_eq_zero]
    intro b _ hit
    simp only [Bool.and_eq_true, beq_iff_eq, decide_eq_true_eq] at hit
    obtain ⟨⟨rfl, -⟩, found⟩ := hit
    rw [absent] at found
    cases found
  | some c =>
    obtain ⟨hc, rfl⟩ := lastBuilt?_spec last
    have found : last? (bs.map (·.node)) c.node.order = some c.node := by
      rw [last?_map, last, Option.map_some]
    -- Only the last step itself can pass, and ids tell steps apart.
    have only : ∀ b ∈ bs, ((b.node.order == c.node.order && on b) &&
        decide (last? (bs.map (·.node)) b.node.order = some b.node)) =
          (b.node.id == c.node.id && on c) := by
      intro b hb
      rw [Bool.eq_iff_iff]
      simp only [Bool.and_eq_true, beq_iff_eq, decide_eq_true_eq]
      constructor
      · rintro ⟨⟨order, passes⟩, here⟩
        rw [order, found] at here
        have same := eq_of_node_id distinct hb hc (congrArg Node.id (Option.some.inj here).symm)
        exact ⟨congrArg (·.node.id) same, same ▸ passes⟩
      · rintro ⟨id, passes⟩
        obtain rfl := eq_of_node_id distinct hb hc id
        exact ⟨⟨rfl, passes⟩, found⟩
    rw [List.countP_congr fun b hb => by rw [only b hb], Option.any_some]
    cases on c with
    | false => simp
    | true =>
      have once := List.count_eq_one_of_mem distinct (List.mem_map.mpr ⟨c, hc, rfl⟩)
      rw [List.count_eq_countP, List.countP_map, Function.comp_def] at once
      simpa using once

end Distinct

section Distinct

variable {fields : List (String × Json)} {supply : Supply}
  (distinct : ((built fields supply).map (·.node.id)).Nodup)

include distinct

omit distinct in
/-- The start is the one node that a step is fed by as by a start. -/
theorem fedByStart_graph {id : String} :
    (graph fields supply).1.fedByStart id = true ↔
      (graph fields supply).1.Joins Node.start.id id := by
  rw [Graph.fedByStart_iff, Graph.exists_edgesFromStart_iff]
  simp only [graph_isStart, exists_eq_left]

theorem fedByStart_built {b : Built} (hb : b ∈ built fields supply) :
    (graph fields supply).1.fedByStart b.node.id =
      (b.followsStart || (decide (b.node.order ∈ wanted fields) &&
        decide (last? ((built fields supply).map (·.node)) b.node.order = some b.node))) := by
  have apart : ∀ c ∈ built fields supply, c.node.id ≠ Node.start.id := fun c hc =>
    build_id_ne_start hc
  rw [Bool.eq_iff_iff, fedByStart_graph, joins_graph, mem_wires_of_start distinct apart hb]
  unfold wanted
  by_cases on : (get fields "iterate_flow").truthy = true
  · simp [on]
  · simp [on]

/-- How often an order is listed as iterable after a round. -/
theorem count_iterableOrders (k : Int) :
    (graph fields supply).1.iterableOrders.count k =
      listed ((built fields supply).map Built.mark) (wanted fields) k := by
  have byThemselves : ((built fields supply).filter Built.followsStart).countP
      (fun b => b.node.order == k && (graph fields supply).1.fedByStart b.node.id) =
        ((built fields supply).map Built.mark).countP fun mark => mark.1 == k && mark.2 := by
    rw [List.countP_filter, List.countP_map]
    refine List.countP_congr fun b hb => ?_
    rw [fedByStart_built distinct hb, Function.comp_apply, Built.mark]
    cases b.followsStart <;> simp
  have asLast : ((built fields supply).filter (!Built.followsStart ·)).countP
      (fun b => b.node.order == k && (graph fields supply).1.fedByStart b.node.id) =
        if k ∈ wanted fields ∧
          ((((built fields supply).map Built.mark).reverse.find? (·.1 == k)).any (!·.2)) = true
        then 1 else 0 := by
    rw [List.countP_filter, find?_marks, Option.any_map]
    by_cases want : k ∈ wanted fields
    · simp only [want, true_and]
      rw [← countP_last distinct]
      refine List.countP_congr fun b hb => ?_
      rw [fedByStart_built distinct hb, Built.mark]
      by_cases order : b.node.order = k
      · cases b.followsStart <;> simp [order, want]
      · simp [order]
    · simp only [want, false_and, if_false]
      rw [List.countP_eq_zero]
      intro b hb
      rw [fedByStart_built distinct hb]
      by_cases order : b.node.order = k
      · cases b.followsStart <;> simp [order, want]
      · simp [order]
  rw [Graph.count_iterableOrders, graph_steps, List.countP_map,
    List.countP_eq_countP_filter_add _ _ Built.followsStart]
  exact congrArg₂ (· + ·) byThemselves asLast

end Distinct

/-! ## Independence of the tags -/

section Independent

variable {fields : List (String × Json)} {supply other : Supply}

/-- Steps that are built for the same document with different tags. -/
theorem forall₂_built_built (position : Nat) (steps : List (List (String × Json)))
    (supply other : Supply) :
    List.Forall₂ (fun b c => ∃ step place tag mark, b = ⟨step, node step place tag⟩ ∧
        c = ⟨step, node step place mark⟩)
      (build position steps supply).1 (build position steps other).1 := by
  induction steps generalizing position supply other with
  | nil => exact .nil
  | cons step rest ih =>
    rw [build_cons, build_cons]
    exact .cons ⟨step, position, _, _, rfl, rfl⟩ (ih _ _ _)

theorem marks_independent :
    (built fields supply).map Built.mark = (built fields other).map Built.mark := by
  rw [← List.forall₂_eq_eq_eq, List.forall₂_map_left_iff, List.forall₂_map_right_iff]
  refine (forall₂_built_built 1 _ supply other).imp ?_
  rintro _ _ ⟨step, place, tag, mark, rfl, rfl⟩
  rfl

variable (distinct : ((built fields supply).map (·.node.id)).Nodup)
  (distinct' : ((built fields other).map (·.node.id)).Nodup)

include distinct distinct'

theorem sortedRecords_independent :
    (graph fields supply).1.sortedSteps.map (graph fields supply).1.record =
      (graph fields other).1.sortedSteps.map (graph fields other).1.record := by
  have related : List.Forall₂ (fun m n => m.order = n.order ∧
      (graph fields supply).1.record m = (graph fields other).1.record n)
      ((built fields supply).map (·.node)) ((built fields other).map (·.node)) := by
    rw [List.forall₂_map_left_iff, List.forall₂_map_right_iff]
    refine forall₂_imp_of_mem (forall₂_built_built 1 _ supply other) ?_
    rintro b hb c hc ⟨step, place, tag, mark, rfl, rfl⟩
    refine ⟨rfl, ?_⟩
    have feeders : (graph fields supply).1.feederOrders (node step place tag).id =
        (graph fields other).1.feederOrders (node step place mark).id := by
      refine (Graph.feederOrders_pairwise _ _).eq_of_mem_iff (Graph.feederOrders_pairwise _ _) ?_
      intro k
      exact (mem_feederOrders_built distinct hb).trans (mem_feederOrders_built distinct' hc).symm
    rw [Graph.record, Graph.record, Graph.dependsOn, Graph.dependsOn, feeders]
    rfl
  rw [← List.forall₂_eq_eq_eq, List.forall₂_map_left_iff, List.forall₂_map_right_iff,
    Graph.sortedSteps, Graph.sortedSteps, graph_steps, graph_steps]
  exact (forall₂_sortByOrder And.left related).imp fun _ _ => And.right

/-- A round does not depend on the tags that are drawn for it, as long as no ids clash. -/
theorem round_independent (env : Environment) :
    round env fields supply = round env fields other := by
  have orders : (graph fields supply).1.iterableOrders = (graph fields other).1.iterableOrders := by
    refine eq_of_count (Graph.iterableOrders_pairwise _) (Graph.iterableOrders_pairwise _) ?_
    intro k
    rw [count_iterableOrders distinct, count_iterableOrders distinct', marks_independent]
  refine Document.ext rfl rfl ?_ rfl (sortedRecords_independent distinct distinct') rfl
  exact congrArg (fun orders => if (profile env fields).iterates then some orders else none) orders

end Independent

/-! ## Rounds of exported documents -/

theorem forall₂_build (position : Nat) (steps : List (List (String × Json))) (supply : Supply) :
    List.Forall₂ (fun step b => b.step = step ∧ ∃ place tag, b.node = node step place tag) steps
      (build position steps supply).1 := by
  induction steps generalizing position supply with
  | nil => exact .nil
  | cons step rest ih =>
    rw [build_cons]
    exact .cons ⟨rfl, position, _, rfl⟩ (ih _ _)

/-- A built step that comes from a record of an exported document. -/
def Built.Of (b : Built) (r : StepRecord) : Prop :=
  b.step = r.toFields ∧ ∃ id, b.node = r.node id

theorem forall₂_built (d : Document) (supply : Supply) :
    List.Forall₂ (fun r b => Built.Of b r) d.steps (built d.toFields supply) := by
  have pairs := forall₂_build 1 (objects d.toFields "steps") supply
  rw [d.objects_steps, List.forall₂_map_left_iff] at pairs
  rw [built, d.objects_steps]
  refine pairs.imp fun r b => ?_
  rintro ⟨step, place, tag, here⟩
  exact ⟨step, _, here.trans (r.node_toFields place tag)⟩

/-- What is told of a built step by its record is told of the whole document. -/
theorem map_built_eq {α : Type} {d : Document} {supply : Supply} {f : Built → α} {g : StepRecord → α}
    (same : ∀ r ∈ d.steps, ∀ b ∈ built d.toFields supply, b.Of r → f b = g r) :
    (built d.toFields supply).map f = d.steps.map g := by
  have pairs := forall₂_imp_of_mem (forall₂_built d supply) same
  rw [← List.forall₂_eq_eq_eq, List.forall₂_map_left_iff, List.forall₂_map_right_iff]
  exact pairs.flip

theorem order_of {b : Built} {r : StepRecord} (h : b.Of r) : b.node.order = r.order := by
  obtain ⟨-, id, here⟩ := h
  rw [here]
  rfl

/-- The orders of an exported document are those of its steps. -/
theorem orders_toFields (d : Document) : orders d.toFields = d.orders := by
  have supply : Supply := ⟨fun _ => "", fun _ => ⟨0⟩, 0, 0⟩
  rw [← built_orders _ supply, map_built_eq fun r _ b _ h => order_of h]
  rfl

end Stepflow.Import

namespace Stepflow

open Import

namespace StepRecord

/-- The order of a record, and whether its step follows the start by itself. -/
def mark (r : StepRecord) : Int × Bool :=
  (r.order, r.dependsOn.isNone && r.order == 1)

end StepRecord

namespace Document

/-- The dependencies of a record after a round: its own, or else the order before it. -/
def resolved (d : Document) (r : StepRecord) : Option String :=
  r.dependsOn.or
    (if 1 < r.order ∧ r.order - 1 ∈ d.orders then Dependencies.text? [r.order - 1] else none)

end Document

/-- Steps of distinct orders get distinct ids, whatever tags are drawn. -/
theorem ids_nodup_of_orders {d : Document} (distinct : d.orders.Nodup) (supply : Supply) :
    ((built d.toFields supply).map (·.node.id)).Nodup := by
  refine build_ids_nodup_of_orders ?_
  have orders := orders_toFields d
  rw [Import.orders] at orders
  rwa [orders]

/-- A step declares the orders that its record has written. -/
theorem Import.Built.Of.declared? {b : Built} {r : StepRecord} (h : b.Of r) {ks : List Int}
    (fits : ∀ k ∈ ks, Numeral.fits k = true) (text : r.dependsOn = Dependencies.text? ks) :
    b.declared? = if ks.isEmpty then none else some ks := by
  rw [Built.declared?, h.1, r.get_toFields, ← Dependencies.orders?_text? fits, ← text]
  simp [StepRecord.columns]

section Regular

variable {d : Document} (regular : d.Regular)
  (fits : ∀ k ∈ d.orders, Numeral.fits k = true)

include regular fits

theorem declared?_of {r : StepRecord} (hr : r ∈ d.steps) {b : Built} (h : b.Of r) :
    ∃ ks : List Int, ks.Pairwise (· < ·) ∧ (∀ k ∈ ks, k ∈ d.orders) ∧
      r.dependsOn = Dependencies.text? ks ∧
      b.declared? = if ks.isEmpty then none else some ks := by
  obtain ⟨ks, sorted, inside, text⟩ := regular.declared r hr
  exact ⟨ks, sorted, inside, text, h.declared? (fun k hk => fits k (inside k hk)) text⟩

omit fits in
theorem sortedSteps_built (supply : Supply) :
    (graph d.toFields supply).1.sortedSteps = (built d.toFields supply).map (·.node) := by
  rw [Graph.sortedSteps, graph_steps]
  -- An exported document has its steps in order, so sorting moves none.
  refine sortByOrder_of_pairwise ?_
  rw [List.pairwise_map, ← List.pairwise_map (f := fun b : Built => b.node.order), built_orders,
    orders_toFields]
  exact regular.sorted

theorem mark_of {r : StepRecord} (hr : r ∈ d.steps) {b : Built} (h : b.Of r) :
    b.mark = r.mark := by
  obtain ⟨ks, -, -, text, declared⟩ := declared?_of regular fits hr h
  rw [Built.mark, StepRecord.mark, Built.followsStart, declared, text, order_of h]
  cases ks with
  | nil => rfl
  | cons k rest => rw [Dependencies.text?_of_ne_nil (List.cons_ne_nil k rest)]; rfl

theorem marks_built (supply : Supply) :
    (built d.toFields supply).map Built.mark = d.steps.map StepRecord.mark :=
  map_built_eq fun _ hr _ _ h => mark_of regular fits hr h

variable {supply : Supply} (distinct : ((built d.toFields supply).map (·.node.id)).Nodup)

include distinct

/-- The dependencies of a step in the graph are those that its record resolves to. -/
theorem dependsOn_of {r : StepRecord} (hr : r ∈ d.steps) {b : Built}
    (hb : b ∈ built d.toFields supply) (h : b.Of r) :
    (graph d.toFields supply).1.dependsOn b.node.id = d.resolved r := by
  obtain ⟨ks, sorted, inside, text, declared⟩ := declared?_of regular fits hr h
  have feeders : ∀ k, k ∈ (graph d.toFields supply).1.feederOrders b.node.id ↔
      k ∈ b.sources ∧ k ∈ d.orders := by
    intro k
    rw [mem_feederOrders_built distinct hb, orders_toFields]
  have ascending := (graph d.toFields supply).1.feederOrders_pairwise b.node.id
  rw [Graph.dependsOn, Document.resolved, text]
  cases ks with
  | nil =>
    -- Nothing is declared, so the order before is the one source there may be.
    simp only [Built.sources, declared, List.isEmpty_nil, if_true, order_of h] at feeders
    rw [Dependencies.text?_nil, Option.none_or]
    by_cases before : 1 < r.order ∧ r.order - 1 ∈ d.orders
    · rw [if_pos before, ascending.eq_of_mem_iff (List.pairwise_singleton _ (r.order - 1))]
      intro k
      rw [feeders, if_pos before.1, List.mem_singleton]
      exact ⟨And.left, fun same => ⟨same, same ▸ before.2⟩⟩
    · rw [if_neg before, Dependencies.text?_eq_none_iff, List.eq_nil_iff_forall_not_mem]
      intro k hk
      rw [feeders] at hk
      split at hk
      · next later =>
        rw [List.mem_singleton] at hk
        exact before ⟨later, hk.1 ▸ hk.2⟩
      · cases hk.1
  | cons first rest =>
    have sources : b.sources = first :: rest := by
      rw [Built.sources, declared]
      rfl
    rw [ascending.eq_of_mem_iff sorted, Dependencies.text?_of_ne_nil (List.cons_ne_nil first rest)]
    · rfl
    · intro k
      rw [feeders, sources]
      exact ⟨And.left, fun hk => ⟨hk, inside k hk⟩⟩

/-- After a round, an exported document has the same steps with their dependencies resolved. -/
theorem round_steps (env : Environment) :
    (Import.round env d.toFields supply).steps = d.steps.map fun r => r.round (d.resolved r) := by
  have steps : (Import.round env d.toFields supply).steps =
      (graph d.toFields supply).1.sortedSteps.map (graph d.toFields supply).1.record := rfl
  rw [steps, sortedSteps_built regular, List.map_map]
  refine map_built_eq fun r hr b hb h => ?_
  rw [Function.comp_apply, Graph.record, dependsOn_of regular fits distinct hr hb h]
  obtain ⟨-, id, here⟩ := h
  rw [here, StepRecord.record_node]

end Regular

/-! ## The rest of an exported document -/

section Regular

variable {d : Document} (regular : d.Regular) (env : Environment) (supply : Supply)

theorem round_name :
    (Import.round env d.toFields supply).name = (filled (some d.name)).getD env.importedFlowName :=
  congrArg Profile.name (d.profile_toFields env)

theorem round_iterates : (Import.round env d.toFields supply).iterates = d.iterates :=
  congrArg Profile.iterates (d.profile_toFields env)

theorem round_iterable :
    (Import.round env d.toFields supply).iterable =
      if d.iterates then some (graph d.toFields supply).1.iterableOrders else none := by
  have iterates := congrArg Profile.iterates (d.profile_toFields env)
  show (if (profile env d.toFields).iterates then _ else _) = _
  rw [iterates]
  rfl

include regular

theorem round_query : (Import.round env d.toFields supply).query = d.query := by
  have iterates := congrArg Profile.iterates (d.profile_toFields env)
  have query := congrArg Profile.query (d.profile_toFields env)
  have written := regular.query
  show (if (profile env d.toFields).iterates then some (profile env d.toFields).query else none) = _
  rw [iterates, query]
  cases held : d.query with
  | none => simpa [held] using written
  | some text => simpa [held] using written

theorem round_delivery :
    (Import.round env d.toFields supply).delivery = d.delivery.map (List.map Delivery.received) := by
  have rules := congrArg Profile.delivery (d.profile_toFields env)
  show (if (profile env d.toFields).delivery.isEmpty then none else some (profile env d.toFields).delivery) = _
  rw [rules]
  cases held : d.delivery with
  | none => rfl
  | some rules =>
    cases rules with
    | nil => exact absurd held regular.delivery
    | cons rule rest => rfl

omit env supply in
/-- What an exported document wants to be iterable is what it lists. -/
theorem wanted_toFields : wanted d.toFields = d.iterable.getD [] := by
  have on : (get d.toFields "iterate_flow").truthy = d.iterates := by
    rw [d.get_toFields]
    simp [Document.columns, Json.truthy]
  have written := regular.iterable
  rw [wanted, on, Import.iterable, d.get_toFields]
  cases held : d.iterable with
  | none => simp [Document.columns, held, Json.list?]
  | some orders =>
    rw [held, Option.isSome_some] at written
    simp [← written, Document.columns, held, Json.list?, List.filterMap_map, Function.comp_def]

/-- How often an exported document lists an order as iterable after a round. -/
theorem count_round_iterable (fits : ∀ k ∈ d.orders, Numeral.fits k = true)
    (distinct : ((built d.toFields supply).map (·.node.id)).Nodup) (k : Int) :
    ((Import.round env d.toFields supply).iterable.getD []).count k =
      if d.iterates then listed (d.steps.map StepRecord.mark) (d.iterable.getD []) k else 0 := by
  rw [round_iterable]
  split
  · rw [Option.getD_some, count_iterableOrders distinct, marks_built regular fits,
      wanted_toFields regular]
  · rfl

end Regular

end Stepflow
