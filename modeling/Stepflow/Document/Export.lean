import Stepflow.Dependencies
import Stepflow.Document
import Stepflow.Graph
import Stepflow.TimeRange

/-!
# Exporting a flow

`Graph.document` turns a graph and a profile into a document. Whatever is wrong with a flow, it has
one: a record for each step, in the stable ascending order of the steps, and a record depends on
the distinct orders of the steps that feed its step. Only numerals beyond the limit stand in the
way of writing it; `Graph.exported` looks for them.
-/

namespace Stepflow

/-- Puts a node in front of the first one of greater or equal order. -/
def insertByOrder (n : Node) : List Node → List Node
  | [] => [n]
  | m :: rest => if n.order ≤ m.order then n :: m :: rest else m :: insertByOrder n rest

/-- The nodes in ascending order; nodes of one order keep their places. -/
def sortByOrder (nodes : List Node) : List Node :=
  nodes.foldr insertByOrder []

theorem insertByOrder_perm (n : Node) (nodes : List Node) :
    (insertByOrder n nodes).Perm (n :: nodes) := by
  induction nodes with
  | nil => exact .refl _
  | cons m rest ih =>
    rw [insertByOrder]
    split
    · exact .refl _
    · exact (ih.cons m).trans (.swap n m rest)

/-- Sorting loses no node and adds none. -/
theorem sortByOrder_perm (nodes : List Node) : (sortByOrder nodes).Perm nodes := by
  induction nodes with
  | nil => exact .refl _
  | cons n rest ih => exact (insertByOrder_perm n _).trans (ih.cons n)

theorem insertByOrder_pairwise {n : Node} {nodes : List Node}
    (h : nodes.Pairwise (·.order ≤ ·.order)) :
    (insertByOrder n nodes).Pairwise (·.order ≤ ·.order) := by
  induction nodes with
  | nil => exact List.pairwise_singleton _ _
  | cons m rest ih =>
    rw [List.pairwise_cons] at h
    rw [insertByOrder]
    split
    · next le =>
      refine List.pairwise_cons.2 ⟨fun k hk => ?_, List.pairwise_cons.2 h⟩
      cases List.mem_cons.1 hk with
      | inl same => exact same ▸ le
      | inr later => exact Int.le_trans le (h.1 k later)
    · next notLe =>
      refine List.pairwise_cons.2 ⟨fun k hk => ?_, ih h.2⟩
      cases List.mem_cons.1 ((insertByOrder_perm n rest).mem_iff.1 hk) with
      | inl same => exact same ▸ Int.le_of_lt (Int.not_le.1 notLe)
      | inr later => exact h.1 k later

/-- Sorting puts the nodes into ascending order. -/
theorem sortByOrder_pairwise (nodes : List Node) :
    (sortByOrder nodes).Pairwise (·.order ≤ ·.order) := by
  induction nodes with
  | nil => exact List.Pairwise.nil
  | cons n rest ih => exact insertByOrder_pairwise ih

namespace Node

/-- The time range that an amount and a grain make; both must be there. -/
def timeRange (n : Node) : Option String :=
  match nonzero n.timeAmount, filled n.timeGrain with
  | some amount, some grain => some (TimeRange.write amount grain)
  | _, _ => none

/-- The amount that the record of a step spells out in a time range, if it has one. -/
def rangeAmount? (n : Node) : Option Int :=
  if n.isKind .sql && (filled n.timeColumn).isSome && (filled n.timeGrain).isSome then
    nonzero n.timeAmount
  else none

/-- The SQL options of a step. All of its time window hangs on the time column. -/
def withSqlOptions (n : Node) (r : StepRecord) : StepRecord :=
  let windowed := (filled n.timeColumn).isSome
  { r with
    iterationColumn := filled n.iterationColumn
    timeColumn := filled n.timeColumn
    timeRange := if windowed then n.timeRange else none
    timeGrain := if windowed then filled n.timeGrain else none
    timeMode := if windowed then filled n.timeMode else none
    referenceDate := filled n.referenceDate }

/-- The options that the stored kind of a step has. A step without a kind is exported as
SQL but has no options. -/
def withOptions (n : Node) (r : StepRecord) : StepRecord :=
  if n.isKind .sql then n.withSqlOptions r
  else if n.isKind .llm then { r with llmModel := filled n.llmModel }
  else r

/-- The record of a step with the given dependencies. -/
def record (n : Node) (dependsOn : Option String) : StepRecord :=
  n.withOptions
    { order := n.order
      name := n.label
      kind := n.exportedKind
      content := n.content
      dependsOn
      maxRetry := nonzero n.maxRetry }

end Node

namespace Graph

/-- The distinct orders of the steps that feed a node, ascending. -/
def feederOrders (g : Graph) (id : String) : List Int :=
  Dependencies.ascending ((g.feeders id).map (·.order))

/-- The text of the dependencies of a node, if there are any. -/
def dependsOn (g : Graph) (id : String) : Option String :=
  Dependencies.text? (g.feederOrders id)

/-- The record of a step. -/
def record (g : Graph) (n : Node) : StepRecord :=
  n.record (g.dependsOn n.id)

/-- The steps in the order of execution. -/
def sortedSteps (g : Graph) : List Node :=
  sortByOrder g.steps

/-- The orders of the steps that an edge from a start enters, in the order of execution. -/
def iterableOrders (g : Graph) : List Int :=
  let leaving := g.edgesFromStart
  (g.sortedSteps.filter fun n => leaving.any (·.target == n.id)).map (·.order)

def document (g : Graph) (p : Profile) : Document :=
  { name := p.name
    iterates := p.iterates
    iterable := if p.iterates then some g.iterableOrders else none
    query := if p.iterates then some p.query else none
    steps := g.sortedSteps.map g.record
    delivery := if p.delivery.isEmpty then none else some p.delivery }

/-- The integers that stand as numerals in the texts of a record. -/
def numerals (g : Graph) (n : Node) : List Int :=
  g.feederOrders n.id ++ n.rangeAmount?.toList

/-- The document of a graph, unless one of its texts needs a numeral that cannot be written. -/
def exported (g : Graph) (p : Profile) : Except Numeral.Overlong Document :=
  if g.steps.all fun n => (g.numerals n).all Numeral.fits then .ok (g.document p)
  else .error .written

end Graph

end Stepflow
