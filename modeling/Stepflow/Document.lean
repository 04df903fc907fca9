import Stepflow.Profile

/-!
# Flow documents

The form in which a flow leaves the editor: its steps in the order of execution, each with
the orders it depends on and the options of its kind. What is unset is left out of the wire
form.
-/

namespace Stepflow

structure StepRecord where
  order : Int
  name : String
  kind : String
  content : String
  dependsOn : Option String := none
  maxRetry : Option Int := none
  iterationColumn : Option String := none
  timeColumn : Option String := none
  timeRange : Option String := none
  timeGrain : Option String := none
  timeMode : Option String := none
  referenceDate : Option String := none
  llmModel : Option String := none
deriving DecidableEq, Repr

structure Document where
  name : String
  iterates : Bool
  iterable : Option (List Int) := none
  query : Option String := none
  steps : List StepRecord := []
  delivery : Option (List Delivery) := none
deriving DecidableEq, Repr

/-- The fields of an object: one for each name that has a value. -/
def wire (columns : List (String × Option Json)) : List (String × Json) :=
  columns.filterMap fun column => column.2.map (column.1, ·)

namespace StepRecord

/-- The fields that a step can have on the wire, with their values. -/
def columns (r : StepRecord) : List (String × Option Json) :=
  [("sequence_order", some (.int r.order)),
    ("sequence_name", some (.str r.name)),
    ("type", some (.str r.kind)),
    ("value", some (.str r.content)),
    ("depends_on", r.dependsOn.map .str),
    ("max_retry", r.maxRetry.map .int),
    ("append_iteration_column", r.iterationColumn.map .str),
    ("append_time_column", r.timeColumn.map .str),
    ("time_range", r.timeRange.map .str),
    ("time_grain", r.timeGrain.map .str),
    ("time_mode", r.timeMode.map .str),
    ("reference_date", r.referenceDate.map .str),
    ("llm_model", r.llmModel.map .str)]

/-- The fields of a step on the wire, which leave unset options out. -/
def toFields (r : StepRecord) : List (String × Json) :=
  wire r.columns

def toJson (r : StepRecord) : Json :=
  .obj r.toFields

end StepRecord

namespace Document

/-- The fields that a document can have on the wire, with their values. -/
def columns (d : Document) : List (String × Option Json) :=
  [("flow_name", some (.str d.name)),
    ("iterate_flow", some (.bool d.iterates)),
    ("iterable_steps", d.iterable.map fun orders => .list (orders.map .int)),
    ("get_iterate_list", d.query.map .str),
    ("steps", some (.list (d.steps.map StepRecord.toJson))),
    ("delivery_config", d.delivery.map fun rules => .list (rules.map Delivery.toJson))]

/-- The fields of a document on the wire, which leave unset ones out. -/
def toFields (d : Document) : List (String × Json) :=
  wire d.columns

def toJson (d : Document) : Json :=
  .obj d.toFields

end Document

end Stepflow
