import Stepflow.Field

/-!
# Nodes of a flow graph

A node is a step of a flow or its start. The start carries order zero and no content of
its own. The kind of a step and its time vocabulary are plain texts, since edits and imports
keep what they are given.
-/

namespace Stepflow

/-- A text that is set and not empty. -/
def filled (s : Option String) : Option String :=
  s.filter (!·.isEmpty)

/-- An integer that is set and not zero. -/
def nonzero (n : Option Int) : Option Int :=
  n.filter (· != 0)

inductive StepKind where
  | sql
  | llm
  | concat
deriving DecidableEq, Repr

namespace StepKind

def name : StepKind → String
  | .sql => "sql"
  | .llm => "llm"
  | .concat => "concat"

def label : StepKind → String
  | .sql => "SQL Query"
  | .llm => "LLM Analysis"
  | .concat => "Concatenation / Formatting"

def all : List StepKind := [.sql, .llm, .concat]

def ofName? (name : String) : Option StepKind :=
  all.find? (·.name == name)

end StepKind

structure Node where
  id : String
  label : String := ""
  order : Int := 0
  kind : Option String := none
  content : String := ""
  maxRetry : Option Int := none
  iterationColumn : Option String := none
  timeColumn : Option String := none
  timeAmount : Option Int := none
  timeGrain : Option String := none
  timeMode : Option String := none
  referenceDate : Option String := none
  llmModel : Option String := none
  isStart : Bool := false
deriving DecidableEq, Repr

namespace Node

/-- The node that a flow starts from. -/
def start : Node :=
  { id := "start", label := "Start / Configuration", isStart := true }

def isKind (n : Node) (kind : StepKind) : Bool :=
  n.kind == some kind.name

/-- The kind under which a step is exported; a step without one counts as SQL. -/
def exportedKind (n : Node) : String :=
  (filled n.kind).getD StepKind.sql.name

def ofFields (fields : List (String × Json)) : Field.Checked Node :=
  let text? := Field.optional Field.text
  let integer? := Field.optional Field.integer
  Node.mk <$> Field.required fields "node_id" Field.text
    <*> Field.defaulted fields "label" "" Field.text
    <*> Field.defaulted fields "sequence_order" 0 Field.integer
    <*> Field.defaulted fields "step_type" none text?
    <*> Field.defaulted fields "content" "" Field.text
    <*> Field.defaulted fields "max_retry" none integer?
    <*> Field.defaulted fields "iteration_column" none text?
    <*> Field.defaulted fields "time_column" none text?
    <*> Field.defaulted fields "time_amount" none integer?
    <*> Field.defaulted fields "time_grain" none text?
    <*> Field.defaulted fields "time_mode" none text?
    <*> Field.defaulted fields "reference_date" none text?
    <*> Field.defaulted fields "llm_model" none text?
    <*> Field.defaulted fields "is_start" false Field.boolean

def ofJson (value : Json) : Field.Checked Node :=
  Field.model "StepNode" ofFields value

/-- All fields of a node, null where one is unset. -/
def toJson (n : Node) : Json :=
  .obj [("node_id", .str n.id), ("label", .str n.label), ("sequence_order", .int n.order),
    ("step_type", .ofString? n.kind), ("content", .str n.content),
    ("max_retry", .ofInt? n.maxRetry), ("iteration_column", .ofString? n.iterationColumn),
    ("time_column", .ofString? n.timeColumn), ("time_amount", .ofInt? n.timeAmount),
    ("time_grain", .ofString? n.timeGrain), ("time_mode", .ofString? n.timeMode),
    ("reference_date", .ofString? n.referenceDate), ("llm_model", .ofString? n.llmModel),
    ("is_start", .bool n.isStart)]

end Node

end Stepflow
