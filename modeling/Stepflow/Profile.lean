import Stepflow.Environment

/-!
# The profile of a flow

What holds for a flow as a whole: its name, its schedule, whether it runs once for every row
of a query, and who gets its output.
-/

namespace Stepflow

structure Delivery where
  method : String := "email"
  recipients : List String := []
  iterationNames : List String := []
deriving DecidableEq, Repr

namespace Delivery

def ofJson : Json → Field.Checked Delivery :=
  Field.model "DeliveryConfig" fun fields =>
    Delivery.mk <$> Field.defaulted fields "method" "email" Field.text
      <*> Field.defaulted fields "recipients" [] (Field.list Field.text)
      <*> Field.defaulted fields "iteration_names" [] (Field.list Field.text)

def toFields (d : Delivery) : List (String × Json) :=
  [("method", .str d.method), ("recipients", .list (d.recipients.map .str)),
    ("iteration_names", .list (d.iterationNames.map .str))]

def toJson (d : Delivery) : Json :=
  .obj d.toFields

end Delivery

structure Profile where
  name : String
  schedule : String := ""
  iterates : Bool := false
  query : String := ""
  delivery : List Delivery := []
deriving DecidableEq, Repr

namespace Profile

def fieldNames : List String :=
  ["flow_name", "cron_expression", "iterate_flow", "iteration_query", "delivery_config"]

def new (env : Environment) : Profile :=
  { name := env.flowName }

def ofFields (env : Environment) (fields : List (String × Json)) : Field.Checked Profile :=
  Profile.mk <$> Field.defaulted fields "flow_name" env.flowName Field.text
    <*> Field.defaulted fields "cron_expression" "" Field.text
    <*> Field.defaulted fields "iterate_flow" false Field.boolean
    <*> Field.defaulted fields "iteration_query" "" Field.text
    <*> Field.defaulted fields "delivery_config" [] (Field.list Delivery.ofJson)

def ofJson (env : Environment) : Json → Field.Checked Profile :=
  Field.model "FlowSettings" (ofFields env)

/-- The profile of a new flow with a name; the usual one if the name is null or empty. -/
def named (env : Environment) (name : Json) : Field.Checked Profile :=
  if name.truthy then ofFields env [("flow_name", name)] else .ok (new env)

def toFields (p : Profile) : List (String × Json) :=
  [("flow_name", .str p.name), ("cron_expression", .str p.schedule),
    ("iterate_flow", .bool p.iterates), ("iteration_query", .str p.query),
    ("delivery_config", .list (p.delivery.map Delivery.toJson))]

def toJson (p : Profile) : Json :=
  .obj p.toFields

inductive ChangeError where
  | unknown (names : List String)
  | faults (list : List Field.Fault)
deriving DecidableEq, Repr

def ChangeError.detail : ChangeError → Field.Detail
  | .unknown names => .text s!"Unknown settings: {Json.nested (.list (names.map .str))}"
  | .faults list => .faults "FlowSettings" list

/-- The fields `updates` set over the fields of `p`. A name that is no field is refused
before any value is looked at. -/
def change (env : Environment) (p : Profile) (updates : List (String × Json)) :
    Except ChangeError Profile :=
  let unknown := (updates.map (·.1)).filter fun name => !fieldNames.contains name
  if !unknown.isEmpty then .error (.unknown unknown)
  else
    let merged := updates.foldl (fun fields u => Json.setField fields u.1 u.2) p.toFields
    match ofFields env merged with
    | .ok profile => .ok profile
    | .bad faults => .error (.faults faults)

end Profile

end Stepflow
