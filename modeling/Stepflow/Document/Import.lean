import Stepflow.Dependencies
import Stepflow.Document
import Stepflow.Graph
import Stepflow.Json.Reader
import Stepflow.TimeRange

/-!
# Importing a flow

A document that comes from outside may lack fields or hold anything in them. Every JSON
object is accepted; what cannot be used falls back to a default or is left out.

`Import.build` makes one step for each object in the list of steps. `Import.wires` is the
list of edges that the document asks for, as pairs of node ids; linking them one by one, and
no pair twice, gives the graph. An order stands for the last step that carries it. The ids and
labels of steps spell out their orders, so `Import.imported` fails where one cannot be written.
-/

namespace Stepflow.Import

/-! ## Payloads -/

inductive Payload where
  | text (content : String)
  | bytes (content : List UInt8)

/-- The size of a payload: code points of a text, bytes otherwise. -/
def Payload.size : Payload → Nat
  | .text content => (Text.codePoints content.toList).length
  | .bytes content => content.length

/-- The largest payload that is taken: its size, and how many lists and objects may stand
inside each other in it. -/
structure Bounds where
  size : Int
  depth : Nat
deriving DecidableEq, Repr

inductive Refusal where
  | tooLarge (limit : Int)
  | unreadable (error : Json.ReadError)
  | tooDeep (container : Json.Container)
  | notObject (typeName : String)
deriving DecidableEq, Repr

def Refusal.message : Refusal → String
  | .tooLarge limit => s!"Import payload exceeds {Numeral.write limit} bytes"
  | .unreadable error => s!"Invalid JSON file: {error.message}"
  | .tooDeep container => Json.ReadError.message (.tooDeep container)
  | .notObject typeName => s!"Flow export must be a JSON object, got {typeName}"

/-- The fields of a document. -/
def object (document : Json) : Except Refusal (List (String × Json)) :=
  match document with
  | .obj fields => .ok fields
  | other => .error (.notObject other.typeName)

/-- The fields of the document in a payload within the bounds. -/
def Payload.read (payload : Payload) (bounds : Bounds) : Except Refusal (List (String × Json)) :=
  if bounds.size < payload.size then .error (.tooLarge bounds.size)
  else
    let value := match payload with
      | .text content => Json.read content bounds.depth
      | .bytes content => Json.readBytes content bounds.depth
    match value with
    | .ok document => object document
    | .error (.tooDeep container) => .error (.tooDeep container)
    | .error error => .error (.unreadable error)

/-! ## Steps -/

def get (fields : List (String × Json)) (name : String) : Json :=
  (Json.fieldOf? fields name).getD .null

/-- The text of a field; nothing if the field holds anything else. -/
def text? (fields : List (String × Json)) (name : String) : Option String :=
  (get fields name).string?

/-- The text of a field, or `default` if there is none or it is empty. -/
def textOr (fields : List (String × Json)) (name default : String) : String :=
  (filled (text? fields name)).getD default

def objects (fields : List (String × Json)) (name : String) : List (List (String × Json)) :=
  ((get fields name).list?.getD []).filterMap fun item =>
    match item with
    | .obj fields => some fields
    | _ => none

def texts (fields : List (String × Json)) (name : String) : List String :=
  ((get fields name).list?.getD []).filterMap Json.string?

/-- The amount and the grain of a step. A time range, if there is one, gives both; otherwise
there is only the grain field. -/
def window (step : List (String × Json)) : Option Int × Option String :=
  match get step "time_range" with
  | .str range => if range.isEmpty then (none, text? step "time_grain") else TimeRange.read range
  | other => if other.truthy then (none, none) else (none, text? step "time_grain")

/-- The order of the step at a position counted from one. -/
def orderOf (step : List (String × Json)) (position : Nat) : Int :=
  (get step "sequence_order").integer?.getD position

def ordersFrom (position : Nat) : List (List (String × Json)) → List Int
  | [] => []
  | step :: rest => orderOf step position :: ordersFrom (position + 1) rest

def orders (fields : List (String × Json)) : List Int :=
  ordersFrom 1 (objects fields "steps")

/-- The node of the step at a position, with a tag for its id. -/
def node (step : List (String × Json)) (position : Nat) (tag : String) : Node :=
  let order := orderOf step position
  { id := "node-" ++ Numeral.write order ++ "-" ++ tag
    label := textOr step "sequence_name" ("Step " ++ Numeral.write order)
    order := order
    kind := text? step "type"
    content := (text? step "value").getD ""
    maxRetry := (get step "max_retry").integer?
    iterationColumn := text? step "append_iteration_column"
    timeColumn := text? step "append_time_column"
    timeAmount := (window step).1
    timeGrain := (window step).2
    timeMode := text? step "time_mode"
    referenceDate := text? step "reference_date"
    llmModel := text? step "llm_model" }

/-- A step of a document with the node built for it. -/
structure Built where
  step : List (String × Json)
  node : Node

/-- The nodes of the steps from a position on, each with a tag of its own. -/
def build (position : Nat) (steps : List (List (String × Json))) (supply : Supply) :
    List Built × Supply :=
  match steps with
  | [] => ([], supply)
  | step :: rest =>
    let (tag, supply) := supply.draw
    let (others, supply) := build (position + 1) rest supply
    (⟨step, node step position tag⟩ :: others, supply)

/-! ## Wiring -/

/-- The id of the last node of an order. -/
def idOf? (nodes : List Node) (order : Int) : Option String :=
  (nodes.reverse.find? (·.order == order)).map (·.id)

/-- The edges from the start to the steps that run once for every iteration value. -/
def iterationWires (fields : List (String × Json)) (nodes : List Node) :
    List (String × String) :=
  if (get fields "iterate_flow").truthy then
    (((get fields "iterable_steps").list?.getD []).filterMap fun value =>
      value.integer?.bind (idOf? nodes)).map fun id => (Node.start.id, id)
  else []

/-- The edges into one step: those it declares, or else a line in which the first order
follows the start and every later one the order before it. -/
def stepWires (nodes : List Node) (built : Built) : List (String × String) :=
  let order := built.node.order
  let sources :=
    match Dependencies.orders? (get built.step "depends_on") with
    | some orders => orders.filterMap (idOf? nodes)
    | none =>
      if order == 1 then [Node.start.id]
      else if 1 < order then (idOf? nodes (order - 1)).toList
      else []
  sources.map fun source => (source, built.node.id)

/-- All edges that a document asks for, in order. -/
def wires (fields : List (String × Json)) (built : List Built) : List (String × String) :=
  let nodes := built.map (·.node)
  iterationWires fields nodes ++ built.flatMap (stepWires nodes)

/-- Links the pairs of ids one after the other. -/
def linkAll (g : Graph) (supply : Supply) : List (String × String) → Graph × Supply
  | [] => (g, supply)
  | (source, target) :: rest =>
    let (_, g, supply) := g.link source target supply
    linkAll g supply rest

/-! ## Documents -/

def delivery (rule : List (String × Json)) : Delivery :=
  { method := textOr rule "method" "email"
    recipients := texts rule "recipients"
    iterationNames := texts rule "iteration_names" }

/-- The profile of a document. A document has no schedule. -/
def profile (env : Environment) (fields : List (String × Json)) : Profile :=
  { name := textOr fields "flow_name" env.importedFlowName
    iterates := (get fields "iterate_flow").truthy
    query := (text? fields "get_iterate_list").getD ""
    delivery := (objects fields "delivery_config").map delivery }

def graph (fields : List (String × Json)) (supply : Supply) : Graph × Supply :=
  let (built, supply) := build 1 (objects fields "steps") supply
  linkAll ⟨Node.start :: built.map (·.node), []⟩ supply (wires fields built)

def document (env : Environment) (fields : List (String × Json)) (supply : Supply) :
    (Graph × Profile) × Supply :=
  let (graph, supply) := graph fields supply
  ((graph, profile env fields), supply)

/-- The graph and the profile of a document, unless a step has an order that cannot be written. The
first such step ends the import, and only those in front of it have drawn a tag. -/
def imported (env : Environment) (fields : List (String × Json)) (supply : Supply) :
    Except Numeral.Overlong (Graph × Profile) × Supply :=
  if (orders fields).all Numeral.fits then
    let (made, supply) := document env fields supply
    (.ok made, supply)
  else
    let before := ((orders fields).takeWhile Numeral.fits).length
    (.error .written, { supply with drawn := supply.drawn + before })

end Stepflow.Import
