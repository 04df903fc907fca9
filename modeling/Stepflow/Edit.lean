import Stepflow.Graph
import Stepflow.Text.Case

/-!
# Edits of a graph

Steps are added, changed and removed, and nodes connected and disconnected. Everything goes
except three things: the identity of a node cannot be edited, a start keeps order zero, and a
start leads to one step only unless the flow iterates. A refused edit has no graph to give
back, so the graph it was tried on is the one that stays.
-/

namespace Stepflow

inductive EditError where
  | identityField (name : String)
  | unknownField (name : String)
  | startOrder
  | faults (list : List Field.Fault)
  | noNode (id : String)
  | secondStartEdge
  | unknownKind (text : String)
deriving DecidableEq, Repr

def EditError.detail : EditError → Field.Detail
  | .identityField name => .text s!"Field '{name}' cannot be edited"
  | .unknownField name => .text s!"Unknown node field '{name}'"
  | .startOrder => .text "The start node always has sequence order 0"
  | .faults list => .faults "StepNode" list
  | .noNode id => .text s!"Node '{id}' not found"
  | .secondStartEdge =>
    .text "Without 'Iterate Flow' enabled, the start node can only connect to one step."
  | .unknownKind text => .text s!"{text} is not a valid StepType"

/-- The kind of the given name, for those who must not invent one. -/
def StepKind.ofJson (name : Json) : Except EditError StepKind :=
  match name.string?.bind StepKind.ofName? with
  | some kind => .ok kind
  | none => .error (.unknownKind name.nested)

inductive NodeField where
  | label
  | order
  | kind
  | content
  | maxRetry
  | iterationColumn
  | timeColumn
  | timeAmount
  | timeGrain
  | timeMode
  | referenceDate
  | llmModel
deriving DecidableEq, Repr

namespace NodeField

def name : NodeField → String
  | .label => "label"
  | .order => "sequence_order"
  | .kind => "step_type"
  | .content => "content"
  | .maxRetry => "max_retry"
  | .iterationColumn => "iteration_column"
  | .timeColumn => "time_column"
  | .timeAmount => "time_amount"
  | .timeGrain => "time_grain"
  | .timeMode => "time_mode"
  | .referenceDate => "reference_date"
  | .llmModel => "llm_model"

def all : List NodeField :=
  [.label, .order, .kind, .content, .maxRetry, .iterationColumn, .timeColumn, .timeAmount,
    .timeGrain, .timeMode, .referenceDate, .llmModel]

/-- The field of the given name; the identity of a node has no such field. -/
def ofName (name : String) : Except EditError NodeField :=
  if name == "node_id" || name == "is_start" then .error (.identityField name)
  else match all.find? (·.name == name) with
    | some field => .ok field
    | none => .error (.unknownField name)

end NodeField

/-- A node with one field set. The value obeys the rules for fields of a model. -/
def Node.set (n : Node) (field : NodeField) (value : Json) : Field.Checked Node :=
  let text? := Field.optional Field.text value
  let integer? := Field.optional Field.integer value
  let changed : Field.Checked Node :=
    match field with
    | .label => (fun label => { n with label }) <$> Field.text value
    | .order => (fun order => { n with order }) <$> Field.integer value
    | .kind => (fun kind => { n with kind }) <$> text?
    | .content => (fun content => { n with content }) <$> Field.text value
    | .maxRetry => (fun maxRetry => { n with maxRetry }) <$> integer?
    | .iterationColumn => (fun iterationColumn => { n with iterationColumn }) <$> text?
    | .timeColumn => (fun timeColumn => { n with timeColumn }) <$> text?
    | .timeAmount => (fun timeAmount => { n with timeAmount }) <$> integer?
    | .timeGrain => (fun timeGrain => { n with timeGrain }) <$> text?
    | .timeMode => (fun timeMode => { n with timeMode }) <$> text?
    | .referenceDate => (fun referenceDate => { n with referenceDate }) <$> text?
    | .llmModel => (fun llmModel => { n with llmModel }) <$> text?
  changed.within (.name field.name)

/-- Puts `n` in the place of the first node with its id. -/
def replaceFirst (n : Node) : List Node → List Node
  | [] => []
  | m :: rest => if m.id == n.id then n :: rest else m :: replaceFirst n rest

namespace Graph

/-- Adds a step behind the highest order. -/
def addStep (g : Graph) (kind : String) (supply : Supply) : Node × Graph × Supply :=
  let (tag, supply) := supply.draw
  let node : Node :=
    { id := "node-" ++ tag
      label := s!"New {Text.upper kind} Step"
      order := g.topOrder + 1
      kind := some kind }
  (node, { g with nodes := g.nodes ++ [node] }, supply)

/-- The graph without the nodes of an id and the edges that touch it. There is none if the
id stands for no node or for a start. -/
def removeStep? (g : Graph) (id : String) : Option Graph :=
  match g.node? id with
  | none => none
  | some n =>
    if n.isStart then none
    else some
      { nodes := g.nodes.filter (·.id != id)
        edges := g.edges.filter fun e => e.source != id && e.target != id }

/-- Sets a field of the node that an id stands for; nothing if it stands for none. The name
of the field is looked at before the id. -/
def setField (g : Graph) (id name : String) (value : Json) :
    Except EditError (Option (Node × Graph)) := do
  let field ← NodeField.ofName name
  match g.node? id with
  | none => return none
  | some n =>
    if n.isStart && field = .order then throw .startOrder
    match n.set field value with
    | .bad faults => throw (.faults faults)
    | .ok node => return some (node, { g with nodes := replaceFirst node g.nodes })

/-- Connects two nodes. An edge that exists already is given back as it is. -/
def connect (g : Graph) (source target : String) (iterates : Bool) (supply : Supply) :
    Except EditError (Edge × Graph × Supply) :=
  match g.node? source, g.node? target with
  | none, _ => .error (.noNode source)
  | some _, none => .error (.noNode target)
  | some n, some _ =>
    if (g.edgeBetween? source target).isNone && n.isStart && !iterates
        && !(g.edgesFrom source).isEmpty then
      .error .secondStartEdge
    else
      .ok (g.link source target supply)

/-- The graph without the edges of an id; none if there is no such edge. -/
def disconnect? (g : Graph) (id : String) : Option Graph :=
  if g.edges.any (·.id == id) then some { g with edges := g.edges.filter (·.id != id) }
  else none

end Graph

end Stepflow
