import Stepflow.Document.Export
import Stepflow.Document.Import
import Stepflow.Edit
import Stepflow.Finding

/-!
# Drafts

A draft is a flow that is being edited: its graph, its profile, and when it was created and
last changed. Everything that changes a draft is an `Action`, and `perform` is the one place
where actions happen. An action that fails leaves the draft and the supply as they were, but
for one: a step whose order cannot be written is added, and then the action fails.

Edits of the graph do not touch the time of the last change. Whoever offers them as a service
follows a successful edit by the action `touch`.
-/

namespace Stepflow

structure Draft where
  id : String
  graph : Graph
  profile : Profile
  imports : Nat := 0
  created : Moment
  updated : Moment
deriving DecidableEq, Repr

/-- What can be done to a draft. -/
inductive Action where
  | addStep (kind : String)
  | removeStep (id : String)
  | setField (id name : String) (value : Json)
  /-- Connects two nodes; without a flag of its own, as the profile says. -/
  | connect (source target : String) (iterates : Option Bool)
  | disconnect (id : String)
  | replaceGraph (graph : Graph)
  | changeProfile (updates : List (String × Json))
  | importDocument (document : Json)
  | importPayload (payload : Import.Payload) (bounds : Import.Bounds)
  | touch

/-- Actions that are edits of the graph; the others set the time of the last change
themselves. -/
def Action.isEdit : Action → Bool
  | .changeProfile _ | .importDocument _ | .importPayload _ _ | .touch => false
  | _ => true

inductive Reply where
  | added (step : Node)
  | flag (done : Bool)
  | node (found : Option Node)
  | edge (made : Edge)
  | profile (changed : Profile)
  | none
deriving DecidableEq, Repr

inductive Failure where
  | edit (cause : EditError)
  | profile (cause : Profile.ChangeError)
  | refused (cause : Import.Refusal)
  | overlong (numeral : Numeral.Overlong)
deriving DecidableEq, Repr

namespace Draft

/-- A new draft. It gets the id that is given, or a fresh one if that is missing or empty. -/
def new (id : Option String) (graph : Graph) (profile : Profile) (supply : Supply) :
    Draft × Supply :=
  let (id, supply) :=
    match filled id with
    | some id => (id, supply)
    | none =>
      let (tag, supply) := supply.draw
      ("FL-" ++ Text.upper tag, supply)
  let (now, supply) := supply.now
  ({ id, graph, profile, created := now, updated := now }, supply)

/-- The draft as changed now. -/
def touch (d : Draft) (supply : Supply) : Draft × Supply :=
  let (now, supply) := supply.now
  ({ d with updated := now }, supply)

def findings (d : Draft) : Except Numeral.Overlong (List Finding) :=
  d.graph.findings d.profile

def document (d : Draft) : Document :=
  d.graph.document d.profile

/-- The document of a draft, if it can be written. -/
def exported (d : Draft) : Except Numeral.Overlong Document :=
  d.graph.exported d.profile

/-- Replaces graph and profile by imported ones. -/
def adopt (d : Draft) (made : Graph × Profile) (supply : Supply) : Draft × Supply :=
  touch { d with graph := made.1, profile := made.2, imports := d.imports + 1 } supply

/-- What an import makes of a draft, if nothing stands in its way. -/
def importFields (env : Environment) (d : Draft) (fields : List (String × Json))
    (supply : Supply) : Draft × Supply :=
  let (made, supply) := Import.document env fields supply
  d.adopt made supply

/-- The outcome of an action: its reply or why it failed, the draft, and the supply. -/
abbrev Outcome := Except Failure Reply × Draft × Supply

def importOutcome (env : Environment) (d : Draft) (supply : Supply)
    (fields : Except Import.Refusal (List (String × Json))) : Outcome :=
  match fields with
  | .error refusal => (.error (.refused refusal), d, supply)
  | .ok fields =>
    match Import.imported env fields supply with
    | (.error numeral, supply) => (.error (.overlong numeral), d, supply)
    | (.ok made, supply) =>
      let (d, supply) := d.adopt made supply
      (.ok .none, d, supply)

def perform (env : Environment) (action : Action) (d : Draft) (supply : Supply) : Outcome :=
  match action with
  | .addStep kind =>
    let (node, graph, supply) := d.graph.addStep kind supply
    let reply := if Numeral.fits node.order then .ok (.added node) else .error (.overlong .written)
    (reply, { d with graph }, supply)
  | .removeStep id =>
    match d.graph.removeStep? id with
    | some graph => (.ok (.flag true), { d with graph }, supply)
    | none => (.ok (.flag false), d, supply)
  | .setField id name value =>
    match d.graph.setField id name value with
    | .error error => (.error (.edit error), d, supply)
    | .ok none => (.ok (.node none), d, supply)
    | .ok (some (node, graph)) => (.ok (.node (some node)), { d with graph }, supply)
  | .connect source target iterates =>
    match d.graph.connect source target (iterates.getD d.profile.iterates) supply with
    | .error error => (.error (.edit error), d, supply)
    | .ok (edge, graph, supply) => (.ok (.edge edge), { d with graph }, supply)
  | .disconnect id =>
    match d.graph.disconnect? id with
    | some graph => (.ok (.flag true), { d with graph }, supply)
    | none => (.ok (.flag false), d, supply)
  | .replaceGraph graph => (.ok .none, { d with graph }, supply)
  | .changeProfile updates =>
    match d.profile.change env updates with
    | .error error => (.error (.profile error), d, supply)
    | .ok profile =>
      let (d, supply) := touch { d with profile } supply
      (.ok (.profile profile), d, supply)
  | .importDocument document => importOutcome env d supply (Import.object document)
  | .importPayload payload bounds => importOutcome env d supply (payload.read bounds)
  | .touch =>
    let (d, supply) := d.touch supply
    (.ok .none, d, supply)

/-- The line that stands for a draft in a list of drafts. -/
def summaryFields (d : Draft) : List (String × Json) :=
  [("flow_id", .str d.id), ("flow_name", .str d.profile.name),
    ("iterate_flow", .bool d.profile.iterates), ("step_count", .int d.graph.steps.length),
    ("edge_count", .int d.graph.edges.length), ("created_at", .str d.created.text),
    ("updated_at", .str d.updated.text)]

def summary (d : Draft) : Json :=
  .obj d.summaryFields

end Draft

end Stepflow
