import Stepflow.Canvas
import Stepflow.Http.Message
import Stepflow.Http.Route
import Stepflow.Workspace

/-!
# The service

The service answers requests about the drafts of a workspace. `handle` takes a request to a
response and the workspace after it. The service takes nothing back: a draft is put back as the
action left it, whether that succeeded or not, so what a refused request leaves behind is a matter
of the actions. Every successful change of a draft also sets the moment of its last change. A
change stands even where the answer to it is not writable, which is an internal error.
-/

namespace Stepflow.Http

structure Service where
  env : Environment
  /-- The largest import that is taken. -/
  importLimit : Int
  /-- Whether the service also answers for itself, apart from its flows. -/
  system : Bool
  /-- How many lists and objects may stand inside each other in a body that is read field by
  field. Nobody sets this limit: it is what is left of the stack where the reader starts. -/
  bodyDepth : Nat
  /-- The same limit for an uploaded document, which is read elsewhere. -/
  uploadDepth : Nat

/-- What an endpoint leaves behind. -/
abbrev Result := Response × Workspace × Supply

namespace Service

def version : String := "1.0.0"

def uploadBounds (s : Service) : Import.Bounds :=
  ⟨s.importLimit, s.uploadDepth⟩

def routes (s : Service) : List Route :=
  if s.system then systemRoutes ++ flowRoutes else flowRoutes

/-! ## Bodies -/

def createBody (fields : List (String × Json)) : Field.Checked (Option String) :=
  Field.defaulted fields "flow_name" none (Field.optional Field.text)

def dictionary : Json → Field.Checked Json
  | .obj fields => .ok (.obj fields)
  | _ => Field.reject .dictionary

/-- The changes of a profile that a body asks for; a null asks for none. -/
def settingsBody (fields : List (String × Json)) : Field.Checked (List (String × Json)) :=
  let part (name : String) (read : Json → Field.Checked Json) :
      Field.Checked (List (String × Json)) :=
    Field.defaulted fields name [] fun value =>
      (fun found => (found.map (name, ·)).toList) <$> Field.optional read value
  let text (value : Json) : Field.Checked Json := Json.str <$> Field.text value
  let flag (value : Json) : Field.Checked Json := Json.bool <$> Field.boolean value
  let rules (value : Json) : Field.Checked Json := Json.list <$> Field.list dictionary value
  (fun a b c d e => a ++ b ++ c ++ d ++ e) <$> part "flow_name" text
    <*> part "cron_expression" text <*> part "iterate_flow" flag
    <*> part "iteration_query" text <*> part "delivery_config" rules

/-- The kind of a new step; SQL if the body names none. -/
def kindBody (fields : List (String × Json)) : Field.Checked StepKind :=
  Field.defaulted fields "kind" .sql fun value =>
    match value.string?.bind StepKind.ofName? with
    | some kind => .ok kind
    | none => Field.reject .kind

/-- The name of a node's field and its new value, null if the body has none. -/
def fieldBody (fields : List (String × Json)) : Field.Checked (String × Json) :=
  Prod.mk <$> Field.required fields "field" Field.text <*> Field.defaulted fields "value" .null .ok

def edgeBody (fields : List (String × Json)) : Field.Checked (String × String) :=
  Prod.mk <$> Field.required fields "source" Field.text
    <*> Field.required fields "target" Field.text

/-! ## Refusals -/

def flowNotFound (id : String) : Response :=
  .refusal 404 s!"Flow '{id}' not found"

def failureResponse : Failure → Response
  | .edit (.noNode id) => .detailed 404 (EditError.detail (.noNode id))
  | .edit .secondStartEdge => .detailed 409 (EditError.detail .secondStartEdge)
  | .edit cause => .detailed 400 cause.detail
  | .profile cause => .detailed 400 cause.detail
  | .refused (.tooDeep _) => .internalError
  | .refused cause => .refusal 400 s!"Invalid flow file: {cause.message}"
  | .overlong _ => .internalError

/-! ## Endpoints -/

/-- A response that is about a draft and changes nothing. -/
def view (w : Workspace) (supply : Supply) (id : String) (answer : Draft → Response) : Result :=
  match w.find? id with
  | some draft => (answer draft, w, supply)
  | none => (flowNotFound id, w, supply)

/-- Performs an action on a draft, which is put back as the action left it. What `answer` makes of
the reply and the draft is the response. An edit whose answer is no refusal is a change now. -/
def act (s : Service) (w : Workspace) (supply : Supply) (id : String) (action : Action)
    (answer : Reply → Draft → Except Response Json) : Result :=
  match w.find? id with
  | none => (flowNotFound id, w, supply)
  | some draft =>
    match draft.perform s.env action supply with
    | (.error failure, draft, supply) => (failureResponse failure, w.put draft, supply)
    | (.ok reply, draft, supply) =>
      let (touched, later) := if action.isEdit then draft.touch supply else (draft, supply)
      match answer reply touched with
      | .ok value => (.ok value, w.put touched, later)
      | .error response => (response, w.put draft, supply)

def replyJson : Reply → Json
  | .added step => step.toJson
  | .flag done => .bool done
  | .node found => (found.map Node.toJson).getD .null
  | .edge made => made.toJson
  | .profile changed => changed.toJson
  | .none => .null

def answerReply (reply : Reply) (_ : Draft) : Except Response Json :=
  .ok (replyJson reply)

/-- The answer `value`, or a refusal if the reply says that nothing was found. -/
def answerFound (missing : Response) (value : Json) : Reply → Draft → Except Response Json
  | .flag false, _ => .error missing
  | _, _ => .ok value

def statusJson (status : String) (more : List (String × Json)) : Json :=
  .obj (("status", .str status) :: more)

/-- What is wrong with the declared length of an import: beyond the limit, or made of digits
that no numeral has. Anything else than digits is not looked at. -/
def lengthRefusal? (limit : Int) (declared : String) : Option Response :=
  let isDigit (c : Char) := Text.isAsciiDigit c || c == '¹' || c == '²' || c == '³'
  if declared.isEmpty || !declared.toList.all isDigit then none
  else
    match Numeral.read? declared with
    | none => some .internalError
    | some n => if limit < n then some (failureResponse (.refused (.tooLarge limit))) else none

/-- Answers a query, which leaves the workspace alone. -/
def read (s : Service) (w : Workspace) (supply : Supply) : Query → Result
  | .health =>
    (.ok (statusJson "ok" [("version", .str version), ("flows", .int w.drafts.length)]),
      w, supply)
  | .info =>
    (.ok (.obj [("platform", .str "Flow Builder"), ("version", .str version),
      ("environment", .str s.env.name), ("default_llm_model", .str s.env.llmModel)]), w, supply)
  | .list =>
    (.ok (.obj [("count", .int w.drafts.length),
      ("flows", .list (w.recent.map Draft.summary))]), w, supply)
  | .stats => (.ok w.stats, w, supply)
  | .search query =>
    let found := w.search query
    (.ok (.obj [("count", .int found.length),
      ("results", .list (found.map fun d =>
        .obj [("flow_id", .str d.id), ("flow_name", .str d.profile.name)]))]), w, supply)
  | .catalog =>
    (.ok (.obj [("step_types", .list (StepKind.all.map fun kind =>
        .obj [("value", .str kind.name), ("label", .str kind.label)])),
      ("placeholders", Canvas.placeholderCatalog)]), w, supply)
  | .show id =>
    view w supply id fun d =>
      .ok (.obj [("flow_id", .str d.id), ("settings", d.profile.toJson),
        ("graph", d.graph.toJson)])
  | .validate id =>
    view w supply id fun d =>
      match d.findings with
      | .error _ => .internalError
      | .ok findings =>
        .ok (.obj [("valid", .bool findings.isEmpty),
          ("diagnostics", .list (findings.map Finding.toJson))])
  | .document id =>
    view w supply id fun d =>
      match d.exported with
      | .error _ => .internalError
      | .ok document => .ok document.toJson
  | .layout id =>
    view w supply id fun d =>
      match Canvas.nodeViews d.graph with
      | .bad _ => .internalError
      | .ok nodes =>
        .ok (.obj [("nodes", .list (nodes.map Canvas.NodeView.toJson)),
          ("edges", .list ((Canvas.edgeViews d.graph d.profile).map Canvas.EdgeView.toJson))])
  | .hints id node =>
    view w supply id fun d =>
      match Canvas.hints? s.env d.graph d.profile node with
      | some hints => .ok hints.toJson
      | none => failureResponse (.edit (.noNode node))

/-- Carries a command out; its body is read before the draft is looked for. -/
def write (s : Service) (request : Request) (w : Workspace) (supply : Supply) :
    Command → Result
  | .create =>
    match readBody s.bodyDepth request createBody with
    | .error response => (response, w, supply)
    | .ok name =>
      let (draft, w, supply) :=
        w.create { Profile.new s.env with name := (filled name).getD s.env.flowName } supply
      (.ok (statusJson "created" [("flow_id", .str draft.id),
        ("flow_name", .str draft.profile.name)]), w, supply)
  | .delete id =>
    match w.delete? id with
    | some w => (.ok (statusJson "deleted" []), w, supply)
    | none => (flowNotFound id, w, supply)
  | .settings id =>
    match readBody s.bodyDepth request settingsBody with
    | .error response => (response, w, supply)
    | .ok updates =>
      s.act w supply id (.changeProfile updates) fun reply _ =>
        .ok (statusJson "updated" [("settings", replyJson reply)])
  | .addStep id =>
    match readBody s.bodyDepth request kindBody with
    | .error response => (response, w, supply)
    | .ok kind => s.act w supply id (.addStep kind.name) answerReply
  | .setField id node =>
    match readBody s.bodyDepth request fieldBody with
    | .error response => (response, w, supply)
    | .ok (name, value) =>
      s.act w supply id (.setField node name value) fun reply _ =>
        match reply with
        | .node none => .error (failureResponse (.edit (.noNode node)))
        | reply => .ok (replyJson reply)
  | .removeStep id node =>
    s.act w supply id (.removeStep node)
      (answerFound (.refusal 404 s!"Node '{node}' not found or not deletable")
        (statusJson "deleted" []))
  | .connect id =>
    match readBody s.bodyDepth request edgeBody with
    | .error response => (response, w, supply)
    | .ok (source, target) => s.act w supply id (.connect source target none) answerReply
  | .disconnect id edge =>
    s.act w supply id (.disconnect edge)
      (answerFound (.refusal 404 s!"Edge '{edge}' not found") (statusJson "disconnected" []))
  | .upload id =>
    match w.find? id with
    | none => (flowNotFound id, w, supply)
    | some _ =>
      match request.contentLength.bind (lengthRefusal? s.importLimit) with
      | some response => (response, w, supply)
      | none =>
        s.act w supply id (.importPayload (.bytes request.body) s.uploadBounds) fun _ draft =>
          .ok (statusJson "imported" draft.summaryFields)

def handle (s : Service) (request : Request) (w : Workspace) (supply : Supply) : Result :=
  match destination s.routes request.method request.path with
  | .endpoint (.query query) => s.read w supply query
  | .endpoint (.command command) => s.write request w supply command
  | .wrongMethod => (.refusal 405 "Method Not Allowed", w, supply)
  | .redirect => (⟨307, .text ""⟩, w, supply)
  | .unknown => (.refusal 404 "Not Found", w, supply)

def handleAll (s : Service) (w : Workspace) (supply : Supply) :
    List Request → List Response × Workspace × Supply
  | [] => ([], w, supply)
  | request :: rest =>
    let (response, w, supply) := s.handle request w supply
    let (responses, w, supply) := handleAll s w supply rest
    (response :: responses, w, supply)

end Service

end Stepflow.Http
