/-!
# Routes

Which endpoint answers a request. A path is cut at its slashes and compared with a list of
patterns in order; a parameter takes any part that is not empty. A pattern that ends in a
fixed part also takes that part followed by a line feed.
-/

namespace Stepflow.Http

inductive Query where
  | health
  | info
  | list
  | stats
  | search (text : String)
  | catalog
  | show (flow : String)
  | validate (flow : String)
  | document (flow : String)
  | layout (flow : String)
  | hints (flow node : String)
deriving DecidableEq, Repr

inductive Command where
  | create
  | delete (flow : String)
  | settings (flow : String)
  | addStep (flow : String)
  | setField (flow node : String)
  | removeStep (flow node : String)
  | connect (flow : String)
  | disconnect (flow edge : String)
  | upload (flow : String)
deriving DecidableEq, Repr

inductive Endpoint where
  | query (query : Query)
  | command (command : Command)
deriving DecidableEq, Repr

inductive Part where
  | fixed (text : String)
  | param
deriving DecidableEq, Repr

/-- An endpoint that waits for its parameters. -/
inductive Template where
  | closed (endpoint : Endpoint)
  | one (endpoint : String → Endpoint)
  | two (endpoint : String → String → Endpoint)

/-- The endpoint for the parameters of a path. -/
def Template.fill? : Template → List String → Option Endpoint
  | .closed endpoint, [] => some endpoint
  | .one endpoint, [a] => some (endpoint a)
  | .two endpoint, [a, b] => some (endpoint a b)
  | _, _ => none

structure Route where
  method : String
  pattern : List Part
  template : Template

/-- The parameters of the parts of a path, if they fit a pattern. -/
def params? : List Part → List String → Option (List String)
  | [], [] => some []
  | [.fixed text], [part] => if part == text || part == text ++ "\n" then some [] else none
  | .fixed text :: pattern, part :: rest => if part == text then params? pattern rest else none
  | .param :: pattern, part :: rest =>
    if part.isEmpty then none else (params? pattern rest).map (part :: ·)
  | _, _ => none

def systemRoutes : List Route :=
  [⟨"GET", [.fixed "health"], .closed (.query .health)⟩,
   ⟨"GET", [.fixed "info"], .closed (.query .info)⟩]

/-- Routes about flows. The fixed names under `flows` come before the id of a flow. -/
def flowRoutes : List Route :=
  let flows : List Part := [.fixed "flows"]
  let flow : List Part := [.fixed "flows", .param]
  let under (name : String) : List Part := [.fixed "flows", .param, .fixed name]
  [⟨"GET", flows, .closed (.query .list)⟩,
   ⟨"GET", [.fixed "flows", .fixed "stats"], .closed (.query .stats)⟩,
   ⟨"GET", [.fixed "flows", .fixed "search", .param], .one fun text => .query (.search text)⟩,
   ⟨"GET", [.fixed "flows", .fixed "catalog"], .closed (.query .catalog)⟩,
   ⟨"POST", flows, .closed (.command .create)⟩,
   ⟨"GET", flow, .one fun flow => .query (.show flow)⟩,
   ⟨"DELETE", flow, .one fun flow => .command (.delete flow)⟩,
   ⟨"PUT", under "settings", .one fun flow => .command (.settings flow)⟩,
   ⟨"POST", under "nodes", .one fun flow => .command (.addStep flow)⟩,
   ⟨"PATCH", under "nodes" ++ [.param], .two fun flow node => .command (.setField flow node)⟩,
   ⟨"DELETE", under "nodes" ++ [.param], .two fun flow node => .command (.removeStep flow node)⟩,
   ⟨"POST", under "edges", .one fun flow => .command (.connect flow)⟩,
   ⟨"DELETE", under "edges" ++ [.param], .two fun flow edge => .command (.disconnect flow edge)⟩,
   ⟨"GET", under "validate", .one fun flow => .query (.validate flow)⟩,
   ⟨"GET", under "export", .one fun flow => .query (.document flow)⟩,
   ⟨"POST", under "import", .one fun flow => .command (.upload flow)⟩,
   ⟨"GET", under "layout", .one fun flow => .query (.layout flow)⟩,
   ⟨"GET", under "nodes" ++ [.param, .fixed "hints"],
    .two fun flow node => .query (.hints flow node)⟩]

inductive Destination where
  | endpoint (endpoint : Endpoint)
  | wrongMethod
  | redirect
  | unknown
deriving DecidableEq, Repr

/-- The parts of a path between its slashes; a path starts with one. -/
def parts? (path : List Char) : Option (List String) :=
  match path with
  | '/' :: rest => some ((rest.splitOn '/').map String.ofList)
  | _ => none

/-- The endpoints of the routes that fit a path, with their methods. -/
def fitting (routes : List Route) (path : List Char) : List (String × Endpoint) :=
  match parts? path with
  | none => []
  | some parts =>
    routes.filterMap fun route =>
      ((params? route.pattern parts).bind route.template.fill?).map (route.method, ·)

/-- The destination of a request. The first route that fits in path and method answers it. A
path that fits without its trailing slashes only is sent there. -/
def destination (routes : List Route) (method path : String) : Destination :=
  let path := path.toList
  match fitting routes path with
  | [] =>
    let shorter := (path.reverse.dropWhile (· == '/')).reverse
    if path.length ≠ 1 && shorter.length < path.length && !(fitting routes shorter).isEmpty then
      .redirect
    else .unknown
  | found =>
    match found.find? (·.1 == method) with
    | some (_, endpoint) => .endpoint endpoint
    | none => .wrongMethod

end Stepflow.Http
