import Stepflow.Field
import Stepflow.Json.Reader

/-!
# Requests and responses

A request body is read into the fields that its endpoint wants. A body that is no JSON
object of that kind is answered at once; this comes before anything else is looked at.

Every response must be writable. An answer that is not, since it holds an overlong integer, a
number that is not finite or a lone surrogate, becomes an internal error. The report on a faulty
body goes out together with what was found at each fault. `Content` leaves that part out, but it
must be writable as well; only fields whose names start with `hiddenFront` are not shown there.
-/

namespace Stepflow.Http

/-- A request with what is read of it. A body that is read field by field is one that was declared
to be JSON; how another one is refused is left out. -/
structure Request where
  method : String
  path : String
  body : List UInt8 := []
  /-- The declared length of the body, as it was sent. -/
  contentLength : Option String := none

inductive Content where
  | json (value : Json)
  | text (text : String)
  /-- An object whose `detail` is a text about the faults of a model. -/
  | faults (model : String) (faults : List Field.Fault)

structure Response where
  status : Nat
  content : Content

/-! ## What a report shows -/

/-- The front of the field names that a report leaves out. -/
def hiddenFront : List Char :=
  "_sa".toList

def hidden (name : String) : Bool :=
  hiddenFront.isPrefixOf name.toList

mutual

def shown : Json → Json
  | .list items => .list (shownItems items)
  | .obj fields => .obj (shownFields fields)
  | value => value

def shownItems : List Json → List Json
  | [] => []
  | item :: rest => shown item :: shownItems rest

def shownFields : List (String × Json) → List (String × Json)
  | [] => []
  | (name, value) :: rest =>
    if hidden name then shownFields rest else (name, shown value) :: shownFields rest

end

/-! ## Responses -/

namespace Response

/-- The answer to a request that the service could not carry through. -/
def internalError : Response :=
  ⟨500, .text "Internal Server Error"⟩

/-- A response with a JSON value, if it is writable. -/
def json (status : Nat) (value : Json) : Response :=
  if value.writable then ⟨status, .json value⟩ else internalError

def ok (value : Json) : Response :=
  json 200 value

def refusal (status : Nat) (detail : String) : Response :=
  json status (.obj [("detail", .str detail)])

/-- The answer to the faults of a body. What a report shows for each of them must be writable. -/
def invalid (body : Json) (faults : List Field.Fault) : Response :=
  if faults.all fun fault => (shown (Field.found body fault.path)).writable then
    let inBody (fault : Field.Fault) := { fault with path := .name "body" :: fault.path }
    json 422 (.obj [("detail", .list (faults.map fun fault => (inBody fault).toJson))])
  else internalError

/-- A refusal with a detail. A text about faults shows values only as they are spelled in a program,
so it is always writable. -/
def detailed (status : Nat) : Field.Detail → Response
  | .text detail => refusal status detail
  | .faults model faults => ⟨status, .faults model faults⟩

/-- A response whose status says that the request failed. -/
def failed (r : Response) : Bool :=
  400 ≤ r.status

end Response

/-! ## Bodies -/

/-- A model in the body of a request. At most `depth` lists and objects may stand inside each other
there. -/
def readBody {α : Type} (depth : Nat) (request : Request)
    (read : List (String × Json) → Field.Checked α) : Except Response α :=
  if request.body.isEmpty then .error (.invalid .null [⟨[], .missing⟩])
  else
    match Json.readBytes request.body depth with
    | .error (.malformed _ offset _ _) => .error (.invalid .null [⟨[.index offset], .json⟩])
    | .error _ => .error (.refusal 400 "There was an error parsing the body")
    | .ok (.obj fields) =>
      match read fields with
      | .ok found => .ok found
      | .bad faults => .error (.invalid (.obj fields) faults)
    | .ok body => .error (.invalid body [⟨[], .attributes⟩])

end Stepflow.Http
