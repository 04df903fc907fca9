import Stepflow.Graph
import Stepflow.Placeholder
import Stepflow.Profile

/-!
# Findings

What is questionable about a flow. Every rule is looked at every time: first the rules about
the whole flow, in a fixed order, then the rules about each step, in stored order. Findings
never stop an export. The check itself can only be stopped by a numeral beyond the limit: a
step's order that cannot be written, or a step tag with too many digits.
-/

namespace Stepflow

inductive StepProblem where
  | sqlEmpty
  | timeIncomplete
  | iterationOff
  | iterationNotFed
  | notFed (tag : String) (order : Nat)
deriving DecidableEq, Repr

inductive Finding where
  | duplicateOrders
  | severalFirstSteps
  | lastNotConcat
  | queryEmpty
  | atStep (order : Int) (problem : StepProblem)
deriving DecidableEq, Repr

def stepScope (order : String) : String :=
  "step:" ++ order

def StepProblem.message : StepProblem → String
  | .sqlEmpty => "SQL Query is empty"
  | .timeIncomplete => "Incomplete Time Configuration"
  | .iterationOff =>
    Placeholder.write Placeholder.iterationTag ++ " requires Iterated Flow"
  | .iterationNotFed =>
    Placeholder.write Placeholder.iterationTag ++ " used but not connected to Start"
  | .notFed tag order =>
    Placeholder.write tag ++ s!" used but Step {Numeral.write order} is not connected"

namespace Finding

def scope : Finding → String
  | .atStep order _ => stepScope (Numeral.write order)
  | _ => "global"

def message : Finding → String
  | .duplicateOrders => "Duplicate Sequence # Detected"
  | .severalFirstSteps => "Invalid Start Connection (Single path only)"
  | .lastNotConcat => "Flow must end with CONCAT"
  | .queryEmpty => "Iteration Query Empty"
  | .atStep order problem => s!"Step {Numeral.write order}: {problem.message}"

def toJson (f : Finding) : Json :=
  .obj [("scope", .str f.scope), ("message", .str f.message)]

end Finding

/-- The first node of the greatest order. -/
def lastStep? : List Node → Option Node
  | [] => none
  | n :: rest => some (rest.foldl (fun last m => if last.order < m.order then m else last) n)

def hasRepeatedOrder : List Node → Bool
  | [] => false
  | n :: rest => rest.any (·.order == n.order) || hasRepeatedOrder rest

namespace Node

/-- A SQL step that names a time column must have amount, grain and mode as well. -/
def timeIncomplete (n : Node) : Bool :=
  (filled n.timeColumn).isSome &&
    !((nonzero n.timeAmount).isSome && (filled n.timeGrain).isSome && (filled n.timeMode).isSome)

/-- What is wrong with the fields of a step, looked at by themselves. -/
def fieldProblems (n : Node) : List StepProblem :=
  if n.isKind .sql then
    (if Text.blank n.content then [.sqlEmpty] else [])
      ++ (if n.timeIncomplete then [.timeIncomplete] else [])
  else []

end Node

namespace Graph

/-- Whether the start leads to several steps of a flow that does not iterate. -/
def startIsSplit (g : Graph) (p : Profile) : Bool :=
  !p.iterates && 1 < g.edgesFromStart.length

def globalFindings (g : Graph) (p : Profile) : List Finding :=
  (if hasRepeatedOrder g.steps then [.duplicateOrders] else [])
    ++ (if g.startIsSplit p then [.severalFirstSteps] else [])
    ++ (if (lastStep? g.steps).any (!·.isKind .concat) then [.lastNotConcat] else [])
    ++ (if p.iterates && Text.blank p.query then [.queryEmpty] else [])

/-- What is wrong with one tag in the content of a step. A step tag is right iff a step of
that order feeds the step directly. -/
def tagProblem (g : Graph) (p : Profile) (n : Node) (tag : String) :
    Except Numeral.Overlong (Option StepProblem) :=
  match Placeholder.Reference.ofTag tag with
  | .iteration =>
    if !p.iterates then .ok (some .iterationOff)
    else if !g.fedByStart n.id then .ok (some .iterationNotFed)
    else .ok none
  | .step digits =>
    if digits.length > Numeral.maxDigits then .error (.found digits.length)
    else
      let order := Numeral.ofDigitValues digits
      if (g.feeders n.id).any (·.order == order) then .ok none
      else .ok (some (.notFed tag order))
  | .other => .ok none

def tagProblems (g : Graph) (p : Profile) (n : Node) :
    Except Numeral.Overlong (List StepProblem) := do
  let problems ← (Placeholder.tags n.content).mapM (g.tagProblem p n)
  return problems.filterMap id

def stepFindings (g : Graph) (p : Profile) (n : Node) :
    Except Numeral.Overlong (List Finding) :=
  if !Numeral.fits n.order then .error .written
  else do
    let problems ← g.tagProblems p n
    return (n.fieldProblems ++ problems).map (.atStep n.order)

def findings (g : Graph) (p : Profile) : Except Numeral.Overlong (List Finding) := do
  let steps ← g.steps.mapM (g.stepFindings p)
  return g.globalFindings p ++ steps.flatten

end Graph

end Stepflow
