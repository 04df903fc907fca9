import Stepflow.Field
import Stepflow.Text.Blank
import Stepflow.Text.Case
import Stepflow.Text.Line

/-!
# The environment of the service

Settings of the whole service: where it runs, whom it answers, how large an import may be,
and the names that new and imported flows get. They are read from environment variables,
whose names may be in either case.
-/

namespace Stepflow

structure Environment where
  name : String := "dev"
  logLevel : String := "INFO"
  allowedOrigins : String := "*"
  maxImportBytes : Int := 5242880
  flowName : String := "My New Automation"
  importedFlowName : String := "Imported Flow"
  llmModel : String := "nvidia/nemotron-nano-9b-v2:free"
deriving DecidableEq, Repr

namespace Environment

def knownNames : List String :=
  ["dev", "development", "qa", "test", "prod"]

/-- The value of a variable. Of several that differ in case only, the last counts. -/
def lookup? (vars : List (String × String)) (name : String) : Option String :=
  (vars.reverse.find? fun v => Text.lower v.1 == Text.lower name).map (·.2)

/-- The environment that the variables describe. Only the import limit can be at fault. -/
def ofVariables (vars : List (String × String)) : Field.Checked Environment :=
  let get (name default : String) := (lookup? vars name).getD default
  let limit : Field.Checked Int :=
    match lookup? vars "MAX_IMPORT_BYTES" with
    | some numeral => (Field.integer (.str numeral)).within (.name "MAX_IMPORT_BYTES")
    | none => .ok 5242880
  limit.map fun maxImportBytes =>
    { name := Text.lower (get "FLOWBUILDER_ENV" "dev")
      logLevel := Text.upper (get "LOG_LEVEL" "INFO")
      allowedOrigins := get "CORS_ALLOWED_ORIGINS" "*"
      maxImportBytes
      flowName := get "DEFAULT_FLOW_NAME" "My New Automation"
      importedFlowName := get "IMPORTED_FLOW_NAME" "Imported Flow"
      llmModel := get "DEFAULT_LLM_MODEL" "nvidia/nemotron-nano-9b-v2:free" }

/-- The lines of the warning about an environment name that is not known, as it was given. -/
def warnings (vars : List (String × String)) : List String :=
  match lookup? vars "FLOWBUILDER_ENV" with
  | none => []
  | some name =>
    if knownNames.contains (Text.lower name) then []
    else
      let known := Json.nested (.list (knownNames.map .str))
      Text.lines s!"[SETTINGS] Warning: environment '{name}' not in {known}"

/-- The origins that may call the service; a lone star stands for all of them. -/
def origins (env : Environment) : List String :=
  let all := Text.trimBy Text.isBlank env.allowedOrigins.toList
  if all == ['*'] then ["*"]
  else
    ((all.splitOn ',').map (Text.trimBy Text.isBlank)).filterMap fun origin =>
      if origin.isEmpty then none else some (String.ofList origin)

end Environment

end Stepflow
