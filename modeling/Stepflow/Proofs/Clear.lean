import Stepflow.Proofs.Finding
import Stepflow.Proofs.RoundTrip
import Stepflow.Proofs.Run

/-!
# Flows without findings

A check looks at what a flow has, an import makes up what a document lacks. So a flow about which
nothing is found may still come back from a round as another one: a step that nothing feeds is lined
up behind the order before it or behind the start, and a grain that an import does not know is gone.
A flow that leaves nothing to be made up is an `Explicit` one.

Results:
1. `keeps_iff_of_complete`: what the record of a step with a complete time window needs.
2. `perform_import_iff`: which flows without findings are imported into a draft as they are.
3. `inexplicit_altered`: flows without findings that are not.
-/

namespace Stepflow

namespace Node

/-- A complete time window names its amount and its grain. -/
theorem window_of_complete {n : Node} (complete : n.timeIncomplete = false)
    (windowed : (filled n.timeColumn).isSome = true) :
    (∃ amount, nonzero n.timeAmount = some amount) ∧ ∃ grain, filled n.timeGrain = some grain := by
  rw [timeIncomplete, windowed, Bool.true_and, Bool.not_eq_false', Bool.and_eq_true,
    Bool.and_eq_true] at complete
  exact ⟨Option.isSome_iff_exists.mp complete.1.1, Option.isSome_iff_exists.mp complete.1.2⟩

end Node

namespace Graph

/-- Where the time window of a SQL step is complete, its record is kept iff the grain is known. -/
theorem keeps_iff_of_complete {n : Node} (label : n.label ≠ "")
    (complete : n.isKind .sql = true → n.timeIncomplete = false) :
    n.Keeps ↔ (n.kind = some "sql" → ∀ column, n.timeColumn = some column → column ≠ "" →
      n.timeGrain = some "day" ∨ n.timeGrain = some "month") := by
  rw [keeps_iff, and_iff_right label]
  refine forall_congr' fun sql => forall_congr' fun column => forall_congr' fun atColumn =>
    forall_congr' fun named => ?_
  have windowed : (filled n.timeColumn).isSome = true := by
    rw [filled_eq_some_iff.mpr ⟨atColumn, named⟩, Option.isSome_some]
  obtain ⟨⟨amount, atAmount⟩, grain, atGrain⟩ :=
    Node.window_of_complete (complete (beq_iff_eq.mpr sql)) windowed
  rw [nonzero_eq_some_iff] at atAmount
  rw [filled_eq_some_iff] at atGrain
  constructor
  · intro known
    rw [atGrain.1, Option.some_inj, Option.some_inj]
    exact known amount atAmount.1 atAmount.2 grain atGrain.1 atGrain.2
  · intro known _ _ _ other same _
    rw [same, Option.some_inj, Option.some_inj] at known
    exact known

/-- A flow that leaves nothing for an import to make up. -/
structure Explicit (g : Graph) (p : Profile) : Prop where
  /-- Every time window has a grain that an import knows. -/
  grains : ∀ n ∈ g.steps, n.kind = some "sql" →
    ∀ column, n.timeColumn = some column → column ≠ "" →
      n.timeGrain = some "day" ∨ n.timeGrain = some "month"
  /-- A later step that nothing feeds does not have the order before it in front of it. -/
  lines : ∀ n ∈ g.steps, 1 < n.order → g.feeders n.id = [] →
    ∀ m ∈ g.steps, m.order ≠ n.order - 1
  /-- Where there is iteration, a first step that nothing feeds follows a start. -/
  starts : p.iterates = true → ∀ n ∈ g.steps, n.order = 1 → g.feeders n.id = [] →
    ∃ e ∈ g.edgesFromStart, e.target = n.id

/-- A flow without findings comes back from a round as it was iff it is explicit. -/
theorem round_clear_iff (env : Environment) {g : Graph} {p : Profile}
    (clear : g.findings p = .ok []) (name : p.name ≠ "") (labels : ∀ n ∈ g.steps, n.label ≠ "")
    (methods : ∀ rule ∈ p.delivery, rule.method ≠ "") (ranges : ∀ n ∈ g.steps, n.RangeFits)
    (supply : Supply) :
    Import.round env (g.document p).toFields supply = g.document p ↔ g.Explicit p := by
  have distinct := orders_nodup_of_findings clear List.not_mem_nil
  have keeps : ∀ n ∈ g.steps, n.Keeps ↔ (n.kind = some "sql" →
      ∀ column, n.timeColumn = some column → column ≠ "" →
        n.timeGrain = some "day" ∨ n.timeGrain = some "month") := by
    intro n hn
    refine keeps_iff_of_complete (labels n hn) fun sql => ?_
    exact complete_of_findings clear hn sql List.not_mem_nil
  have kept : (filled (some p.name)).getD env.importedFlowName = p.name := by
    rw [filled_some_of_ne name, Option.getD_some]
  rw [round_document_iff env distinct (fun n hn => fits_of_findings clear hn) ranges]
  constructor
  · rintro ⟨-, -, all, lines, starts⟩
    exact ⟨fun n hn => (keeps n hn).mp (all n hn), lines, starts⟩
  · intro explicit
    exact ⟨kept, methods, fun n hn => (keeps n hn).mpr (explicit.grains n hn), explicit.lines,
      explicit.starts⟩

end Graph

namespace Draft

/-- A flow without findings can be exported and its document imported into any draft, and the draft
then exports the same document iff the flow is explicit. -/
theorem perform_import_iff (env : Environment) (d : Draft) (clear : d.findings = .ok [])
    (name : d.profile.name ≠ "") (labels : ∀ n ∈ d.graph.steps, n.label ≠ "")
    (methods : ∀ rule ∈ d.profile.delivery, rule.method ≠ "")
    (ranges : ∀ n ∈ d.graph.steps, n.RangeFits) (other : Draft) (supply : Supply) :
    d.exported = .ok d.document ∧ ∃ after later,
      other.perform env (.importDocument d.document.toJson) supply = (.ok .none, after, later) ∧
        (after.document.toJson = d.document.toJson ↔ d.graph.Explicit d.profile) := by
  have fits : ∀ n ∈ d.graph.steps, Numeral.fits n.order = true := fun n hn =>
    Graph.fits_of_findings clear hn
  have orders : ∀ k ∈ Import.orders d.document.toFields, Numeral.fits k = true := by
    rw [Import.orders_toFields]
    exact Graph.fits_document_orders fits
  refine ⟨Graph.exported_of_fits fits ranges, _, _,
    importOutcome_of_imported (Import.imported_of_fits orders env supply) other, ?_⟩
  rw [Document.toJson_injective.eq_iff]
  exact Graph.round_clear_iff env clear name labels methods ranges supply

/-- The draft that some actions make of a new one. -/
def edited (actions : List Action) : Draft :=
  (run {} actions (new none {} (.new {}) .numbered).1 (new none {} (.new {}) .numbered).2).1

/-- Two steps in a line behind the start, the first with a time window. -/
def line : Draft :=
  edited [.addStep "sql", .setField "node-00000002" "content" (.str "select 1"),
    .setField "node-00000002" "time_column" (.str "made"),
    .setField "node-00000002" "time_amount" (.int 7),
    .setField "node-00000002" "time_grain" (.str "day"),
    .setField "node-00000002" "time_mode" (.str "closed_open"),
    .connect "start" "node-00000002" none, .addStep "concat",
    .connect "node-00000002" "node-00000004" none]

theorem line_imported :
    line.exported = .ok line.document ∧ ∃ after later,
      (edited []).perform {} (.importDocument line.document.toJson) .numbered =
          (.ok .none, after, later) ∧
        after.document.toJson = line.document.toJson := by
  have amounts : ∀ n ∈ line.graph.steps, ∀ amount, n.timeAmount = some amount →
      Numeral.fits amount = true := by decide +kernel
  have explicit : line.graph.Explicit line.profile :=
    ⟨by decide +kernel, by decide +kernel, by decide +kernel⟩
  obtain ⟨written, after, later, done, same⟩ := perform_import_iff {} line (by decide +kernel)
    (by decide +kernel) (by decide +kernel) (by decide +kernel)
    (fun n hn => Node.rangeFits_of_amount (amounts n hn)) (edited []) .numbered
  exact ⟨written, after, later, done, same.mpr explicit⟩

/-- Nothing is found about a draft and all its names are there, but a draft that imports its document
exports another one. -/
structure Altered (d : Draft) : Prop where
  clear : d.findings = .ok []
  name : d.profile.name ≠ ""
  labels : ∀ n ∈ d.graph.steps, n.label ≠ ""
  methods : ∀ rule ∈ d.profile.delivery, rule.method ≠ ""
  changed : (d.perform {} (.importDocument d.document.toJson) .numbered).2.1.document.toJson ≠
    d.document.toJson

/-- Two steps, of which neither feeds the other. -/
def loose : Draft :=
  edited [.addStep "sql", .setField "node-00000002" "content" (.str "select 1"), .addStep "concat"]

/-- Two steps in a line behind the start, the first with a grain that an import does not know. -/
def weekly : Draft :=
  edited [.addStep "sql", .setField "node-00000002" "content" (.str "select 1"),
    .setField "node-00000002" "time_column" (.str "made"),
    .setField "node-00000002" "time_amount" (.int 2),
    .setField "node-00000002" "time_grain" (.str "week"),
    .setField "node-00000002" "time_mode" (.str "closed_open"),
    .connect "start" "node-00000002" none, .addStep "concat",
    .connect "node-00000002" "node-00000004" none]

/-- Two steps in a line that is not behind the start, of a flow that iterates. -/
def unstarted : Draft :=
  edited [.addStep "sql", .setField "node-00000002" "content" (.str "select 1"),
    .addStep "concat", .connect "node-00000002" "node-00000003" none,
    .changeProfile [("iterate_flow", .bool true), ("iteration_query", .str "select 2")]]

/-- Whichever part of an explicit flow is missing, the flow may change without a finding. -/
theorem inexplicit_altered : loose.Altered ∧ weekly.Altered ∧ unstarted.Altered := by
  refine ⟨?line, ?grain, ?start⟩
  case line =>
    exact ⟨by decide +kernel, by decide +kernel, by decide +kernel, by decide +kernel,
      Document.toJson_injective.ne (by decide +kernel)⟩
  case grain =>
    exact ⟨by decide +kernel, by decide +kernel, by decide +kernel, by decide +kernel,
      Document.toJson_injective.ne (by decide +kernel)⟩
  case start =>
    exact ⟨by decide +kernel, by decide +kernel, by decide +kernel, by decide +kernel,
      Document.toJson_injective.ne (by decide +kernel)⟩

end Draft

end Stepflow
