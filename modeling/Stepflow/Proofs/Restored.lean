import Stepflow.Proofs.Document
import Stepflow.Proofs.Rewire

/-!
# Which steps come back as they were

A step is exported as a record and imported as a node. It gets a new id. All else it keeps exactly
if the export leaves nothing out and the import makes nothing up: every option that is set belongs to
the kind of the step and is not empty, and an amount of time has a grain that an import knows.

Orders may come twice here. The steps are told by their places in the stable order of the flow.

Results:
1. `Node.window_eq_iff`: which time windows are read back.
2. `Node.node_record_eq_iff`: the exact condition on a step.
3. `Graph.reimport_restored`: the steps of a flow after a round, each at its place.
-/

namespace Stepflow

open Import

/-! ## Options that are left out -/

/-- Of the texts, only the empty one is left out. -/
theorem filled_eq_self_iff {s : Option String} : filled s = s ↔ s ≠ some "" := by
  cases s with
  | none => simp
  | some text => by_cases empty : text = "" <;> simp [filled, Option.filter, empty]

/-- Of the integers, only zero is left out. -/
theorem nonzero_eq_self_iff {n : Option Int} : nonzero n = n ↔ n ≠ some 0 := by
  cases n with
  | none => simp [nonzero]
  | some k => by_cases zero : k = 0 <;> simp [nonzero, Option.filter, zero]

/-! ## Single steps -/

namespace Node

/-- What a step must be like for a round to change nothing of it but its id. -/
structure Restorable (n : Node) : Prop where
  label : n.label ≠ ""
  kind : ∃ kind, n.kind = some kind ∧ kind ≠ ""
  retries : n.maxRetry ≠ some 0
  texts : ∀ text ∈ [n.iterationColumn, n.timeColumn, n.timeGrain, n.timeMode, n.referenceDate,
    n.llmModel], text ≠ some ""
  sql : n.kind ≠ some "sql" →
    n.iterationColumn = none ∧ n.timeColumn = none ∧ n.timeAmount = none ∧ n.timeGrain = none ∧
      n.timeMode = none ∧ n.referenceDate = none
  llm : n.kind ≠ some "llm" → n.llmModel = none
  window : n.timeColumn = none → n.timeAmount = none ∧ n.timeGrain = none ∧ n.timeMode = none
  /-- An amount leaves in a time range, which takes a grain, and returns only with a known one. -/
  amount : ∀ amount, n.timeAmount = some amount →
    amount ≠ 0 ∧ (n.timeGrain = some "day" ∨ n.timeGrain = some "month")

variable {n : Node} (dependsOn : Option String)

theorem exportedKind_eq_iff :
    some n.exportedKind = n.kind ↔ ∃ kind, n.kind = some kind ∧ kind ≠ "" := by
  unfold exportedKind
  cases held : n.kind with
  | none => simp
  | some text => by_cases empty : text = "" <;> simp [filled, Option.filter, empty, StepKind.name]

theorem record_maxRetry (n : Node) : (n.record dependsOn).maxRetry = nonzero n.maxRetry := by
  unfold record withOptions
  split
  · rfl
  · split
    · rfl
    · rfl

/-- The node of a record is the step itself iff the record says all that the step holds. -/
theorem node_eq_iff {r : StepRecord} (step : n.isStart = false) :
    r.node n.id = n ↔
      (r.label = n.label ∧ r.order = n.order ∧ some r.kind = n.kind ∧ r.content = n.content ∧
        r.maxRetry = n.maxRetry) ∧
      r.iterationColumn = n.iterationColumn ∧ r.timeColumn = n.timeColumn ∧
        r.window = (n.timeAmount, n.timeGrain) ∧ r.timeMode = n.timeMode ∧
        r.referenceDate = n.referenceDate ∧ r.llmModel = n.llmModel := by
  obtain ⟨id, label, order, kind, content, maxRetry, iterationColumn, timeColumn, timeAmount,
    timeGrain, timeMode, referenceDate, llmModel, isStart⟩ := n
  cases step
  simp only [StepRecord.node, StepRecord.label, Node.mk.injEq, Prod.ext_iff, true_and, and_true,
    and_assoc]

/-- What leaves without a range returns with its grain alone. -/
theorem window_of_unranged {r : StepRecord} (range : r.timeRange = n.timeRange)
    (grain : r.timeGrain = filled n.timeGrain)
    (missing : nonzero n.timeAmount = none ∨ filled n.timeGrain = none) :
    r.window = (none, filled n.timeGrain) := by
  rw [StepRecord.window, range, timeRange_of_none missing, filled_none, grain]

/-- A time window returns as it was iff its grain is not empty, and a known one wherever there is an
amount. -/
theorem window_eq_iff {r : StepRecord} (range : r.timeRange = n.timeRange)
    (grain : r.timeGrain = filled n.timeGrain)
    (fits : ∀ amount, n.timeAmount = some amount → Numeral.fits amount = true) :
    r.window = (n.timeAmount, n.timeGrain) ↔
      n.timeGrain ≠ some "" ∧ ∀ amount, n.timeAmount = some amount →
        amount ≠ 0 ∧ (n.timeGrain = some "day" ∨ n.timeGrain = some "month") := by
  have unranged := window_of_unranged range grain
  cases atAmount : n.timeAmount with
  | none =>
    rw [unranged (.inl (by rw [atAmount]; rfl)), Prod.mk.injEq, filled_eq_self_iff]
    simp
  | some amount =>
    simp only [Option.some.injEq, forall_eq']
    by_cases zero : amount = 0
    · have dropped : nonzero n.timeAmount = none := by rw [atAmount, zero]; rfl
      rw [unranged (.inl dropped)]
      simp [zero]
    · have counted : nonzero n.timeAmount = some amount := nonzero_eq_some_iff.mpr ⟨atAmount, zero⟩
      cases atGrain : filled n.timeGrain with
      | none =>
        have unknown : ¬(n.timeGrain = some "day" ∨ n.timeGrain = some "month") := by
          rintro (day | month)
          · rw [day] at atGrain
            cases atGrain
          · rw [month] at atGrain
            cases atGrain
        rw [unranged (.inr atGrain)]
        simp [unknown]
      | some text =>
        obtain ⟨held, notEmpty⟩ := filled_eq_some_iff.mp atGrain
        have window : r.window = TimeRange.read (TimeRange.write amount text) := by
          rw [StepRecord.window, range, timeRange_of_some counted atGrain,
            filled_some_of_ne (TimeRange.write_ne_empty _ _)]
        simp only [held, Option.some.injEq, ne_eq, notEmpty, not_false_eq_true, zero, true_and,
          ← TimeRange.mem_knownGrains]
        constructor
        · intro same
          rw [window] at same
          exact TimeRange.grain_of_read (congrArg Prod.snd same)
        · intro grainKnown
          rw [window, TimeRange.read_write (fits amount atAmount) grainKnown]

/-! ## Kinds of steps -/

/-- The parts that every step has are kept iff none of them is empty or zero. -/
theorem base_eq_iff :
    ((n.record dependsOn).label = n.label ∧ (n.record dependsOn).order = n.order ∧
        some (n.record dependsOn).kind = n.kind ∧ (n.record dependsOn).content = n.content ∧
        (n.record dependsOn).maxRetry = n.maxRetry) ↔
      n.label ≠ "" ∧ (∃ kind, n.kind = some kind ∧ kind ≠ "") ∧ n.maxRetry ≠ some 0 := by
  obtain ⟨order, kind, content, -⟩ := Graph.record_base n dependsOn
  rw [StepRecord.label, Graph.record_name, order, kind, content, record_maxRetry,
    StepRecord.label_eq_name_iff, exportedKind_eq_iff, nonzero_eq_self_iff]
  simp only [true_and]

/-- A record says of the options of its step what the step holds. -/
def KeepsOptions (n : Node) (r : StepRecord) : Prop :=
  r.iterationColumn = n.iterationColumn ∧ r.timeColumn = n.timeColumn ∧
    r.window = (n.timeAmount, n.timeGrain) ∧ r.timeMode = n.timeMode ∧
    r.referenceDate = n.referenceDate ∧ r.llmModel = n.llmModel

/-- A SQL step keeps its options iff none is an empty text, none is one of an LLM step, and none of
its time window is there without a column or lost on the way. -/
theorem keepsOptions_of_sql (sql : n.isKind .sql = true)
    (fits : ∀ amount, n.timeAmount = some amount → Numeral.fits amount = true) :
    n.KeepsOptions (n.record dependsOn) ↔
      (∀ text ∈ [n.iterationColumn, n.timeColumn, n.timeGrain, n.timeMode, n.referenceDate,
        n.llmModel], text ≠ some "") ∧
      n.llmModel = none ∧
      (n.timeColumn = none → n.timeAmount = none ∧ n.timeGrain = none ∧ n.timeMode = none) ∧
      ∀ amount, n.timeAmount = some amount →
        amount ≠ 0 ∧ (n.timeGrain = some "day" ∨ n.timeGrain = some "month") := by
  have unset {α : Type} {option : Option α} : none = option ↔ option = none := eq_comm
  rw [KeepsOptions, record_of_sql _ sql, withSqlOptions]
  cases column : filled n.timeColumn with
  | none =>
    -- Without a column nothing of the window is exported.
    have bare : n.timeColumn = none ∨ n.timeColumn = some "" := by
      by_contra other
      rw [not_or] at other
      rw [filled_eq_self_iff.mpr other.2] at column
      exact other.1 column
    rcases bare with missing | empty
    · simp only [missing, filled_eq_self_iff, StepRecord.window, filled_none, Option.isSome_none,
        Bool.false_eq_true, if_false, Prod.mk.injEq, unset, List.forall_mem_cons]
      grind
    · simp [empty]
  | some text =>
    obtain ⟨held, notEmpty⟩ := filled_eq_some_iff.mp column
    have range : (n.record dependsOn).timeRange = n.timeRange := by
      simp [record_of_sql _ sql, withSqlOptions, column]
    have grain : (n.record dependsOn).timeGrain = filled n.timeGrain := by
      simp [record_of_sql _ sql, withSqlOptions, column]
    have window := window_eq_iff range grain fits
    rw [record_of_sql _ sql, withSqlOptions] at window
    simp only [column, Option.isSome_some, if_true] at window ⊢
    rw [window]
    simp only [held, filled_eq_self_iff, unset, List.forall_mem_cons]
    grind

/-- A step of another kind keeps its options iff it has none, but for the model of an LLM step. -/
theorem keepsOptions_of_other (sql : n.isKind .sql = false) :
    n.KeepsOptions (n.record dependsOn) ↔
      (n.iterationColumn = none ∧ n.timeColumn = none ∧ n.timeAmount = none ∧ n.timeGrain = none ∧
        n.timeMode = none ∧ n.referenceDate = none) ∧
      n.llmModel ≠ some "" ∧ (n.kind ≠ some "llm" → n.llmModel = none) := by
  have unset {α : Type} {option : Option α} : none = option ↔ option = none := eq_comm
  have isLlm : n.isKind .llm = true ↔ n.kind = some "llm" := beq_iff_eq
  cases llm : n.isKind .llm with
  | true =>
    simp only [KeepsOptions, record, withOptions, sql, llm, Bool.false_eq_true, if_false, if_true,
      StepRecord.window, filled_none, Prod.mk.injEq, filled_eq_self_iff, unset, and_assoc,
      isLlm.mp llm, ne_eq, not_true_eq_false, false_imp_iff, and_true]
  | false =>
    have other : n.kind ≠ some "llm" := fun same => by simp [isLlm.mpr same] at llm
    have empty : n.llmModel = none → n.llmModel ≠ some "" := fun absent => by simp [absent]
    simp only [KeepsOptions, record, withOptions, sql, llm, Bool.false_eq_true, if_false,
      StepRecord.window, filled_none, Prod.mk.injEq, unset, and_assoc, ne_eq, other,
      not_false_eq_true, true_imp_iff, and_iff_right_of_imp empty]

/-- A step comes back as it was, but for its id, iff it is restorable. -/
theorem node_record_eq_iff (step : n.isStart = false)
    (fits : ∀ amount, n.timeAmount = some amount → Numeral.fits amount = true) :
    (n.record dependsOn).node n.id = n ↔ n.Restorable := by
  have same : (n.record dependsOn).node n.id = n ↔
      (n.label ≠ "" ∧ (∃ kind, n.kind = some kind ∧ kind ≠ "") ∧ n.maxRetry ≠ some 0) ∧
        n.KeepsOptions (n.record dependsOn) := by
    rw [node_eq_iff step, base_eq_iff]
    rfl
  have isSql : n.isKind .sql = true ↔ n.kind = some "sql" := beq_iff_eq
  rw [same]
  cases sql : n.isKind .sql with
  | true =>
    have kind := isSql.mp sql
    rw [keepsOptions_of_sql dependsOn sql fits]
    constructor
    · rintro ⟨⟨label, named, retries⟩, texts, model, window, amount⟩
      exact ⟨label, named, retries, texts, fun other => absurd kind other, fun _ => model, window,
        amount⟩
    · intro r
      refine ⟨⟨r.label, r.kind, r.retries⟩, r.texts, r.llm ?_, r.window, r.amount⟩
      rw [kind]
      decide
  | false =>
    have kind : n.kind ≠ some "sql" := fun other => by simp [isSql.mpr other] at sql
    rw [keepsOptions_of_other dependsOn sql]
    constructor
    · rintro ⟨⟨label, named, retries⟩, bare, model, llm⟩
      obtain ⟨iteration, column, amount, grain, mode, date⟩ := bare
      refine ⟨label, named, retries, ?_, fun _ => ⟨iteration, column, amount, grain, mode, date⟩,
        llm, fun _ => ⟨amount, grain, mode⟩, ?_⟩
      · simp [iteration, column, grain, mode, date, model]
      · simp [amount]
    · intro r
      exact ⟨⟨r.label, r.kind, r.retries⟩, r.sql kind, r.texts _ (by simp), r.llm⟩

end Node

/-! ## Flows -/

namespace Graph

/-- The step `m` has come back for the step `n`. -/
structure Restores (g : Graph) (n m : Node) : Prop where
  /-- It is what an import makes of the record of `n`. -/
  imported : m = (g.record n).node m.id
  order : m.order = n.order
  content : m.content = n.content
  /-- All but the id is as it was iff nothing of `n` is lost or made up. -/
  unchanged : { m with id := n.id } = n ↔ n.Restorable

theorem restores_of_built {g : Graph} {n : Node} (hn : n ∈ g.steps)
    (fits : ∀ amount, n.timeAmount = some amount → Numeral.fits amount = true) {b : Built}
    (h : b.Of (g.record n)) : g.Restores n b.node := by
  obtain ⟨-, id, here⟩ := h
  obtain ⟨order, -, content, -⟩ := record_base n (g.dependsOn n.id)
  rw [here]
  exact ⟨rfl, order, content, Node.node_record_eq_iff _ (mem_steps.mp hn).2 fits⟩

/-- After a round, the steps of a flow are there in the stable order of the flow, and each of them
is unchanged but for its id iff it is restorable. -/
theorem reimport_restored (env : Environment) (g : Graph) (p : Profile) {sorted : List Node}
    (sort : StableSort g.steps sorted)
    (amounts : ∀ n ∈ g.steps, ∀ amount, n.timeAmount = some amount → Numeral.fits amount = true)
    (supply : Supply) :
    List.Forall₂ g.Restores sorted (g.reimport env p supply).1.steps := by
  obtain rfl : sorted = g.sortedSteps := sort.unique (sortByOrder_stableSort g.steps)
  refine forall₂_imp_of_mem (forall₂_reimport env g p supply) fun n hn t _ h => ?_
  obtain ⟨b, ofN, rfl⟩ := h
  have inside : n ∈ g.steps := mem_sortedSteps.mp hn
  exact restores_of_built inside (amounts n inside) ofN

/-- Two steps of one order behind a later one. The amount of the second has a grain that is not
known to an import, and the third has no kind. -/
def parcel : Graph where
  nodes := [Node.start,
    { id := "pack", label := "Pack", order := 2, kind := some "llm", llmModel := some "small" },
    { id := "weigh", label := "Weigh", order := 1, kind := some "sql", timeColumn := some "day",
      timeAmount := some 2, timeGrain := some "week" },
    { id := "label", label := "Label", order := 1 }]

theorem parcel_restored :
    List.Forall₂ parcel.Restores
      [{ id := "weigh", label := "Weigh", order := 1, kind := some "sql", timeColumn := some "day",
          timeAmount := some 2, timeGrain := some "week" },
        { id := "label", label := "Label", order := 1 },
        { id := "pack", label := "Pack", order := 2, kind := some "llm", llmModel := some "small" }]
      (parcel.reimport {} { name := "Parcel" } .numbered).1.steps :=
  reimport_restored {} parcel _ (sortByOrder_stableSort parcel.steps) (by decide +kernel) .numbered

end Graph

end Stepflow
