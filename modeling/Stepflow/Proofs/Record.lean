import Stepflow.Document.Export
import Stepflow.Proofs.TimeRange
import Stepflow.Proofs.Wire

/-!
# Records that survive a round

A record is imported as a node and exported again. Two things can be lost on the way: an empty
label becomes a default one, and a time range of an unknown grain is not read back. All else
is kept, dependencies apart, which the graph decides.

Results:
1. `record_round_iff`: exactly which exported records come back unchanged.
2. `Import.node_keeps`, `Import.node_fits`: an imported node has nothing to lose.
-/

namespace Stepflow

@[simp] theorem filled_filled (s : Option String) : filled (filled s) = filled s := by
  simp [filled, Option.filter_filter]

@[simp] theorem filled_none : filled none = none :=
  rfl

@[simp] theorem nonzero_nonzero (n : Option Int) : nonzero (nonzero n) = nonzero n := by
  simp [nonzero, Option.filter_filter]

theorem filled_some_of_ne {s : String} (h : s ≠ "") : filled (some s) = some s := by
  simp [filled, Option.filter, h]

theorem filled_eq_some_iff {s : Option String} {text : String} :
    filled s = some text ↔ s = some text ∧ text ≠ "" := by
  simp [filled, Option.filter_eq_some_iff]

theorem nonzero_eq_some_iff {n : Option Int} {k : Int} :
    nonzero n = some k ↔ n = some k ∧ k ≠ 0 := by
  simp [nonzero, Option.filter_eq_some_iff]

/-- A text is its own default iff it is not empty. -/
theorem filled_getD_eq_self_iff {s default : String} (h : default ≠ "") :
    (filled (some s)).getD default = s ↔ s ≠ "" := by
  by_cases empty : s = ""
  · subst empty
    simp [filled, Option.filter, h]
  · simp [filled_some_of_ne empty, empty]

theorem TimeRange.write_ne_empty (amount : Int) (grain : String) : write amount grain ≠ "" := by
  simp [write, layout]

namespace StepRecord

/-- The record of the node that an import makes of a record. -/
def round (r : StepRecord) (dependsOn : Option String) : StepRecord :=
  (r.node "").record dependsOn

/-- No record tells the id of its node. -/
theorem record_node (r : StepRecord) (id : String) (dependsOn : Option String) :
    (r.node id).record dependsOn = r.round dependsOn :=
  rfl

variable {r : StepRecord} (dependsOn : Option String)

def label (r : StepRecord) : String :=
  (filled (some r.name)).getD ("Step " ++ Numeral.write r.order)

/-- A label is kept iff it is not empty. -/
theorem label_eq_name_iff {name : String} {order : Int} :
    (filled (some name)).getD ("Step " ++ Numeral.write order) = name ↔ name ≠ "" :=
  filled_getD_eq_self_iff (by simp)

theorem exportedKind_node (filled : r.kind ≠ "") (id : String) : (r.node id).exportedKind = r.kind := by
  unfold Node.exportedKind node
  rw [filled_some_of_ne filled]
  rfl

theorem round_of_sql (sql : r.kind = StepKind.sql.name) :
    r.round dependsOn =
      { order := r.order
        name := r.label
        kind := r.kind
        content := r.content
        dependsOn
        maxRetry := nonzero r.maxRetry
        iterationColumn := filled r.iterationColumn
        timeColumn := filled r.timeColumn
        timeRange := if (filled r.timeColumn).isSome then (r.node "").timeRange else none
        timeGrain := if (filled r.timeColumn).isSome then filled r.window.2 else none
        timeMode := if (filled r.timeColumn).isSome then filled r.timeMode else none
        referenceDate := filled r.referenceDate } := by
  have kind : (r.node "").isKind .sql = true := by simp [Node.isKind, node, sql]
  rw [round, Node.record, Node.withOptions, if_pos kind, exportedKind_node (sql ▸ by decide)]
  rfl

theorem round_of_llm (llm : r.kind = StepKind.llm.name) :
    r.round dependsOn =
      { order := r.order
        name := r.label
        kind := r.kind
        content := r.content
        dependsOn
        maxRetry := nonzero r.maxRetry
        llmModel := filled r.llmModel } := by
  have sql : (r.node "").isKind .sql = false := by
    simp [Node.isKind, node, llm, StepKind.name]
  have kind : (r.node "").isKind .llm = true := by simp [Node.isKind, node, llm]
  rw [round, Node.record, Node.withOptions, sql, kind, exportedKind_node (llm ▸ by decide)]
  rfl

theorem round_of_plain (sql : r.kind ≠ StepKind.sql.name) (llm : r.kind ≠ StepKind.llm.name)
    (named : r.kind ≠ "") :
    r.round dependsOn =
      { order := r.order
        name := r.label
        kind := r.kind
        content := r.content
        dependsOn
        maxRetry := nonzero r.maxRetry } := by
  have notSql : (r.node "").isKind .sql = false := by simp [Node.isKind, node, sql]
  have notLlm : (r.node "").isKind .llm = false := by simp [Node.isKind, node, llm]
  rw [round, Node.record, Node.withOptions, notSql, notLlm, exportedKind_node named]
  rfl

end StepRecord

namespace Node

open StepRecord

/-- What the record of a step needs to survive: a label, and a known grain wherever it names a
time range. -/
structure Keeps (n : Node) : Prop where
  label : n.label ≠ ""
  grain : n.isKind .sql = true → filled n.timeColumn ≠ none →
    ∀ amount grain, nonzero n.timeAmount = some amount → filled n.timeGrain = some grain →
      grain ∈ TimeRange.knownGrains

/-- The amount of the time range in the record of a step, if there is one, can be written. -/
def RangeFits (n : Node) : Prop :=
  n.isKind .sql = true → filled n.timeColumn ≠ none →
    ∀ amount grain, nonzero n.timeAmount = some amount → filled n.timeGrain = some grain →
      Numeral.fits amount = true

variable {n : Node} (dependsOn other : Option String)

theorem rangeFits_iff :
    n.RangeFits ↔ ∀ amount, n.rangeAmount? = some amount → Numeral.fits amount = true := by
  unfold RangeFits rangeAmount?
  constructor
  · intro fits amount atAmount
    split at atAmount
    · next written =>
      simp only [Bool.and_eq_true, Option.isSome_iff_exists] at written
      obtain ⟨⟨sql, column, atColumn⟩, grain, atGrain⟩ := written
      exact fits sql (atColumn ▸ Option.some_ne_none column) amount grain atAmount atGrain
    · cases atAmount
  · intro fits sql windowed amount grain atAmount atGrain
    refine fits amount ?_
    rw [if_pos, atAmount]
    rw [sql, Option.isSome_iff_ne_none.mpr windowed, atGrain, Option.isSome_some]
    rfl

theorem rangeFits_of_amount
    (fits : ∀ amount, n.timeAmount = some amount → Numeral.fits amount = true) : n.RangeFits :=
  fun _ _ amount _ atAmount _ => fits amount (nonzero_eq_some_iff.mp atAmount).1

theorem exportedKind_ne_empty (n : Node) : n.exportedKind ≠ "" := by
  unfold exportedKind
  cases written : filled n.kind with
  | none => decide
  | some k => exact (filled_eq_some_iff.mp written).2

theorem exportedKind_of_isKind {kind : StepKind} (h : n.isKind kind = true) :
    n.exportedKind = kind.name := by
  have same : n.kind = some kind.name := eq_of_beq h
  rw [exportedKind, same, filled_some_of_ne (by cases kind <;> decide)]
  rfl

/-- A step without options keeps having none, even if it comes back as SQL. -/
theorem record_round_of_plain (sql : n.isKind .sql = false) (llm : n.isKind .llm = false) :
    (n.record dependsOn).round other = n.record dependsOn ↔ n.label ≠ "" ∧ other = dependsOn := by
  have bare : n.record dependsOn =
      { order := n.order, name := n.label, kind := n.exportedKind, content := n.content, dependsOn,
        maxRetry := nonzero n.maxRetry } := by
    simp [record, withOptions, sql, llm]
  have notLlm : n.exportedKind ≠ StepKind.llm.name := by
    unfold exportedKind
    cases written : filled n.kind with
    | none => decide
    | some k =>
      obtain ⟨same, -⟩ := filled_eq_some_iff.mp written
      simpa [isKind, same] using llm
  rw [bare]
  by_cases again : n.exportedKind = StepKind.sql.name
  · rw [round_of_sql _ again]
    simp [StepRecord.label, label_eq_name_iff]
  · rw [round_of_plain _ again notLlm n.exportedKind_ne_empty]
    simp [StepRecord.label, label_eq_name_iff]

theorem record_round_of_llm (llm : n.isKind .llm = true) :
    (n.record dependsOn).round other = n.record dependsOn ↔ n.label ≠ "" ∧ other = dependsOn := by
  have sql : n.isKind .sql = false := by
    rw [isKind, eq_of_beq llm]
    rfl
  have written : n.record dependsOn =
      { order := n.order, name := n.label, kind := n.exportedKind, content := n.content, dependsOn,
        maxRetry := nonzero n.maxRetry, llmModel := filled n.llmModel } := by
    simp [record, withOptions, sql, llm]
  rw [written, round_of_llm _ (exportedKind_of_isKind llm)]
  simp [StepRecord.label, label_eq_name_iff]

theorem timeRange_of_some {amount : Int} {grain : String} (atAmount : nonzero n.timeAmount = some amount)
    (atGrain : filled n.timeGrain = some grain) :
    n.timeRange = some (TimeRange.write amount grain) := by
  rw [timeRange, atAmount, atGrain]

theorem timeRange_of_none (missing : nonzero n.timeAmount = none ∨ filled n.timeGrain = none) :
    n.timeRange = none := by
  unfold timeRange
  rcases missing with absent | absent
  · rw [absent]
  · rw [absent]
    split <;> simp_all

/-- A time window is read back iff the range, if there is one, names a known grain. -/
theorem window_round_iff {r : StepRecord}
    (fits : ∀ amount grain, nonzero n.timeAmount = some amount → filled n.timeGrain = some grain →
      Numeral.fits amount = true)
    (range : r.timeRange = n.timeRange) (grainField : r.timeGrain = filled n.timeGrain) :
    (r.node "").timeRange = n.timeRange ∧ filled r.window.2 = filled n.timeGrain ↔
      ∀ amount grain, nonzero n.timeAmount = some amount → filled n.timeGrain = some grain →
        grain ∈ TimeRange.knownGrains := by
  have unranged (missing : nonzero n.timeAmount = none ∨ filled n.timeGrain = none) :
      (r.node "").timeRange = n.timeRange ∧ filled r.window.2 = filled n.timeGrain := by
    have window : r.window = (none, filled n.timeGrain) := by
      rw [StepRecord.window, range, timeRange_of_none missing, filled_none, grainField]
    refine ⟨?_, by rw [window, filled_filled]⟩
    rw [timeRange_of_none missing]
    refine timeRange_of_none (.inl ?_)
    show nonzero r.window.1 = none
    rw [window]
    rfl
  cases atAmount : nonzero n.timeAmount with
  | none => simp [unranged (.inl atAmount)]
  | some amount =>
    cases atGrain : filled n.timeGrain with
    | none => simpa [atGrain] using unranged (.inr atGrain)
    | some grain =>
      have written := timeRange_of_some atAmount atGrain
      have window : r.window = TimeRange.read (TimeRange.write amount grain) := by
        rw [StepRecord.window, range, written, filled_some_of_ne (TimeRange.write_ne_empty _ _)]
      constructor
      · rintro ⟨-, same⟩ _ _ ⟨⟩ ⟨⟩
        rw [window] at same
        exact TimeRange.grain_of_read (filled_eq_some_iff.mp same).1
      · intro known
        obtain ⟨-, notZero⟩ := nonzero_eq_some_iff.mp atAmount
        have back := TimeRange.read_write (fits amount grain atAmount atGrain)
          (known amount grain rfl rfl)
        rw [back] at window
        have grainBack : filled r.window.2 = some grain := by
          rw [window]
          exact filled_some_of_ne (filled_eq_some_iff.mp atGrain).2
        refine ⟨?_, grainBack⟩
        rw [written]
        refine timeRange_of_some ?_ grainBack
        show nonzero r.window.1 = some amount
        rw [window]
        exact nonzero_eq_some_iff.mpr ⟨rfl, notZero⟩

theorem record_of_sql (sql : n.isKind .sql = true) :
    n.record dependsOn = n.withSqlOptions
      { order := n.order, name := n.label, kind := n.exportedKind, content := n.content, dependsOn,
        maxRetry := nonzero n.maxRetry } := by
  simp [record, withOptions, sql]

theorem record_round_of_sql (sql : n.isKind .sql = true) (fits : n.RangeFits) :
    (n.record dependsOn).round other = n.record dependsOn ↔ n.Keeps ∧ other = dependsOn := by
  rw [record_of_sql _ sql, round_of_sql _ (exportedKind_of_isKind sql)]
  simp only [withSqlOptions, StepRecord.mk.injEq, filled_filled, nonzero_nonzero, StepRecord.label,
    label_eq_name_iff, true_and, and_true]
  cases column : filled n.timeColumn with
  | none =>
    simp only [Option.isSome_none, Bool.false_eq_true, if_false, and_true]
    refine and_congr_left fun _ => ⟨fun label => ⟨label, fun _ windowed => ?_⟩, Keeps.label⟩
    exact absurd column windowed
  | some text =>
    simp only [Option.isSome_some, if_true, filled_filled, and_true]
    have windowed : filled n.timeColumn ≠ none := by simp [column]
    rw [window_round_iff (fits sql windowed) rfl rfl]
    constructor
    · rintro ⟨label, same, known⟩
      exact ⟨⟨label, fun _ _ => known⟩, same⟩
    · rintro ⟨keeps, same⟩
      exact ⟨keeps.label, same, keeps.grain sql windowed⟩

/-- Which exported records come back unchanged. -/
theorem record_round_iff (fits : n.RangeFits) :
    (n.record dependsOn).round other = n.record dependsOn ↔ n.Keeps ∧ other = dependsOn := by
  cases sql : n.isKind .sql with
  | true => exact record_round_of_sql dependsOn other sql fits
  | false =>
    have keeps : n.Keeps ↔ n.label ≠ "" :=
      ⟨Keeps.label, fun label => ⟨label, fun isSql => by rw [sql] at isSql; cases isSql⟩⟩
    rw [keeps]
    cases llm : n.isKind .llm with
    | true => exact record_round_of_llm dependsOn other llm
    | false => exact record_round_of_plain dependsOn other sql llm

end Node

namespace Import

theorem window_cases (step : List (String × Json)) :
    (∃ range, window step = TimeRange.read range) ∨ (window step).1 = none := by
  unfold window
  split
  · split
    · exact .inr rfl
    · exact .inl ⟨_, rfl⟩
  · split
    · exact .inr rfl
    · exact .inr rfl

/-- An imported node has a label, and a known grain wherever it has an amount. -/
theorem node_keeps (step : List (String × Json)) (position : Nat) (tag : String) :
    (node step position tag).Keeps where
  label := by
    show (filled _).getD _ ≠ ""
    cases written : filled (text? step "sequence_name") with
    | none => simp
    | some label => exact (filled_eq_some_iff.mp written).2
  grain := by
    intro _ _ amount grain atAmount atGrain
    obtain ⟨held, -⟩ := nonzero_eq_some_iff.mp atAmount
    obtain ⟨kept, -⟩ := filled_eq_some_iff.mp atGrain
    change (window step).1 = some amount at held
    change (window step).2 = some grain at kept
    rcases window_cases step with ⟨range, read⟩ | absent
    · rw [read] at kept
      exact TimeRange.grain_of_read kept
    · rw [absent] at held
      cases held

/-- The time amount of an imported node can be written. -/
theorem node_fits {step : List (String × Json)} {position : Nat} {tag : String} {amount : Int}
    (h : (node step position tag).timeAmount = some amount) : Numeral.fits amount = true := by
  change (window step).1 = some amount at h
  rcases window_cases step with ⟨range, read⟩ | absent
  · rw [read] at h
    exact TimeRange.fits_of_read h
  · rw [absent] at h
    cases h

end Import

end Stepflow
