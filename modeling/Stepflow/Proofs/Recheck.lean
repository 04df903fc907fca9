import Stepflow.Proofs.Finding
import Stepflow.Proofs.LastStep
import Stepflow.Proofs.Rewire

/-!
# A round brings no new findings

A flow is checked, exported, imported and checked again. What fed a step feeds it still, a time
window that was complete comes back complete, and the start of a flow that does not iterate leads to
one step at most. So whatever the second check finds, the first one has found.

This needs distinct orders, since of several steps of one order only the last is wired. It also
needs steps that say of what kind they are, since a step without a kind comes back as SQL, and known
grains, since others are not read back.

Results:
1. `mem_globalFindings_reimport`: the rules that a round does not change, whatever the orders.
2. `noWorse_of_built`: a step that comes back is no worse off.
3. `reimport_globalFindings`: the rules about the whole flow.
4. `reimport_findings`: all findings after a round.
-/

namespace Stepflow

open Import

/-! ## Time windows -/

namespace Node

/-- Amount and grain count together, as the range that they make. -/
theorem timeIncomplete_eq (n : Node) :
    n.timeIncomplete =
      ((filled n.timeColumn).isSome && !(n.timeRange.isSome && (filled n.timeMode).isSome)) := by
  unfold timeIncomplete timeRange
  cases nonzero n.timeAmount with
  | none => rfl
  | some amount =>
    cases filled n.timeGrain with
    | none => rfl
    | some grain => rfl

/-- A time window comes back as complete as it was if its grain is a known one. -/
theorem timeIncomplete_record {n : Node} (sql : n.isKind .sql = true) (fits : n.RangeFits)
    (known : ∀ grain, filled n.timeGrain = some grain → grain ∈ TimeRange.knownGrains)
    (dependsOn : Option String) (id : String) :
    ((n.record dependsOn).node id).timeIncomplete = n.timeIncomplete := by
  have column : (n.record dependsOn).timeColumn = filled n.timeColumn := by
    simp [record_of_sql _ sql, withSqlOptions]
  rw [timeIncomplete_eq, timeIncomplete_eq]
  show ((filled (n.record dependsOn).timeColumn).isSome && _) = _
  rw [column, filled_filled]
  cases windowed : filled n.timeColumn with
  | none => rfl
  | some text =>
    have range : (n.record dependsOn).timeRange = n.timeRange := by
      simp [record_of_sql _ sql, withSqlOptions, windowed]
    have grain : (n.record dependsOn).timeGrain = filled n.timeGrain := by
      simp [record_of_sql _ sql, withSqlOptions, windowed]
    have mode : (n.record dependsOn).timeMode = filled n.timeMode := by
      simp [record_of_sql _ sql, withSqlOptions, windowed]
    obtain ⟨back, -⟩ := (window_round_iff (fits sql (by simp [windowed])) range grain).mpr
      fun _ grain _ => known grain
    show (true && !(((n.record dependsOn).node "").timeRange.isSome &&
      (filled (n.record dependsOn).timeMode).isSome)) = _
    rw [back, mode, filled_filled]
    rfl

end Node

namespace Graph

/-- A step that says of what kind it is comes back as one of this kind. -/
theorem isKind_of_record {g : Graph} {n : Node} (named : ∃ kind, n.kind = some kind ∧ kind ≠ "")
    {b : Built} (h : b.Of (g.record n)) (kind : StepKind) : b.node.isKind kind = n.isKind kind := by
  obtain ⟨text, held, filledKind⟩ := named
  obtain ⟨-, id, here⟩ := h
  have exported : (g.record n).kind = text := by
    rw [record, (record_base _ _).2.1, Node.exportedKind, held, filled_some_of_ne filledKind]
    rfl
  rw [here, Node.isKind, Node.isKind, held]
  show (some (g.record n).kind == _) = _
  rw [exported]

/-- Only a step that says so comes back as a concatenation. -/
theorem isKind_concat_of_record {g : Graph} {n : Node} {b : Built} (h : b.Of (g.record n)) :
    b.node.isKind .concat = n.isKind .concat := by
  cases named : filled n.kind with
  | some text =>
    obtain ⟨held, notEmpty⟩ := filled_eq_some_iff.mp named
    exact isKind_of_record ⟨text, held, notEmpty⟩ h .concat
  | none =>
    have other : n.isKind .concat = false := by
      rw [← Bool.not_eq_true]
      intro concat
      rw [eq_of_beq concat] at named
      cases named
    obtain ⟨-, id, here⟩ := h
    have exported : (g.record n).kind = StepKind.sql.name := by
      rw [record, (record_base _ _).2.1, Node.exportedKind, named]
      rfl
    have kind : b.node.kind = some StepKind.sql.name := by
      rw [here, ← exported]
      rfl
    rw [other, Node.isKind, kind]
    rfl

/-- The last step comes back as the last one. -/
theorem map_lastStep?_reimport (env : Environment) (g : Graph) (p : Profile) (supply : Supply) :
    (lastStep? (g.reimport env p supply).1.steps).map (·.isKind .concat) =
      (lastStep? g.steps).map (·.isKind .concat) := by
  rw [← lastStep?_sortByOrder g.steps]
  refine (map_lastStep? ((forall₂_reimport env g p supply).imp fun n t h => ?_)).symm
  obtain ⟨b, ofN, rfl⟩ := h
  exact ⟨(order_of_record ofN).symm, (isKind_concat_of_record ofN).symm⟩

/-- An order comes twice after a round iff it came twice before. -/
theorem hasRepeatedOrder_reimport (env : Environment) (g : Graph) (p : Profile) (supply : Supply) :
    hasRepeatedOrder (g.reimport env p supply).1.steps = hasRepeatedOrder g.steps := by
  rw [← Bool.not_inj_iff, Bool.eq_iff_iff, Bool.not_eq_true', Bool.not_eq_true',
    hasRepeatedOrder_eq_false_iff, hasRepeatedOrder_eq_false_iff]
  exact (orders_perm_of_document g p supply).nodup_iff

/-- The profile after a round, as far as a check reads it. -/
theorem reimport_profile (env : Environment) (g : Graph) (p : Profile) (supply : Supply) :
    (g.reimport env p supply).2.iterates = p.iterates ∧
      (g.reimport env p supply).2.query = if p.iterates then p.query else "" := by
  have profile : (g.reimport env p supply).2 = Import.profile env (g.document p).toFields := rfl
  rw [profile, Document.profile_toFields]
  refine ⟨rfl, ?_⟩
  show (if p.iterates then some p.query else none).getD "" = _
  split
  · rfl
  · rfl

/-- A round changes nothing about the rules that look at the steps as a whole, or at the query. -/
theorem mem_globalFindings_reimport (env : Environment) (g : Graph) (p : Profile) (supply : Supply)
    {f : Finding} (other : f ≠ .severalFirstSteps) :
    f ∈ (g.reimport env p supply).1.globalFindings (g.reimport env p supply).2 ↔
      f ∈ g.globalFindings p := by
  obtain ⟨iterates, query⟩ := reimport_profile env g p supply
  have last (nodes : List Node) : (∃ n, lastStep? nodes = some n ∧ n.isKind .concat = false) ↔
      (lastStep? nodes).map (·.isKind .concat) = some false :=
    Option.map_eq_some_iff.symm
  have queryEmpty : ((g.reimport env p supply).2.iterates = true ∧
      Text.blank (g.reimport env p supply).2.query = true) ↔
        p.iterates = true ∧ Text.blank p.query = true := by
    rw [iterates, query]
    exact and_congr_right fun on => by rw [if_pos on]
  rw [mem_globalFindings, mem_globalFindings, hasRepeatedOrder_reimport, last, last,
    map_lastStep?_reimport, queryEmpty]
  simp only [other, false_and, false_or]

section Distinct

variable {env : Environment} {g : Graph} {p : Profile} {supply : Supply}
  (distinct : (g.steps.map (·.order)).Nodup)

include distinct

section Fits

variable (fits : ∀ n ∈ g.steps, Numeral.fits n.order = true)

include fits

/-- A step that comes back is no worse off. -/
theorem noWorse_of_built {n : Node} (hn : n ∈ g.steps)
    (named : ∃ kind, n.kind = some kind ∧ kind ≠ "") (range : n.RangeFits)
    (known : n.isKind .sql = true → ∀ grain, filled n.timeGrain = some grain →
      grain ∈ TimeRange.knownGrains)
    {b : Built} (hb : b ∈ built (g.document p).toFields supply) (h : b.Of (g.record n)) :
    NoWorse g p n (g.reimport env p supply).1 (g.reimport env p supply).2 b.node where
  order := order_of_record h
  content := content_of_record h
  sql := isKind_of_record named h .sql
  window := by
    intro sql complete
    obtain ⟨-, id, here⟩ := h
    rw [here, record, Node.timeIncomplete_record sql range (known sql), complete]
  iterates := (reimport_profile env g p supply).1
  fedByStart := by
    intro on fed
    have joined : (g.reimport env p supply).1.Joins Node.start.id b.node.id :=
      (joins_start_reimport_iff distinct fits hn hb h).mpr (.inl ⟨on, fedByStart_iff.mp fed⟩)
    exact fedByStart_graph.mpr joined
  feeders := by
    intro s hs
    have hs' : s ∈ g.steps := (mem_feeders.mp hs).1
    obtain ⟨c, hc, ofS⟩ := exists_built p supply hs'
    refine ⟨c.node, mem_feeders.mpr ⟨reimport_steps.mpr ⟨c, hc, rfl⟩, ?_⟩, order_of_record ofS⟩
    exact (joins_reimport_iff distinct fits hs' hc hb ofS h).mpr (.inl hs)

end Fits

/-- Without iteration, the start leads to the first step at most. -/
theorem edgesFromStart_reimport (off : p.iterates = false) :
    (g.reimport env p supply).1.edgesFromStart.length ≤ 1 := by
  refine edgesFromStart_graph ?_ ?_ supply
  · rw [orders_toFields]
    exact document_orders_nodup_iff.mpr distinct
  · exact (reimport_profile env g p supply).1.trans off

/-- Whatever is found about the flow as a whole after a round was found before. -/
theorem reimport_globalFindings :
    ∀ f ∈ (g.reimport env p supply).1.globalFindings (g.reimport env p supply).2,
      f ∈ g.globalFindings p := by
  have iterates := (reimport_profile env g p supply).1
  have split : (g.reimport env p supply).1.startIsSplit (g.reimport env p supply).2 = false := by
    rw [startIsSplit, iterates]
    cases on : p.iterates with
    | true => rfl
    | false =>
      have few : (g.reimport env p supply).1.edgesFromStart.length ≤ 1 :=
        edgesFromStart_reimport distinct on
      simpa using few
  intro f hf
  by_cases several : f = .severalFirstSteps
  · rw [several, mem_globalFindings, split] at hf
    simp at hf
  · exact (mem_globalFindings_reimport env g p supply several).mp hf

end Distinct

/-- A flow whose steps have distinct orders, kinds, and grains that an import knows can be exported
and imported without any new findings: whatever a check finds then, it has found before. -/
theorem reimport_findings (env : Environment) {g : Graph} {p : Profile}
    (distinct : (g.steps.map (·.order)).Nodup)
    (named : ∀ n ∈ g.steps, ∃ kind, n.kind = some kind ∧ kind ≠ "")
    (grains : ∀ n ∈ g.steps, n.kind = some "sql" → ∀ grain, n.timeGrain = some grain →
      grain = "" ∨ grain = "day" ∨ grain = "month")
    (amounts : ∀ n ∈ g.steps, ∀ amount, n.timeAmount = some amount → Numeral.fits amount = true)
    {found : List Finding} (checked : g.findings p = .ok found) (supply : Supply) :
    ∃ later, (g.reimport env p supply).1.findings (g.reimport env p supply).2 = .ok later ∧
      ∀ f ∈ later, f ∈ found := by
  have fits : ∀ n ∈ g.steps, Numeral.fits n.order = true := fun n hn => fits_of_findings checked hn
  refine findings_subset checked (reimport_globalFindings distinct) ?_
  intro t ht
  obtain ⟨b, hb, rfl⟩ := reimport_steps.mp ht
  obtain ⟨n, hn, ofN⟩ := exists_of_built hb
  have range := Node.rangeFits_of_amount (amounts n hn)
  refine ⟨n, hn, noWorse_of_built distinct fits hn (named n hn) range ?_ hb ofN⟩
  intro sql grain atGrain
  obtain ⟨held, notEmpty⟩ := filled_eq_some_iff.mp atGrain
  rcases grains n hn (eq_of_beq sql) grain held with empty | rfl | rfl
  · exact absurd empty notEmpty
  · decide
  · decide

/-- The start leads to both steps, and the second one uses the first one without being fed by it. -/
def detour : Graph where
  nodes := [Node.start,
    { id := "load", order := 1, kind := some "sql", content := "select 1", timeColumn := some "day",
      timeAmount := some 7, timeGrain := some "day", timeMode := some "rolling" },
    { id := "merge", order := 2, kind := some "concat", content := "\x7b\x7bstep_1\x7d\x7d" }]
  edges := [⟨"1", "start", "load"⟩, ⟨"2", "start", "merge"⟩]

theorem detour_findings :
    ∃ later, (detour.reimport {} { name := "Detour" } .numbered).1.findings
        (detour.reimport {} { name := "Detour" } .numbered).2 = .ok later ∧
      ∀ f ∈ later, f ∈ [.severalFirstSteps, .atStep 2 (.notFed "step_1" 1)] :=
  reimport_findings {} (by decide) (by decide) (by decide) (by decide +kernel)
    (by decide +kernel) .numbered

/-- After a round, the second step of this flow is lined up behind the first one, and nothing is
found any more. -/
example : (detour.reimport {} { name := "Detour" } .numbered).1.findings
    (detour.reimport {} { name := "Detour" } .numbered).2 = .ok [] := by
  decide +kernel

end Graph

end Stepflow
