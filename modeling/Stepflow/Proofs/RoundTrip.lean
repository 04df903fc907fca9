import Stepflow.Proofs.Round

/-!
# Which flows survive a round

A flow is exported, imported and exported again. The second document is the first one unless
something was made up on the way: a name, a label or a delivery method for an empty one, a grain,
a dependency on the order before, or an edge from the start.

Results:
1. `round_eq_iff`: the same question for a document on its own.
2. `round_document_iff`: the parts of a flow that a round can change.
3. `document_round_trip_iff`: the exact condition on the graph and the profile of a flow.
-/

namespace Stepflow

open Import

section Regular

variable {d : Document} (regular : d.Regular)
  (fits : ∀ k ∈ d.orders, Numeral.fits k = true)
  (distinct : d.orders.Nodup) (env : Environment) (supply : Supply)

theorem marks_orders (d : Document) : (d.steps.map StepRecord.mark).map (·.1) = d.orders := by
  rw [List.map_map]
  rfl

include regular fits distinct

/-- The iterable orders survive iff every step that follows the start by itself is among them. -/
theorem round_iterable_eq_iff :
    (Import.round env d.toFields supply).iterable = d.iterable ↔
      (d.iterates = true → ∀ r ∈ d.steps, r.mark.2 = true → r.order ∈ d.iterable.getD []) := by
  have ids := ids_nodup_of_orders distinct supply
  have count := count_round_iterable regular env supply fits ids
  have sorted := (round_regular env d.toFields supply).iterable_sorted
  have marks : ((d.steps.map StepRecord.mark).map (·.1)).Nodup := marks_orders d ▸ distinct
  have marked : ∀ r ∈ d.steps, (r.order, r.mark.2) ∈ d.steps.map StepRecord.mark := fun r hr =>
    List.mem_map.mpr ⟨r, hr, rfl⟩
  have written := regular.iterable
  cases on : d.iterates with
  | false =>
    rw [on, Option.isSome_eq_false_iff, Option.isNone_iff_eq_none] at written
    rw [round_iterable, on, written]
    simp
  | true =>
    obtain ⟨orders, held⟩ := Option.isSome_iff_exists.mp (written.trans on)
    have listed := regular.listed
    have now : (Import.round env d.toFields supply).iterable =
        some (graph d.toFields supply).1.iterableOrders := by
      rw [round_iterable, on, if_pos rfl]
    simp only [now, on, held, Option.getD_some, if_true, forall_const, Option.some.injEq]
      at count listed sorted ⊢
    constructor
    · intro same r hr follows
      have once := count r.order
      rw [listed_of_nodup marks (marked r hr), same, if_pos (.inl follows)] at once
      exact List.count_pos_iff.mp (once ▸ Nat.zero_lt_one)
    · intro present
      refine eq_of_count sorted (regular.sorted.sublist listed) fun k => ?_
      rw [count, (distinct.sublist listed).count]
      by_cases inside : k ∈ d.orders
      · obtain ⟨r, hr, rfl⟩ := List.mem_map.mp inside
        rw [listed_of_nodup marks (marked r hr)]
        by_cases follows : r.mark.2 = true
        · rw [if_pos (.inl follows), if_pos (present r hr follows)]
        · simp only [follows, Bool.false_eq_true, false_or]
      · rw [listed_of_not_mem (marks_orders d ▸ inside), if_neg fun h => inside (listed.subset h)]

/-- Which documents come back unchanged. -/
theorem round_eq_iff :
    Import.round env d.toFields supply = d ↔
      (filled (some d.name)).getD env.importedFlowName = d.name ∧
        (d.iterates = true → ∀ r ∈ d.steps, r.mark.2 = true → r.order ∈ d.iterable.getD []) ∧
        (∀ r ∈ d.steps, r.round (d.resolved r) = r) ∧
        d.delivery.map (List.map Delivery.received) = d.delivery := by
  have ids := ids_nodup_of_orders distinct supply
  rw [Document.ext_iff, round_name, round_iterates, round_iterable_eq_iff regular fits distinct,
    round_query regular, round_steps regular fits ids, round_delivery regular]
  have steps : (d.steps.map fun r => r.round (d.resolved r)) = d.steps ↔
      ∀ r ∈ d.steps, r.round (d.resolved r) = r := by
    nth_rewrite 2 [← List.map_id d.steps]
    exact List.map_inj_left
  rw [steps]
  simp only [true_and]

end Regular

/-! ## Flows -/

namespace Graph

/-- What a flow must have for its document to come back unchanged. -/
structure Survives (g : Graph) (p : Profile) : Prop where
  name : p.name ≠ ""
  labels : ∀ n ∈ g.steps, n.label ≠ ""
  methods : ∀ rule ∈ p.delivery, rule.method ≠ ""
  /-- No time range is exported whose grain the import does not know. -/
  grains : ∀ n ∈ g.steps, n.kind = some "sql" →
    ∀ column, n.timeColumn = some column → column ≠ "" →
    ∀ amount, n.timeAmount = some amount → amount ≠ 0 →
    ∀ grain, n.timeGrain = some grain → grain ≠ "" → grain = "day" ∨ grain = "month"
  /-- No later step without input could be lined up behind the order before it. -/
  lines : ∀ n ∈ g.steps, 1 < n.order → g.feeders n.id = [] →
    ∀ m ∈ g.steps, m.order ≠ n.order - 1
  /-- Where there is iteration, a first step without input follows a start already. -/
  starts : p.iterates = true → ∀ n ∈ g.steps, n.order = 1 → g.feeders n.id = [] →
    ∃ e ∈ g.edgesFromStart, e.target = n.id

variable {g : Graph} {p : Profile}

theorem mem_document_steps {r : StepRecord} :
    r ∈ (g.document p).steps ↔ ∃ n ∈ g.steps, g.record n = r := by
  simp only [document, List.mem_map, mem_sortedSteps]

theorem dependsOn_eq_none_iff {id : String} : g.dependsOn id = none ↔ g.feeders id = [] := by
  rw [dependsOn, Dependencies.text?_eq_none_iff, feederOrders_eq_nil_iff]

/-- The record of a step resolves to its own dependencies unless it would be lined up. -/
theorem resolved_record_iff {n : Node} :
    (g.document p).resolved (g.record n) = g.dependsOn n.id ↔
      (1 < n.order → g.feeders n.id = [] → ∀ m ∈ g.steps, m.order ≠ n.order - 1) := by
  have own : (g.record n).dependsOn = g.dependsOn n.id := record_dependsOn _ _
  have order : (g.record n).order = n.order := record_order _ _
  rw [Document.resolved, own, order, ← dependsOn_eq_none_iff]
  cases g.dependsOn n.id with
  | some text => simp
  | none =>
    rw [Option.none_or]
    by_cases before : 1 < n.order ∧ n.order - 1 ∈ (g.document p).orders
    · rw [if_pos before, Dependencies.text?_of_ne_nil (List.cons_ne_nil _ _)]
      simp only [reduceCtorEq, false_iff]
      intro apart
      obtain ⟨m, hm, same⟩ := mem_document_orders.mp before.2
      exact apart before.1 trivial m hm same
    · rw [if_neg before]
      simp only [true_iff]
      intro later _ m hm same
      exact before ⟨later, mem_document_orders.mpr ⟨m, hm, same⟩⟩

theorem received_eq_self_iff :
    (g.document p).delivery.map (List.map Delivery.received) = (g.document p).delivery ↔
      ∀ rule ∈ p.delivery, rule.method ≠ "" := by
  have one (rule : Delivery) : rule.received = rule ↔ rule.method ≠ "" := by
    have method := @filled_getD_eq_self_iff rule.method "email" (by decide)
    rw [← method]
    unfold Delivery.received
    cases rule
    simp
  have all : p.delivery.map Delivery.received = p.delivery ↔
      ∀ rule ∈ p.delivery, rule.method ≠ "" := by
    nth_rewrite 2 [← List.map_id p.delivery]
    rw [List.map_inj_left]
    exact forall₂_congr fun rule _ => one rule
  rw [← all, document]
  cases p.delivery with
  | nil => simp
  | cons rule rest => simp

/-- The steps that follow the start by themselves are listed iff a start leads to them. -/
theorem starts_iff (distinct : (g.steps.map (·.order)).Nodup) (on : p.iterates = true) :
    (∀ r ∈ (g.document p).steps, r.mark.2 = true → r.order ∈ (g.document p).iterable.getD []) ↔
      ∀ n ∈ g.steps, n.order = 1 → g.feeders n.id = [] →
        ∃ e ∈ g.edgesFromStart, e.target = n.id := by
  have listed {n : Node} (hn : n ∈ g.steps) :
      n.order ∈ (g.document p).iterable.getD [] ↔ ∃ e ∈ g.edgesFromStart, e.target = n.id := by
    rw [mem_document_iterable distinct hn, and_iff_right on]
  have follows (n : Node) :
      (g.record n).mark.2 = true ↔ g.feeders n.id = [] ∧ n.order = 1 := by
    have own : (g.record n).dependsOn = g.dependsOn n.id := record_dependsOn _ _
    have order : (g.record n).order = n.order := record_order _ _
    rw [StepRecord.mark, own, order, ← dependsOn_eq_none_iff]
    simp
  constructor
  · intro all n hn first free
    refine (listed hn).mp ?_
    have here := all (g.record n) (mem_document_steps.mpr ⟨n, hn, rfl⟩) ((follows n).mpr ⟨free, first⟩)
    rwa [record, record_order] at here
  · intro all r hr marked
    obtain ⟨n, hn, rfl⟩ := mem_document_steps.mp hr
    obtain ⟨free, first⟩ := (follows n).mp marked
    rw [record, record_order]
    exact (listed hn).mpr (all n hn first free)

theorem keeps_iff {n : Node} :
    n.Keeps ↔ n.label ≠ "" ∧
      (n.kind = some "sql" →
        ∀ column, n.timeColumn = some column → column ≠ "" →
        ∀ amount, n.timeAmount = some amount → amount ≠ 0 →
        ∀ grain, n.timeGrain = some grain → grain ≠ "" → grain = "day" ∨ grain = "month") := by
  constructor
  · intro keeps
    refine ⟨keeps.label, ?_⟩
    intro sql column atColumn named amount atAmount notZero grain atGrain filledGrain
    refine TimeRange.mem_knownGrains.mp (keeps.grain (beq_iff_eq.mpr sql) ?_ amount grain
      (nonzero_eq_some_iff.mpr ⟨atAmount, notZero⟩) (filled_eq_some_iff.mpr ⟨atGrain, filledGrain⟩))
    rw [filled_eq_some_iff.mpr ⟨atColumn, named⟩]
    exact Option.some_ne_none column
  · rintro ⟨label, grains⟩
    refine ⟨label, ?_⟩
    intro sql windowed amount grain atAmount atGrain
    obtain ⟨column, atColumn⟩ := Option.ne_none_iff_exists'.mp windowed
    obtain ⟨atColumn, named⟩ := filled_eq_some_iff.mp atColumn
    obtain ⟨atAmount, notZero⟩ := nonzero_eq_some_iff.mp atAmount
    obtain ⟨atGrain, filledGrain⟩ := filled_eq_some_iff.mp atGrain
    exact TimeRange.mem_knownGrains.mpr (grains (eq_of_beq sql) column atColumn named amount atAmount
      notZero grain atGrain filledGrain)

/-- A flow is exported if its orders and the amounts of its time ranges can be written. -/
theorem exported_of_fits (fits : ∀ n ∈ g.steps, Numeral.fits n.order = true)
    (ranges : ∀ n ∈ g.steps, n.RangeFits) : g.exported p = .ok (g.document p) := by
  refine exported_eq_ok_iff.mpr ⟨fun n hn => ⟨fun k hk => ?_, ?_⟩, rfl⟩
  · obtain ⟨m, hm, -, rfl⟩ := mem_feederOrders.mp hk
    exact fits m hm
  · exact Node.rangeFits_iff.mp (ranges n hn)

/-- A flow whose steps have distinct orders comes back from an import with the same document iff its
name is kept, its rules have methods, its records are kept, and no edge is made up for a step without
input. -/
theorem round_document_iff (env : Environment) (distinct : (g.steps.map (·.order)).Nodup)
    (fits : ∀ n ∈ g.steps, Numeral.fits n.order = true) (ranges : ∀ n ∈ g.steps, n.RangeFits)
    (supply : Supply) :
    Import.round env (g.document p).toFields supply = g.document p ↔
      (filled (some p.name)).getD env.importedFlowName = p.name ∧
        (∀ rule ∈ p.delivery, rule.method ≠ "") ∧
        (∀ n ∈ g.steps, n.Keeps) ∧
        (∀ n ∈ g.steps, 1 < n.order → g.feeders n.id = [] → ∀ m ∈ g.steps, m.order ≠ n.order - 1) ∧
        (p.iterates = true → ∀ n ∈ g.steps, n.order = 1 → g.feeders n.id = [] →
          ∃ e ∈ g.edgesFromStart, e.target = n.id) := by
  have regular := g.document_regular p
  have orders := fits_document_orders (p := p) fits
  have nodup : (g.document p).orders.Nodup := document_orders_nodup_iff.mpr distinct
  have steps : (∀ r ∈ (g.document p).steps, r.round ((g.document p).resolved r) = r) ↔
      ∀ n ∈ g.steps, n.Keeps ∧
        (1 < n.order → g.feeders n.id = [] → ∀ m ∈ g.steps, m.order ≠ n.order - 1) := by
    constructor
    · intro all n hn
      have here := all (g.record n) (mem_document_steps.mpr ⟨n, hn, rfl⟩)
      obtain ⟨keeps, same⟩ := (Node.record_round_iff _ _ (ranges n hn)).mp here
      exact ⟨keeps, resolved_record_iff.mp same⟩
    · intro all r hr
      obtain ⟨n, hn, rfl⟩ := mem_document_steps.mp hr
      obtain ⟨keeps, lines⟩ := all n hn
      exact (Node.record_round_iff _ _ (ranges n hn)).mpr ⟨keeps, resolved_record_iff.mpr lines⟩
  rw [round_eq_iff regular orders nodup, steps, received_eq_self_iff]
  constructor
  · rintro ⟨name, listed, all, methods⟩
    refine ⟨name, methods, fun n hn => (all n hn).1, fun n hn => (all n hn).2, fun on => ?_⟩
    exact (starts_iff distinct on).mp (listed on)
  · rintro ⟨name, methods, keeps, lines, starts⟩
    refine ⟨name, fun on => ?_, fun n hn => ⟨keeps n hn, lines n hn⟩, methods⟩
    exact (starts_iff distinct on).mpr (starts on)

/-- A flow whose steps have distinct orders comes back from an import with the same document iff it
has what it needs to survive. -/
theorem document_round_trip_iff (env : Environment) (named : env.importedFlowName ≠ "")
    (g : Graph) (p : Profile) (distinct : (g.steps.map (·.order)).Nodup)
    (fits : ∀ n ∈ g.steps, Numeral.fits n.order = true)
    (amounts : ∀ n ∈ g.steps, ∀ amount, n.timeAmount = some amount → Numeral.fits amount = true)
    (supply : Supply) :
    (Import.round env (g.document p).toFields supply).toFields = (g.document p).toFields ↔
      g.Survives p := by
  have ranges : ∀ n ∈ g.steps, n.RangeFits := fun n hn => Node.rangeFits_of_amount (amounts n hn)
  -- An empty name is replaced by the default, which is not empty.
  have name : (filled (some p.name)).getD env.importedFlowName = p.name ↔ p.name ≠ "" :=
    filled_getD_eq_self_iff named
  rw [Document.toFields_injective.eq_iff, round_document_iff env distinct fits ranges, name]
  constructor
  · rintro ⟨kept, methods, keeps, lines, starts⟩
    exact ⟨kept, fun n hn => (keeps n hn).label, methods,
      fun n hn => (keeps_iff.mp (keeps n hn)).2, lines, starts⟩
  · intro survives
    refine ⟨survives.name, survives.methods, fun n hn => ?_, survives.lines, survives.starts⟩
    exact keeps_iff.mpr ⟨survives.labels n hn, survives.grains n hn⟩

/-- Two steps in a line, the first with a time window, run once for every value of a query. -/
def digest : Graph where
  nodes := [Node.start,
    { id := "load", label := "Load", order := 1, kind := some "sql", content := "select 1",
      timeColumn := some "day", timeAmount := some 7, timeGrain := some "day" },
    { id := "report", label := "Report", order := 2, kind := some "llm" }]
  edges := [⟨"first", "start", "load"⟩, ⟨"second", "load", "report"⟩]

theorem digest_round_trip :
    (Import.round {} (digest.document { name := "Digest", iterates := true }).toFields
        ⟨fun _ => "", fun _ => ⟨0⟩, 0, 0⟩).toFields =
      (digest.document { name := "Digest", iterates := true }).toFields :=
  (document_round_trip_iff {} (by decide) digest _ (by decide) (by decide +kernel)
    (by decide +kernel) _).mpr
    { name := by decide
      labels := by decide
      methods := by decide
      grains := by decide
      lines := by decide
      starts := by decide }

end Graph

end Stepflow
