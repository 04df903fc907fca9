import Stepflow.Proofs.Complete
import Stepflow.Proofs.Failure

/-!
# What a new step changes about the findings

A new step goes behind all others: its order is above that of every node, so it is the last step,
and no order comes twice that did not do so before. No edge touches it, and it holds no placeholder.
So only two findings are its own. It is the last step now, and has to be a concatenation; and a new
SQL step has no query yet.

The id of the new step must be a fresh one. An edge that dangles could be caught by it otherwise.

Results:
1. `order_lt_addStep`: the order of a new step is above all others.
2. `stepFindings_extended`, `edgesFromStart_extended`: a node that no edge touches changes nothing
   about the others.
3. `findings_extended`, `addStep_findings`: what is found once there is a new step.
-/

namespace Stepflow

theorem le_foldl_max (order : Int) (rest : List Int) :
    ∀ k ∈ order :: rest, k ≤ rest.foldl max order := by
  induction rest generalizing order with
  | nil => simp
  | cons next rest ih =>
    have top := ih (max order next)
    rw [List.forall_mem_cons] at top ⊢
    rw [List.forall_mem_cons]
    refine ⟨Int.le_trans (Int.le_max_left _ _) top.1, ?_, top.2⟩
    exact Int.le_trans (Int.le_max_right _ _) top.1

namespace Graph

theorem order_le_topOrder {g : Graph} {n : Node} (hn : n ∈ g.nodes) : n.order ≤ g.topOrder := by
  have mem := List.mem_map_of_mem (f := Node.order) hn
  unfold topOrder
  split
  · next orders =>
    rw [orders] at mem
    cases mem
  · next order rest orders =>
    rw [orders] at mem
    exact le_foldl_max order rest _ mem

/-- The order of a new step is above that of every node. -/
theorem order_lt_addStep (g : Graph) (kind : String) (supply : Supply) :
    ∀ n ∈ g.nodes, n.order < (g.addStep kind supply).1.order := fun _ hn =>
  Int.lt_add_one_of_le (order_le_topOrder hn)

/-! ## A node that no edge touches -/

def extended (g : Graph) (n : Node) : Graph :=
  { g with nodes := g.nodes ++ [n] }

section Fresh

variable {g : Graph} {n : Node} (fresh : n.id ∉ g.mentions)

include fresh

theorem isStart_extended {id : String} (hid : id ∈ g.mentions) :
    (g.extended n).isStart id = g.isStart id := by
  have apart : n.id ≠ id := fun same => fresh (same ▸ hid)
  have alone : [n].find? (·.id == id) = none := by simpa using apart
  rw [isStart, isStart, node?, node?, extended, List.find?_append, alone, Option.or_none]

theorem edgesFromStart_extended : (g.extended n).edgesFromStart = g.edgesFromStart := by
  refine List.filter_congr fun e he => ?_
  have joined : g.Joins e.source e.target := ⟨e, he, rfl, rfl⟩
  exact isStart_extended fresh (mem_mentions_of_joins joined).1

theorem fedByStart_extended (id : String) : (g.extended n).fedByStart id = g.fedByStart id := by
  rw [Bool.eq_iff_iff, fedByStart_iff, fedByStart_iff, edgesFromStart_extended fresh]

theorem feederOrders_extended (id : String) :
    (g.extended n).feederOrders id = g.feederOrders id := by
  refine (feederOrders_pairwise _ _).eq_of_mem_iff (feederOrders_pairwise _ _) fun k => ?_
  have joins : (g.extended n).Joins = g.Joins := rfl
  simp only [mem_feederOrders, mem_steps, joins]
  constructor
  · rintro ⟨m, ⟨hm, step⟩, joined, order⟩
    rcases List.mem_append.mp hm with old | new
    · exact ⟨m, ⟨old, step⟩, joined, order⟩
    · rw [List.mem_singleton.mp new] at joined
      exact absurd (mem_mentions_of_joins joined).1 fresh
  · rintro ⟨m, ⟨hm, step⟩, joined, order⟩
    exact ⟨m, ⟨List.mem_append_left _ hm, step⟩, joined, order⟩

/-- Nothing changes about the findings of other steps. -/
theorem stepFindings_extended (p : Profile) (m : Node) :
    (g.extended n).stepFindings p m = g.stepFindings p m :=
  stepFindings_congr rfl (feederOrders_extended fresh _) (fedByStart_extended fresh _) rfl rfl rfl

end Fresh

/-! ## The new step -/

theorem steps_extended (g : Graph) {n : Node} (step : n.isStart = false) :
    (g.extended n).steps = g.steps ++ [n] := by
  rw [steps, steps, extended, List.filter_append, List.filter_cons_of_pos (by simp [step]),
    List.filter_nil]

section Last

variable {g : Graph} {n : Node} (step : n.isStart = false) (top : ∀ m ∈ g.nodes, m.order < n.order)

include step top

theorem lastStep?_extended : lastStep? (g.extended n).steps = some n := by
  rw [steps_extended g step]
  exact lastStep?_append (fun m hm => top m (mem_steps.mp hm).1) (List.forall_mem_nil _)

theorem hasRepeatedOrder_extended :
    hasRepeatedOrder (g.extended n).steps = hasRepeatedOrder g.steps := by
  have apart : ∀ k ∈ g.steps.map (·.order), ∀ l ∈ [n.order], k ≠ l := by
    intro k hk l hl
    obtain ⟨m, hm, rfl⟩ := List.mem_map.mp hk
    rw [List.mem_singleton.mp hl]
    exact Int.ne_of_lt (top m (mem_steps.mp hm).1)
  rw [← Bool.not_inj_iff, Bool.eq_iff_iff, Bool.not_eq_true', Bool.not_eq_true',
    hasRepeatedOrder_eq_false_iff, hasRepeatedOrder_eq_false_iff, steps_extended g step,
    List.map_append, List.map_singleton, List.nodup_append]
  exact ⟨fun h => h.1, fun h => ⟨h, List.nodup_singleton _, apart⟩⟩

end Last

theorem fieldProblems_addStep (g : Graph) (kind : String) (supply : Supply) :
    (g.addStep kind supply).1.fieldProblems =
      if kind = StepKind.sql.name then [.sqlEmpty] else [] := by
  by_cases sql : kind = StepKind.sql.name
  · simp [addStep, Node.fieldProblems, Node.isKind, Node.timeIncomplete, filled, sql,
      Text.blank]
  · simp [addStep, Node.fieldProblems, Node.isKind, sql]

/-- What is found about a new step by itself. -/
theorem stepFindings_addStep (g : Graph) (p : Profile) (kind : String) (supply : Supply)
    (fits : Numeral.fits (g.addStep kind supply).1.order = true) (h : Graph) :
    h.stepFindings p (g.addStep kind supply).1 =
      .ok (if kind = StepKind.sql.name then [.atStep (g.addStep kind supply).1.order .sqlEmpty]
        else []) := by
  have tags : Placeholder.tags (g.addStep kind supply).1.content = [] := rfl
  rw [stepFindings_eq_ok_iff]
  refine ⟨fits, [], by rw [tags]; rfl, ?_⟩
  rw [fieldProblems_addStep]
  split
  · rfl
  · rfl

/-! ## The findings -/

/-- The findings about a flow, cut at the place of the one about its last step. -/
structure Cut (found front last back : List Finding) : Prop where
  whole : found = front ++ last ++ back
  front : ∀ f ∈ front, f = .duplicateOrders ∨ f = .severalFirstSteps
  last : last = [] ∨ last = [.lastNotConcat]
  back : ∀ f ∈ back, f = .queryEmpty ∨ ∃ order problem, f = .atStep order problem

/-- What a check finds in front of the place of the last step. -/
def frontFindings (g : Graph) (p : Profile) : List Finding :=
  (if hasRepeatedOrder g.steps then [.duplicateOrders] else [])
    ++ (if g.startIsSplit p then [.severalFirstSteps] else [])

/-- What a check finds behind that place. -/
def backFindings (g : Graph) (p : Profile) : List Finding :=
  (if p.iterates && Text.blank p.query then [.queryEmpty] else []) ++ g.steps.flatMap (g.report p)

theorem cut_of_findings {g : Graph} {p : Profile} {found : List Finding}
    (checked : g.findings p = .ok found) :
    Cut found (g.frontFindings p)
      (if (lastStep? g.steps).any (!·.isKind .concat) then [.lastNotConcat] else [])
      (g.backFindings p) where
  whole := by
    rw [findings_eq_reports checked, globalFindings, frontFindings, backFindings]
    simp only [List.append_assoc]
  front := by
    intro f hf
    rcases List.mem_append.mp hf with duplicate | several
    · split at duplicate
      · exact .inl (List.mem_singleton.mp duplicate)
      · cases duplicate
    · split at several
      · exact .inr (List.mem_singleton.mp several)
      · cases several
  last := by
    split
    · exact .inr rfl
    · exact .inl rfl
  back := by
    intro f hf
    rcases List.mem_append.mp hf with query | single
    · split at query
      · exact .inl (List.mem_singleton.mp query)
      · cases query
    · obtain ⟨n, -, reported⟩ := List.mem_flatMap.mp single
      obtain ⟨problem, rfl⟩ := exists_problem_of_report reported
      exact .inr ⟨n.order, problem, rfl⟩

section Extended

variable {g : Graph} {p : Profile} {n : Node} (fresh : n.id ∉ g.mentions) (step : n.isStart = false)

include fresh step

theorem frontFindings_extended (top : ∀ m ∈ g.nodes, m.order < n.order) :
    (g.extended n).frontFindings p = g.frontFindings p := by
  rw [frontFindings, frontFindings, hasRepeatedOrder_extended step top, startIsSplit, startIsSplit,
    edgesFromStart_extended fresh]

theorem backFindings_extended :
    (g.extended n).backFindings p = g.backFindings p ++ (g.extended n).report p n := by
  have others : g.steps.flatMap ((g.extended n).report p) = g.steps.flatMap (g.report p) := by
    refine List.flatMap_congr fun m _ => ?_
    rw [report, report, stepFindings_extended fresh]
  rw [backFindings, backFindings, steps_extended g step, List.flatMap_append, others,
    List.flatMap_singleton, List.append_assoc]

/-- A check that is not stopped is not stopped by a further step that does not stop it itself. -/
theorem findings_extended (top : ∀ m ∈ g.nodes, m.order < n.order) {found own : List Finding}
    (checked : g.findings p = .ok found) (single : (g.extended n).stepFindings p n = .ok own) :
    (g.extended n).findings p = .ok
      (g.frontFindings p ++ (if n.isKind .concat then [] else [.lastNotConcat]) ++
        g.backFindings p ++ own) := by
  have each : ∀ m ∈ (g.extended n).steps, ∃ list, (g.extended n).stepFindings p m = .ok list := by
    rw [steps_extended g step]
    intro m hm
    rcases List.mem_append.mp hm with old | new
    · rw [stepFindings_extended fresh]
      exact exists_findings_iff.mp ⟨found, checked⟩ m old
    · rw [List.mem_singleton.mp new]
      exact ⟨own, single⟩
  obtain ⟨later, again⟩ := exists_findings_iff.mpr each
  rw [again, (cut_of_findings again).whole, frontFindings_extended fresh step top,
    backFindings_extended fresh step, stepFindings_eq_report single, lastStep?_extended step top,
    Option.any_some, ← List.append_assoc]
  cases n.isKind .concat with
  | false => rfl
  | true => rfl

end Extended

/-- Below the limit, a step with a fresh id gets an order above all others. A check that was not
stopped is not stopped then, and finds what it found before, but for two findings: the last step is
no concatenation iff the new step is none, and the query of a new SQL step is empty. -/
theorem addStep_findings {g : Graph} {p : Profile} (kind : String) (supply : Supply)
    (short : ∀ n ∈ g.nodes, Numeral.Short n.order)
    (fresh : (g.addStep kind supply).1.id ∉ g.mentions) {found : List Finding}
    (checked : g.findings p = .ok found) :
    (∀ n ∈ g.nodes, n.order < (g.addStep kind supply).1.order) ∧
      ∃ front last back, Cut found front last back ∧
        (g.addStep kind supply).2.1.findings p = .ok
          (front ++ (if kind = StepKind.concat.name then [] else [.lastNotConcat]) ++ back ++
            if kind = StepKind.sql.name then [.atStep (g.addStep kind supply).1.order .sqlEmpty]
            else []) := by
  have top := g.order_lt_addStep kind supply
  have single := stepFindings_addStep g p kind supply (fits_next short)
  have isKind : (g.addStep kind supply).1.isKind .concat = true ↔ kind = StepKind.concat.name := by
    simp [addStep, Node.isKind]
  refine ⟨top, _, _, _, cut_of_findings checked, ?_⟩
  simp only [← isKind]
  exact findings_extended fresh rfl top checked (single _)

/-- Two steps of one id and one order, of which the first is a concatenation, an edge from nowhere,
and a start whose order is negative. -/
def ragged : Graph where
  nodes := [{ id := "a", order := 4, kind := some "concat" }, { Node.start with order := -3 },
    { id := "a", order := 4, content := "\x7b\x7bstep_4\x7d\x7d" }]
  edges := [⟨"1", "nowhere", "a"⟩, ⟨"1", "a", "elsewhere"⟩]

/-- The last step of this flow was a concatenation, and what is found about the others stays. -/
theorem ragged_addStep_findings :
    (∀ n ∈ ragged.nodes, Numeral.Short n.order) ∧
      (ragged.addStep "sql" .numbered).1.id ∉ ragged.mentions ∧
        ∃ front last back,
          Cut [.duplicateOrders, .atStep 4 (.notFed "step_4" 4)] front last back ∧
            (ragged.addStep "sql" .numbered).2.1.findings { name := "Ragged" } =
              .ok (front ++ [.lastNotConcat] ++ back ++ [.atStep 5 .sqlEmpty]) := by
  have short : ∀ n ∈ ragged.nodes, Numeral.Short n.order := by
    have small : ∀ n ∈ ragged.nodes, n.order.natAbs < 10 ^ 1 := by decide
    intro n hn
    exact Nat.lt_of_lt_of_le (small n hn) (Nat.pow_le_pow_right (by decide) (by decide))
  have fresh : (ragged.addStep "sql" .numbered).1.id ∉ ragged.mentions := by
    have apart : (ragged.addStep "sql" .numbered).1.id ∉ ragged.nodes.map (·.id) ∧
        ∀ pair ∈ ragged.pairs, ¬(pair.1 = (ragged.addStep "sql" .numbered).1.id ∨
          pair.2 = (ragged.addStep "sql" .numbered).1.id) := by decide +kernel
    rintro (node | ⟨pair, mem, ends⟩)
    · exact apart.1 node
    · exact apart.2 pair mem ends
  have checked : ragged.findings { name := "Ragged" } =
      .ok [.duplicateOrders, .atStep 4 (.notFed "step_4" 4)] := by decide +kernel
  obtain ⟨-, front, last, back, cut, later⟩ := addStep_findings "sql" .numbered short fresh checked
  exact ⟨short, fresh, front, last, back, cut, later⟩

end Graph

end Stepflow
