import Stepflow.Proofs.Export
import Stepflow.Proofs.Finding

/-!
# A check, step by step

A check that is not stopped is the list of the findings about the whole flow, followed by one
report for each step. A report is about its step alone: it shows the order of the step in its scope,
and it depends on the fields of the step, on the orders of what feeds it, and on whether a start
does.

Results:
1. `exists_findings_iff`, `findings_eq_reports`: a check is not stopped iff no report is, and what
   it finds then.
2. `findings_around`, `filter_reports`: the findings about one step, and those of one scope.
3. `stepFindings_congr`, `stepFindings_of_joins`: what a report depends on.
4. `unflagged_iff`: when nothing is found about the placeholders of a step.
-/

namespace Stepflow

/-! ## Scopes -/

theorem stepScope_write_inj {m n : Int} :
    stepScope (Numeral.write m) = stepScope (Numeral.write n) ↔ m = n := by
  refine ⟨fun same => ?_, congrArg fun n => stepScope (Numeral.write n)⟩
  have text := congrArg String.toList same
  simp only [stepScope, String.toList_append] at text
  exact Numeral.write_injective (String.toList_injective (List.append_cancel_left text))

namespace Graph

/-! ## Reports -/

/-- The report about a step; empty if the check is stopped there. -/
def report (g : Graph) (p : Profile) (n : Node) : List Finding :=
  (g.stepFindings p n).toOption.getD []

section Reports

variable {g : Graph} {p : Profile}

theorem stepFindings_eq_report {n : Node} {list : List Finding}
    (checked : g.stepFindings p n = .ok list) : g.report p n = list := by
  rw [report, checked]
  rfl

/-- A check is not stopped iff it is not stopped at any step. -/
theorem exists_findings_iff :
    (∃ found, g.findings p = .ok found) ↔
      ∀ n ∈ g.steps, ∃ list, g.stepFindings p n = .ok list := by
  constructor
  · rintro ⟨found, checked⟩ n hn
    obtain ⟨list, step, -⟩ := exists_stepFindings checked hn
    exact ⟨list, step⟩
  · intro each
    obtain ⟨lists, checked⟩ := exists_mapM_eq_ok_iff.mpr each
    exact ⟨_, findings_eq_ok_iff.mpr ⟨lists, mapM_eq_ok_iff.mp checked, rfl⟩⟩

/-- What a check finds: first about the whole flow, then about each step. -/
theorem findings_eq_reports {found : List Finding} (checked : g.findings p = .ok found) :
    found = g.globalFindings p ++ g.steps.flatMap (g.report p) := by
  obtain ⟨lists, each, rfl⟩ := findings_eq_ok_iff.mp checked
  have reports : lists = g.steps.map (g.report p) := by
    rw [← List.forall₂_eq_eq_eq, List.forall₂_map_right_iff]
    exact each.flip.imp fun _ _ step => (stepFindings_eq_report step).symm
  rw [reports, List.flatMap_def]

/-- What is found about a step stands behind what is found about the steps before it. -/
theorem findings_around {found : List Finding} (checked : g.findings p = .ok found)
    {before after : List Node} {n : Node} (split : g.steps = before ++ n :: after) :
    ∃ list, g.stepFindings p n = .ok list ∧
      found = g.globalFindings p ++ before.flatMap (g.report p) ++ list ++
        after.flatMap (g.report p) := by
  have inside : n ∈ g.steps := by
    rw [split]
    exact List.mem_append_right _ List.mem_cons_self
  obtain ⟨list, step⟩ := exists_findings_iff.mp ⟨found, checked⟩ n inside
  refine ⟨list, step, ?_⟩
  rw [findings_eq_reports checked, split, List.flatMap_append, List.flatMap_cons,
    stepFindings_eq_report step, ← List.append_assoc, ← List.append_assoc]

theorem exists_problem_of_report {n : Node} {f : Finding} (h : f ∈ g.report p n) :
    ∃ problem, f = .atStep n.order problem := by
  unfold report at h
  cases checked : g.stepFindings p n with
  | error overlong =>
    rw [checked] at h
    cases h
  | ok list =>
    rw [checked] at h
    obtain ⟨-, problems, -, rfl⟩ := stepFindings_eq_ok_iff.mp checked
    obtain ⟨problem, -, rfl⟩ := List.mem_map.mp h
    exact ⟨problem, rfl⟩

theorem scope_of_report {n : Node} {f : Finding} (h : f ∈ g.report p n) :
    f.scope = stepScope (Numeral.write n.order) := by
  obtain ⟨problem, rfl⟩ := exists_problem_of_report h
  rfl

/-- The findings of one scope come from the steps of one order. -/
theorem filter_reports (steps : List Node) (scope : String) :
    (steps.flatMap (g.report p)).filter (·.scope == scope) =
      (steps.filter fun n => stepScope (Numeral.write n.order) == scope).flatMap (g.report p) := by
  induction steps with
  | nil => rfl
  | cons n rest ih =>
    rw [List.flatMap_cons, List.filter_append, ih, List.filter_cons]
    split
    · next here =>
      rw [List.flatMap_cons, List.filter_eq_self.mpr]
      intro f hf
      rwa [scope_of_report hf]
    · next apart =>
      rw [List.filter_eq_nil_iff.mpr, List.nil_append]
      intro f hf
      rwa [scope_of_report hf]

end Reports

/-! ## What a report depends on -/

theorem any_feeders (g : Graph) (id : String) (k : Int) :
    (g.feeders id).any (·.order == k) = decide (k ∈ g.feederOrders id) := by
  rw [Bool.eq_iff_iff, decide_eq_true_iff, feederOrders, Dependencies.mem_ascending,
    List.any_eq_true, List.mem_map]
  simp only [beq_iff_eq]

section Congruence

variable {g h : Graph} {p q : Profile} {n m : Node} (iterates : q.iterates = p.iterates)
  (feeders : h.feederOrders m.id = g.feederOrders n.id)
  (fedByStart : h.fedByStart m.id = g.fedByStart n.id)

include iterates feeders fedByStart

theorem tagProblem_congr (tag : String) : h.tagProblem q m tag = g.tagProblem p n tag := by
  unfold tagProblem
  rw [iterates, fedByStart]
  simp only [any_feeders, feeders]

/-- The reports about two steps with the same fields and the same surroundings are the same. -/
theorem stepFindings_congr (order : m.order = n.order) (content : m.content = n.content)
    (fields : m.fieldProblems = n.fieldProblems) : h.stepFindings q m = g.stepFindings p n := by
  have tags : h.tagProblem q m = g.tagProblem p n :=
    funext (tagProblem_congr iterates feeders fedByStart)
  rw [stepFindings, stepFindings, tagProblems, tagProblems, order, content, fields, tags]

end Congruence

/-- Edges into other nodes do not come into a report. -/
theorem stepFindings_of_joins {g h : Graph} {n : Node} (p : Profile) (nodes : h.nodes = g.nodes)
    (into : ∀ source, h.Joins source n.id ↔ g.Joins source n.id) :
    h.stepFindings p n = g.stepFindings p n :=
  stepFindings_congr rfl (feederOrders_congr nodes into) (fedByStart_congr nodes into) rfl rfl rfl

end Graph

/-! ## Findings about placeholders -/

/-- A finding about a placeholder. -/
def Finding.ofPlaceholder : Finding → Bool
  | .atStep _ .iterationOff | .atStep _ .iterationNotFed | .atStep _ (.notFed _ _) => true
  | _ => false

/-- Nothing is found about placeholders in the scope of an order. -/
def Unflagged (found : List Finding) (order : Int) : Prop :=
  ∀ f ∈ found, f.scope = stepScope (Numeral.write order) → f.ofPlaceholder = false

namespace Graph

variable {g : Graph} {p : Profile} {n : Node}

theorem ofPlaceholder_of_tagProblem {tag : String} {problem : StepProblem} (order : Int)
    (h : g.tagProblem p n tag = .ok (some problem)) :
    (Finding.atStep order problem).ofPlaceholder = true := by
  unfold tagProblem at h
  cases reference : Placeholder.Reference.ofTag tag with
  | other => simp [reference] at h
  | iteration =>
    simp only [reference] at h
    split at h
    · cases h
      rfl
    · split at h
      · cases h
        rfl
      · cases h
  | step digits =>
    simp only [reference] at h
    split at h
    · cases h
    · split at h
      · cases h
      · cases h
        rfl

/-- A check gets past every tag that is not too long. -/
theorem exists_tagProblem {tag : String}
    (short : ∀ values, Placeholder.Reference.ofTag tag = .step values →
      values.length ≤ Numeral.maxDigits) : ∃ problem, g.tagProblem p n tag = .ok problem := by
  unfold tagProblem
  cases reference : Placeholder.Reference.ofTag tag with
  | other => exact ⟨_, rfl⟩
  | iteration =>
    simp only
    split
    · exact ⟨_, rfl⟩
    · split
      · exact ⟨_, rfl⟩
      · exact ⟨_, rfl⟩
  | step values =>
    simp only
    rw [if_neg (Nat.not_lt.mpr (short values reference))]
    split
    · exact ⟨_, rfl⟩
    · exact ⟨_, rfl⟩

theorem not_ofPlaceholder_of_fieldProblems {problem : StepProblem} (order : Int)
    (h : problem ∈ n.fieldProblems) : (Finding.atStep order problem).ofPlaceholder = false := by
  have either : problem = .sqlEmpty ∨ problem = .timeIncomplete := by
    unfold Node.fieldProblems at h
    split at h
    · rcases List.mem_append.mp h with empty | incomplete
      · split at empty
        · exact .inl (List.mem_singleton.mp empty)
        · cases empty
      · split at incomplete
        · exact .inr (List.mem_singleton.mp incomplete)
        · cases incomplete
    · cases h
  rcases either with rfl | rfl
  · rfl
  · rfl

theorem not_ofPlaceholder_of_globalFindings {f : Finding} (h : f ∈ g.globalFindings p) :
    f.ofPlaceholder = false := by
  rcases mem_globalFindings.mp h with ⟨rfl, -⟩ | ⟨rfl, -⟩ | ⟨rfl, -⟩ | ⟨rfl, -⟩
  · rfl
  · rfl
  · rfl
  · rfl

/-- A report holds something about placeholders iff a tag is at fault. -/
theorem forall_not_ofPlaceholder_iff {list : List Finding}
    (checked : g.stepFindings p n = .ok list) :
    (∀ f ∈ list, f.ofPlaceholder = false) ↔
      ∀ tag ∈ Placeholder.tags n.content, g.tagProblem p n tag = .ok none := by
  obtain ⟨-, problems, each, rfl⟩ := stepFindings_eq_ok_iff.mp checked
  rw [mapM_eq_ok_iff] at each
  constructor
  · intro clear tag mem
    obtain ⟨problem, inside, step⟩ := exists_of_forall₂ each.flip mem
    cases problem with
    | none => exact step
    | some problem =>
      have here : .atStep n.order problem ∈
          (n.fieldProblems ++ problems.filterMap id).map (Finding.atStep n.order) :=
        List.mem_map_of_mem (List.mem_append_right _ (List.mem_filterMap.mpr ⟨_, inside, rfl⟩))
      have flagged := ofPlaceholder_of_tagProblem n.order step
      rw [clear _ here] at flagged
      cases flagged
  · intro clear f hf
    obtain ⟨problem, mem, rfl⟩ := List.mem_map.mp hf
    rcases List.mem_append.mp mem with field | tagged
    · exact not_ofPlaceholder_of_fieldProblems n.order field
    · obtain ⟨found, inside, same⟩ := List.mem_filterMap.mp tagged
      obtain rfl : found = some problem := same
      obtain ⟨tag, hTag, step⟩ := exists_of_forall₂ each inside
      rw [clear tag hTag] at step
      cases step

/-- A check gets past a step without a tag at fault. -/
theorem exists_clear_stepFindings (fits : Numeral.fits n.order = true)
    (clear : ∀ tag ∈ Placeholder.tags n.content, g.tagProblem p n tag = .ok none) :
    ∃ list, g.stepFindings p n = .ok list ∧ ∀ f ∈ list, f.ofPlaceholder = false := by
  obtain ⟨problems, each⟩ := exists_mapM_eq_ok_iff.mpr fun tag mem => ⟨none, clear tag mem⟩
  have step := stepFindings_eq_ok_iff.mpr ⟨fits, problems, each, rfl⟩
  exact ⟨_, step, (forall_not_ofPlaceholder_iff step).mpr clear⟩

/-- A check finds no placeholder at fault in a step iff it finds no tag at fault. Other steps do not
come into it, since they have scopes of their own. -/
theorem unflagged_iff {found : List Finding} (orders : (g.steps.map (·.order)).Nodup)
    (checked : g.findings p = .ok found) (hn : n ∈ g.steps) :
    Unflagged found n.order ↔
      ∀ tag ∈ Placeholder.tags n.content, g.tagProblem p n tag = .ok none := by
  obtain ⟨list, step, inside⟩ := exists_stepFindings checked hn
  rw [← forall_not_ofPlaceholder_iff step]
  constructor
  · intro clear f hf
    refine clear f (inside f hf) (scope_of_report (g := g) (p := p) ?_)
    rwa [stepFindings_eq_report step]
  · intro clear f hf scope
    rw [findings_eq_reports checked] at hf
    rcases List.mem_append.mp hf with whole | single
    · exact not_ofPlaceholder_of_globalFindings whole
    · obtain ⟨m, hm, reported⟩ := List.mem_flatMap.mp single
      rw [scope_of_report reported, stepScope_write_inj] at scope
      obtain rfl : m = n := List.inj_on_of_nodup_map orders hm hn scope
      rw [stepFindings_eq_report step] at reported
      exact clear f reported

end Graph

end Stepflow
