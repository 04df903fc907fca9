import Stepflow.Finding
import Stepflow.Proofs.Field

/-!
# What a check reads

A check looks at the profile of a flow, at its steps as a whole, and at each step together with
what feeds it. Two flows are compared step by step: a step is no worse off than another one
(`NoWorse`) if it has the same text and lacks nothing that the other one has. Then a check finds
nothing new about it.

Results:
1. `findings_eq_ok_iff`: the findings of a check that is not stopped.
2. `hasRepeatedOrder_eq_false_iff`: when no order comes twice.
3. `stepFindings_sublist`: nothing new is found about a step that is no worse off.
-/

namespace Stepflow

/-! ## The steps as a whole -/

theorem hasRepeatedOrder_eq_false_iff {nodes : List Node} :
    hasRepeatedOrder nodes = false ↔ (nodes.map (·.order)).Nodup := by
  induction nodes with
  | nil => simp [hasRepeatedOrder]
  | cons n rest ih =>
    rw [hasRepeatedOrder, Bool.or_eq_false_iff, ih, List.map_cons, List.nodup_cons]
    refine and_congr_left fun _ => ?_
    rw [List.any_eq_false, List.mem_map]
    simp

/-! ## Single steps -/

namespace Graph

section Checks

variable {g : Graph} {p : Profile}

theorem stepFindings_eq_ok_iff {n : Node} {found : List Finding} :
    g.stepFindings p n = .ok found ↔
      Numeral.fits n.order = true ∧ ∃ problems,
        (Placeholder.tags n.content).mapM (g.tagProblem p n) = .ok problems ∧
          (n.fieldProblems ++ problems.filterMap id).map (.atStep n.order) = found := by
  unfold stepFindings tagProblems
  cases fits : Numeral.fits n.order with
  | false => simp
  | true =>
    simp only [Bool.not_true, Bool.false_eq_true, if_false, true_and, bind_eq_ok_iff]
    constructor
    · rintro ⟨_, ⟨problems, checked, ⟨⟩⟩, ⟨⟩⟩
      exact ⟨problems, checked, rfl⟩
    · rintro ⟨problems, checked, rfl⟩
      exact ⟨_, ⟨problems, checked, rfl⟩, rfl⟩

theorem mem_globalFindings {f : Finding} :
    f ∈ g.globalFindings p ↔
      f = .duplicateOrders ∧ hasRepeatedOrder g.steps = true ∨
      f = .severalFirstSteps ∧ g.startIsSplit p = true ∨
      f = .lastNotConcat ∧ (∃ n, lastStep? g.steps = some n ∧ n.isKind .concat = false) ∨
      f = .queryEmpty ∧ p.iterates = true ∧ Text.blank p.query = true := by
  have one {rule : Prop} [Decidable rule] {finding : Finding} :
      f ∈ (if rule then [finding] else []) ↔ f = finding ∧ rule := by
    by_cases holds : rule <;> simp [holds]
  simp only [globalFindings, List.mem_append, one, or_assoc, Option.any_eq_true,
    Bool.not_eq_true', Bool.and_eq_true]

/-- A check that is not stopped has looked at every step. -/
theorem findings_eq_ok_iff {found : List Finding} :
    g.findings p = .ok found ↔
      ∃ lists, List.Forall₂ (fun n list => g.stepFindings p n = .ok list) g.steps lists ∧
        g.globalFindings p ++ lists.flatten = found := by
  simp only [findings, bind_eq_ok_iff, mapM_eq_ok_iff]
  refine exists_congr fun lists => and_congr_right fun _ => ?_
  exact ⟨Except.ok.inj, congrArg Except.ok⟩

section Checked

variable {found : List Finding} (checked : g.findings p = .ok found)

include checked

theorem globalFindings_subset : ∀ f ∈ g.globalFindings p, f ∈ found := by
  obtain ⟨lists, -, rfl⟩ := findings_eq_ok_iff.mp checked
  exact fun f hf => List.mem_append_left _ hf

theorem exists_stepFindings {n : Node} (hn : n ∈ g.steps) :
    ∃ list, g.stepFindings p n = .ok list ∧ ∀ f ∈ list, f ∈ found := by
  obtain ⟨lists, each, rfl⟩ := findings_eq_ok_iff.mp checked
  obtain ⟨list, mem, step⟩ := exists_of_forall₂ each.flip hn
  exact ⟨list, step, fun f hf => List.mem_append_right _ (List.mem_flatten.mpr ⟨list, mem, hf⟩)⟩

/-- A check goes through only if every order can be written. -/
theorem fits_of_findings {n : Node} (hn : n ∈ g.steps) : Numeral.fits n.order = true := by
  obtain ⟨list, step, -⟩ := exists_stepFindings checked hn
  exact (stepFindings_eq_ok_iff.mp step).1

/-- Orders that come twice are found. -/
theorem orders_nodup_of_findings (clear : .duplicateOrders ∉ found) :
    (g.steps.map (·.order)).Nodup := by
  rw [← hasRepeatedOrder_eq_false_iff, ← Bool.not_eq_true]
  intro again
  exact clear (globalFindings_subset checked _ (mem_globalFindings.mpr (.inl ⟨rfl, again⟩)))

/-- A time window that is incomplete is found. -/
theorem complete_of_findings {n : Node} (hn : n ∈ g.steps) (sql : n.isKind .sql = true)
    (clear : .atStep n.order .timeIncomplete ∉ found) : n.timeIncomplete = false := by
  obtain ⟨list, step, inside⟩ := exists_stepFindings checked hn
  obtain ⟨-, problems, -, rfl⟩ := stepFindings_eq_ok_iff.mp step
  rw [← Bool.not_eq_true]
  intro incomplete
  refine clear (inside _ (List.mem_map_of_mem (List.mem_append_left _ ?_)))
  simp [Node.fieldProblems, sql, incomplete]

end Checked

end Checks

/-- The step `m` of the flow `h` under `q` has the same text as the step `n` of the flow `g` under
`p`, and lacks nothing that a check found there. -/
structure NoWorse (g : Graph) (p : Profile) (n : Node) (h : Graph) (q : Profile) (m : Node) :
    Prop where
  order : m.order = n.order
  content : m.content = n.content
  sql : m.isKind .sql = n.isKind .sql
  window : n.isKind .sql = true → n.timeIncomplete = false → m.timeIncomplete = false
  iterates : q.iterates = p.iterates
  fedByStart : p.iterates = true → g.fedByStart n.id = true → h.fedByStart m.id = true
  feeders : ∀ s ∈ g.feeders n.id, ∃ t ∈ h.feeders m.id, t.order = s.order

namespace NoWorse

variable {g h : Graph} {p q : Profile} {n m : Node} (noWorse : NoWorse g p n h q m)

include noWorse

theorem tagProblem {tag : String} {problem : Option StepProblem}
    (checked : g.tagProblem p n tag = .ok problem) :
    ∃ later, h.tagProblem q m tag = .ok later ∧ (later = none ∨ later = problem) := by
  unfold Graph.tagProblem at checked ⊢
  cases reference : Placeholder.Reference.ofTag tag with
  | other => exact ⟨none, rfl, .inl rfl⟩
  | iteration =>
    simp only [reference, noWorse.iterates] at checked ⊢
    cases on : p.iterates with
    | false =>
      rw [on] at checked
      exact ⟨_, rfl, .inr (Except.ok.inj checked)⟩
    | true =>
      rw [on] at checked
      cases fed : h.fedByStart m.id with
      | true => exact ⟨none, rfl, .inl rfl⟩
      | false =>
        have notFed : g.fedByStart n.id = false := by
          rw [← Bool.not_eq_true]
          intro before
          rw [noWorse.fedByStart on before] at fed
          cases fed
        rw [notFed] at checked
        exact ⟨_, rfl, .inr (Except.ok.inj checked)⟩
  | step digits =>
    simp only [reference] at checked ⊢
    split at checked
    · cases checked
    · next short =>
      rw [if_neg short]
      cases fed : (h.feeders m.id).any (·.order == (Numeral.ofDigitValues digits : Int)) with
      | true => exact ⟨none, rfl, .inl rfl⟩
      | false =>
        have notFed : ¬(g.feeders n.id).any (·.order == (Numeral.ofDigitValues digits : Int)) := by
          rw [List.any_eq_true]
          rintro ⟨s, hs, order⟩
          obtain ⟨t, ht, same⟩ := noWorse.feeders s hs
          rw [List.any_eq_false] at fed
          exact fed t ht (same ▸ order)
        rw [if_neg notFed] at checked
        exact ⟨_, rfl, .inr (Except.ok.inj checked)⟩

theorem tagProblems {tags : List String} {problems : List (Option StepProblem)}
    (checked : tags.mapM (g.tagProblem p n) = .ok problems) :
    ∃ later, tags.mapM (h.tagProblem q m) = .ok later ∧
      (later.filterMap id).Sublist (problems.filterMap id) := by
  rw [mapM_eq_ok_iff] at checked
  simp only [mapM_eq_ok_iff]
  induction checked with
  | nil => exact ⟨[], .nil, .refl _⟩
  | cons head _ ih =>
    obtain ⟨later, now, less⟩ := noWorse.tagProblem head
    obtain ⟨others, rest, sublist⟩ := ih
    refine ⟨later :: others, .cons now rest, ?_⟩
    rcases less with rfl | rfl
    · exact sublist.trans (List.Sublist.filterMap id (List.sublist_cons_self _ _))
    · cases later with
      | none => exact sublist
      | some problem => exact sublist.cons_cons problem

theorem fieldProblems : m.fieldProblems.Sublist n.fieldProblems := by
  unfold Node.fieldProblems
  rw [noWorse.sql, noWorse.content]
  split
  · next sql =>
    refine List.Sublist.append (.refl _) ?_
    cases late : m.timeIncomplete with
    | false => exact List.nil_sublist _
    | true =>
      have before : n.timeIncomplete = true := by
        rw [← Bool.not_eq_false]
        intro complete
        rw [noWorse.window sql complete] at late
        cases late
      rw [before]
  · exact .refl _

/-- Nothing new is found about a step that is no worse off. -/
theorem stepFindings_sublist {found : List Finding} (checked : g.stepFindings p n = .ok found) :
    ∃ later, h.stepFindings q m = .ok later ∧ later.Sublist found := by
  obtain ⟨fits, problems, before, rfl⟩ := stepFindings_eq_ok_iff.mp checked
  obtain ⟨later, now, sublist⟩ := noWorse.tagProblems before
  refine ⟨_, stepFindings_eq_ok_iff.mpr ⟨noWorse.order ▸ fits, later, ?_, rfl⟩, ?_⟩
  · rw [noWorse.content]
    exact now
  · rw [noWorse.order]
    exact (noWorse.fieldProblems.append sublist).map _

end NoWorse

/-- Nothing new is found about a flow if nothing new is found about it as a whole and none of its
steps is worse off than a step was before. -/
theorem findings_subset {g h : Graph} {p q : Profile} {found : List Finding}
    (checked : g.findings p = .ok found)
    (whole : ∀ f ∈ h.globalFindings q, f ∈ g.globalFindings p)
    (steps : ∀ m ∈ h.steps, ∃ n ∈ g.steps, NoWorse g p n h q m) :
    ∃ later, h.findings q = .ok later ∧ ∀ f ∈ later, f ∈ found := by
  have single : ∀ m ∈ h.steps, ∃ list, h.stepFindings q m = .ok list ∧ ∀ f ∈ list, f ∈ found := by
    intro m hm
    obtain ⟨n, hn, noWorse⟩ := steps m hm
    obtain ⟨before, checkedStep, inside⟩ := exists_stepFindings checked hn
    obtain ⟨list, now, sublist⟩ := noWorse.stepFindings_sublist checkedStep
    exact ⟨list, now, fun f hf => inside f (sublist.subset hf)⟩
  obtain ⟨lists, now, inside⟩ := exists_mapM_eq_ok single
  refine ⟨_, findings_eq_ok_iff.mpr ⟨lists, mapM_eq_ok_iff.mp now, rfl⟩, ?_⟩
  intro f hf
  rcases List.mem_append.mp hf with global | step
  · exact globalFindings_subset checked f (whole f global)
  · obtain ⟨list, mem, hf⟩ := List.mem_flatten.mp step
    exact inside list mem f hf

end Graph

end Stepflow
