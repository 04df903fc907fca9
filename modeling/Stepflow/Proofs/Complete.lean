import Stepflow.Proofs.Clear
import Stepflow.Proofs.Image
import Stepflow.Proofs.LastStep
import Stepflow.Proofs.Placeholder
import Stepflow.Proofs.Report

/-!
# Complete checks

What a check ought to find is said rule by rule: `TagFault` about a tag in the content of a step,
`StepFault` about a step, `Faulty` about a flow. These are relations, so a fault is there whether or
not a check gets as far as finding it.

A check that is not stopped finds all faults and nothing else. It is stopped by a step tag with too
many digits, and the content of a step can be any text (`Draft.sevens_stopped`).

Results:
1. `tagProblem_eq_some_iff`, `mem_stepFindings`, `mem_findings`: what is found are the faults.
2. `exists_stepFindings_iff`: the one thing in a step that stops a check.
3. `Draft.findings_complete_iff`: when a check of a draft gives back the complete list.
-/

namespace Stepflow

/-! ## Tags with too many digits -/

namespace Placeholder

/-- A tag of a step with more digits than a numeral may have, in any script. -/
def Lengthy (tag : String) : Prop :=
  ∃ digits, tag = "step_" ++ digits ∧ (∀ c ∈ digits.toList, (Text.digitValue? c).isSome) ∧
    Numeral.maxDigits < digits.length

theorem lengthy_iff {tag : String} :
    Lengthy tag ↔
      ∃ values, Reference.ofTag tag = .step values ∧ Numeral.maxDigits < values.length := by
  simp only [ofTag_eq_step_iff, stepDigits?_eq_some_iff, Lengthy, ← Numeral.isSome_mapM_iff]
  simp only [Option.isSome_iff_exists]
  constructor
  · rintro ⟨digits, text, ⟨values, read⟩, long⟩
    have filled : digits ≠ "" := by
      rintro rfl
      cases long
    exact ⟨values, ⟨digits, text, filled, read⟩, by rwa [Numeral.length_of_mapM read]⟩
  · rintro ⟨values, ⟨digits, text, -, read⟩, long⟩
    rw [Numeral.length_of_mapM read] at long
    exact ⟨digits, text, ⟨values, read⟩, long⟩

instance : DecidablePred Lengthy := fun tag =>
  decidable_of_iff ((stepDigits? tag).any fun values => Numeral.maxDigits < values.length) <| by
    simp only [lengthy_iff, ofTag_eq_step_iff, Option.any_eq_true, decide_eq_true_eq]

/-- A step tag with the given number of digits. -/
def sevens (count : Nat) : String :=
  "step_" ++ String.ofList (List.replicate count '7')

theorem lengthy_sevens {count : Nat} (long : Numeral.maxDigits < count) :
    Lengthy (sevens count) := by
  refine ⟨_, rfl, fun c hc => ?_, ?_⟩
  · rw [String.toList_ofList] at hc
    rw [List.eq_of_mem_replicate hc]
    decide
  · rwa [String.length_ofList, List.length_replicate]

theorem not_mem_sevens {count : Nat} {c : Char} (front : c ∉ "step_".toList) (seven : c ≠ '7') :
    c ∉ (sevens count).toList := by
  rw [sevens, String.toList_append, List.mem_append, not_or,
    String.toList_ofList (l := List.replicate count '7')]
  exact ⟨front, fun mem => seven (List.eq_of_mem_replicate mem)⟩

end Placeholder

/-! ## Faults -/

namespace Graph

inductive TagFault (g : Graph) (p : Profile) (n : Node) (tag : String) : StepProblem → Prop
  | iterationOff : tag = Placeholder.iterationTag → p.iterates = false →
      TagFault g p n tag .iterationOff
  | iterationNotFed : tag = Placeholder.iterationTag → p.iterates = true →
      (∀ source, g.isStart source = true → ¬g.Joins source n.id) →
      TagFault g p n tag .iterationNotFed
  | notFed {digits : String} {values : List Nat} : tag = "step_" ++ digits → digits ≠ "" →
      digits.toList.mapM Text.digitValue? = some values →
      (∀ s ∈ g.steps, g.Joins s.id n.id → s.order ≠ Numeral.ofDigitValues values) →
      TagFault g p n tag (.notFed tag (Numeral.ofDigitValues values))

inductive StepFault (g : Graph) (p : Profile) (n : Node) : StepProblem → Prop
  | sqlEmpty : n.isKind .sql = true → Text.blank n.content = true → StepFault g p n .sqlEmpty
  | timeIncomplete : n.isKind .sql = true → n.timeIncomplete = true →
      StepFault g p n .timeIncomplete
  | tag {tag : String} {problem : StepProblem} : tag ∈ Placeholder.tags n.content →
      g.TagFault p n tag problem → StepFault g p n problem

inductive Faulty (g : Graph) (p : Profile) : Finding → Prop
  | duplicateOrders : ¬(g.steps.map (·.order)).Nodup → Faulty g p .duplicateOrders
  | severalFirstSteps : p.iterates = false → 1 < g.edgesFromStart.length →
      Faulty g p .severalFirstSteps
  | lastNotConcat {before after : List Node} {n : Node} : g.steps = before ++ n :: after →
      (∀ m ∈ before, m.order < n.order) → (∀ m ∈ after, m.order ≤ n.order) →
      n.isKind .concat = false → Faulty g p .lastNotConcat
  | queryEmpty : p.iterates = true → Text.blank p.query = true → Faulty g p .queryEmpty
  | atStep {n : Node} {problem : StepProblem} : n ∈ g.steps → g.StepFault p n problem →
      Faulty g p (.atStep n.order problem)

variable {g : Graph} {p : Profile} {n : Node}

/-- What is found about a tag is what is wrong with it. -/
theorem tagProblem_eq_some_iff {tag : String} {found : Option StepProblem} {problem : StepProblem}
    (checked : g.tagProblem p n tag = .ok found) :
    found = some problem ↔ g.TagFault p n tag problem := by
  unfold tagProblem at checked
  constructor
  · rintro rfl
    cases reference : Placeholder.Reference.ofTag tag with
    | other =>
      simp only [reference] at checked
      cases checked
    | iteration =>
      have tagged := Placeholder.ofTag_eq_iteration_iff.mp reference
      simp only [reference] at checked
      split at checked
      · next off =>
        cases checked
        exact .iterationOff tagged (by simpa using off)
      · next on =>
        split at checked
        · next notFed =>
          cases checked
          refine .iterationNotFed tagged (by simpa using on) fun source start joins => ?_
          rw [fedByStart_iff_joins.mpr ⟨source, start, joins⟩] at notFed
          cases notFed
        · cases checked
    | step values =>
      obtain ⟨digits, text, filled, read⟩ :=
        Placeholder.stepDigits?_eq_some_iff.mp (Placeholder.ofTag_eq_step_iff.mp reference)
      simp only [reference] at checked
      split at checked
      · cases checked
      · split at checked
        · cases checked
        · next notFed =>
          cases checked
          refine .notFed text filled read fun s hs joins same => notFed ?_
          exact List.any_eq_true.mpr ⟨s, mem_feeders.mpr ⟨hs, joins⟩, by simpa using same⟩
  · intro fault
    cases fault with
    | iterationOff tagged off =>
      simp only [Placeholder.ofTag_eq_iteration_iff.mpr tagged, off] at checked
      exact (Except.ok.inj checked).symm
    | iterationNotFed tagged on apart =>
      have notFed : g.fedByStart n.id = false := by
        rw [← Bool.not_eq_true, fedByStart_iff_joins]
        rintro ⟨source, start, joins⟩
        exact apart source start joins
      simp only [Placeholder.ofTag_eq_iteration_iff.mpr tagged, on, notFed] at checked
      exact (Except.ok.inj checked).symm
    | notFed text filled read apart =>
      have reference := Placeholder.ofTag_eq_step_iff.mpr
        (Placeholder.stepDigits?_eq_some_iff.mpr ⟨_, text, filled, read⟩)
      simp only [reference] at checked
      split at checked
      · cases checked
      · rw [if_neg] at checked
        · exact (Except.ok.inj checked).symm
        · rw [List.any_eq_true]
          rintro ⟨s, fed, same⟩
          obtain ⟨hs, joins⟩ := mem_feeders.mp fed
          exact apart s hs joins (eq_of_beq same)

/-- The problems with the fields of a step are those of its faults that are not about a tag. -/
theorem mem_fieldProblems {problem : StepProblem} :
    problem ∈ n.fieldProblems ↔
      problem = .sqlEmpty ∧ n.isKind .sql = true ∧ Text.blank n.content = true ∨
        problem = .timeIncomplete ∧ n.isKind .sql = true ∧ n.timeIncomplete = true := by
  cases sql : n.isKind .sql <;> simp [Node.fieldProblems, sql, and_comm]

/-- What is found about a step is what is wrong with it. -/
theorem mem_stepFindings {list : List Finding} (checked : g.stepFindings p n = .ok list)
    {f : Finding} :
    f ∈ list ↔ ∃ problem, g.StepFault p n problem ∧ .atStep n.order problem = f := by
  obtain ⟨-, problems, each, rfl⟩ := stepFindings_eq_ok_iff.mp checked
  rw [mapM_eq_ok_iff] at each
  rw [List.mem_map]
  refine exists_congr fun problem => and_congr_left fun _ => ?_
  rw [List.mem_append, mem_fieldProblems, List.mem_filterMap]
  constructor
  · rintro ((⟨rfl, sql, empty⟩ | ⟨rfl, sql, incomplete⟩) | ⟨_, mem, rfl⟩)
    · exact .sqlEmpty sql empty
    · exact .timeIncomplete sql incomplete
    · obtain ⟨tag, inside, step⟩ := exists_of_forall₂ each mem
      exact .tag inside ((tagProblem_eq_some_iff step).mp rfl)
  · intro fault
    cases fault with
    | sqlEmpty sql empty => exact .inl (.inl ⟨rfl, sql, empty⟩)
    | timeIncomplete sql incomplete => exact .inl (.inr ⟨rfl, sql, incomplete⟩)
    | tag inside fault =>
      obtain ⟨found, mem, step⟩ := exists_of_forall₂ each.flip inside
      exact .inr ⟨found, mem, (tagProblem_eq_some_iff step).mpr fault⟩

/-- What is found about the whole flow is what is wrong with it. -/
theorem faulty_iff {f : Finding} :
    g.Faulty p f ↔ f ∈ g.globalFindings p ∨
      ∃ n ∈ g.steps, ∃ problem, g.StepFault p n problem ∧ .atStep n.order problem = f := by
  have again : hasRepeatedOrder g.steps = true ↔ ¬(g.steps.map (·.order)).Nodup := by
    rw [← hasRepeatedOrder_eq_false_iff, Bool.not_eq_false]
  have several : g.startIsSplit p = true ↔ p.iterates = false ∧ 1 < g.edgesFromStart.length := by
    simp [startIsSplit]
  rw [mem_globalFindings, again, several]
  constructor
  · intro fault
    cases fault with
    | duplicateOrders twice => exact .inl (.inl ⟨rfl, twice⟩)
    | severalFirstSteps off many => exact .inl (.inr (.inl ⟨rfl, off, many⟩))
    | lastNotConcat split lower upper other =>
      have last := lastStep?_eq_some_iff.mpr ⟨_, _, split, lower, upper⟩
      exact .inl (.inr (.inr (.inl ⟨rfl, _, last, other⟩)))
    | queryEmpty on blank => exact .inl (.inr (.inr (.inr ⟨rfl, on, blank⟩)))
    | atStep hn fault => exact .inr ⟨_, hn, _, fault, rfl⟩
  · rintro ((⟨rfl, twice⟩ | ⟨rfl, off, many⟩ | ⟨rfl, n, last, other⟩ | ⟨rfl, on, blank⟩) |
      ⟨n, hn, problem, fault, rfl⟩)
    · exact .duplicateOrders twice
    · exact .severalFirstSteps off many
    · obtain ⟨before, after, split, lower, upper⟩ := lastStep?_eq_some_iff.mp last
      exact .lastNotConcat split lower upper other
    · exact .queryEmpty on blank
    · exact .atStep hn fault

/-- A check that is not stopped finds all faults and nothing else. -/
theorem mem_findings {found : List Finding} (checked : g.findings p = .ok found) {f : Finding} :
    f ∈ found ↔ g.Faulty p f := by
  have each := exists_findings_iff.mp ⟨found, checked⟩
  rw [faulty_iff, findings_eq_reports checked, List.mem_append, List.mem_flatMap]
  refine or_congr_right (exists_congr fun n => and_congr_right fun hn => ?_)
  obtain ⟨list, step⟩ := each n hn
  rw [stepFindings_eq_report step, mem_stepFindings step]

/-! ## What stops a check -/

/-- A tag stops a check iff it has too many digits. -/
theorem exists_tagProblem_iff {tag : String} :
    (∃ found, g.tagProblem p n tag = .ok found) ↔ ¬Placeholder.Lengthy tag := by
  rw [Placeholder.lengthy_iff]
  constructor
  · rintro ⟨found, checked⟩ ⟨values, reference, long⟩
    simp only [tagProblem, reference, if_pos long] at checked
    cases checked
  · intro short
    refine exists_tagProblem fun values reference => Nat.not_lt.mp fun long => ?_
    exact short ⟨values, reference, long⟩

/-- A step stops a check iff its order cannot be written or one of its tags has too many digits. -/
theorem exists_stepFindings_iff :
    (∃ list, g.stepFindings p n = .ok list) ↔
      Numeral.fits n.order = true ∧
        ∀ tag ∈ Placeholder.tags n.content, ¬Placeholder.Lengthy tag := by
  have tags : (∃ problems, (Placeholder.tags n.content).mapM (g.tagProblem p n) = .ok problems) ↔
      ∀ tag ∈ Placeholder.tags n.content, ¬Placeholder.Lengthy tag := by
    rw [exists_mapM_eq_ok_iff]
    exact forall₂_congr fun tag _ => exists_tagProblem_iff
  rw [← tags]
  constructor
  · rintro ⟨list, checked⟩
    obtain ⟨fits, problems, each, -⟩ := stepFindings_eq_ok_iff.mp checked
    exact ⟨fits, problems, each⟩
  · rintro ⟨fits, problems, each⟩
    exact ⟨_, stepFindings_eq_ok_iff.mpr ⟨fits, problems, each, rfl⟩⟩

/-- Nothing else stops a check. -/
theorem exists_findings_iff_short :
    (∃ found, g.findings p = .ok found) ↔
      ∀ n ∈ g.steps, Numeral.fits n.order = true ∧
        ∀ tag ∈ Placeholder.tags n.content, ¬Placeholder.Lengthy tag := by
  rw [exists_findings_iff]
  exact forall₂_congr fun n _ => exists_stepFindings_iff

end Graph

namespace Draft

/-- A check of a draft gives back the complete list of faults iff no tag of a step has too many
digits, whatever else the content of the steps may be. -/
theorem findings_complete_iff (d : Draft)
    (fits : ∀ n ∈ d.graph.steps, Numeral.fits n.order = true) :
    (∃ found, d.findings = .ok found ∧ ∀ f, f ∈ found ↔ d.graph.Faulty d.profile f) ↔
      ∀ n ∈ d.graph.steps, ∀ tag ∈ Placeholder.tags n.content, ¬Placeholder.Lengthy tag := by
  have stopped : (∃ found, d.findings = .ok found) ↔
      ∀ n ∈ d.graph.steps, ∀ tag ∈ Placeholder.tags n.content, ¬Placeholder.Lengthy tag := by
    rw [findings, Graph.exists_findings_iff_short]
    exact forall₂_congr fun n hn => and_iff_right (fits n hn)
  rw [← stopped]
  exact exists_congr fun found => and_iff_left_of_imp fun checked f => Graph.mem_findings checked

/-- A new draft with one step, whose content is set to a text. -/
def holding (content : String) : Draft :=
  edited [.addStep "sql", .setField "node-00000002" "content" (.str content)]

theorem steps_holding (content : String) :
    (holding content).graph.steps =
      [{ id := "node-00000002", label := "New SQL Step", order := 1, kind := some "sql",
         content }] :=
  rfl

theorem holding_complete :
    ∃ found, (holding (Placeholder.write "step_007")).findings = .ok found ∧
      ∀ f, f ∈ found ↔ (holding (Placeholder.write "step_007")).graph.Faulty
        (holding (Placeholder.write "step_007")).profile f :=
  (findings_complete_iff _ (by decide +kernel)).mpr (by decide +kernel)

/-- Content that no check gets past can be set like any other. -/
theorem sevens_stopped :
    (∀ n ∈ (holding (Placeholder.write (Placeholder.sevens 4301))).graph.steps,
      Numeral.fits n.order = true) ∧
        ¬∃ found, (holding (Placeholder.write (Placeholder.sevens 4301))).findings = .ok found := by
  rw [findings, Graph.exists_findings_iff_short, steps_holding]
  refine ⟨?_, fun short => ?_⟩
  · rw [List.forall_mem_singleton]
    decide +kernel
  · refine (short _ List.mem_cons_self).2 _ (Placeholder.mem_tags_write ?_ ?_)
      (Placeholder.lengthy_sevens (by decide))
    · exact Placeholder.not_mem_sevens (by decide) (by decide)
    · exact Placeholder.not_mem_sevens (by decide) (by decide)

end Draft

end Stepflow
