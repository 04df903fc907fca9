import Stepflow.Proofs.Complete

/-!
# Placeholders reach one step back

A placeholder for the output of a step is right iff an edge leads straight from a step of that order
into the step that holds it. Steps further back do not come into it, nor do starts that happen to
have the order. The same goes for the value of the iteration and edges from a start. So edges into
other nodes can be drawn and erased at will, and nothing changes about what is found here.

Results:
1. `filter_ofPlaceholder`: what is found about the placeholders of a step, tag by tag.
2. `Finds.of_edges`: what is found about a step under other edges.
3. `findings_oneHop`: both together.
-/

namespace Stepflow.Graph

/-- A check that is not stopped finds `list` about the step, among all that it finds. -/
def Finds (g : Graph) (p : Profile) (s : Node) (list : List Finding) : Prop :=
  g.stepFindings p s = .ok list ∧ ∃ front back, g.findings p = .ok (front ++ list ++ back)

/-- The verdict on a tag says what is wrong with it, if anything is. -/
def Verdict (g : Graph) (p : Profile) (s : Node) (tag : String) (verdict : Option StepProblem) :
    Prop :=
  ∀ problem, verdict = some problem ↔ g.TagFault p s tag problem

variable {g : Graph} {p : Profile} {s : Node} {list : List Finding}

theorem exists_finds {found : List Finding} (checked : g.findings p = .ok found)
    (hs : s ∈ g.steps) : ∃ list, g.Finds p s list := by
  obtain ⟨before, after, split⟩ := List.append_of_mem hs
  obtain ⟨list, step, whole⟩ := findings_around checked split
  exact ⟨list, step, g.globalFindings p ++ before.flatMap (g.report p),
    after.flatMap (g.report p), whole ▸ checked⟩

/-- The findings about the placeholders of a step are the verdicts on its tags, one by one. -/
theorem filter_ofPlaceholder (checked : g.stepFindings p s = .ok list) :
    ∃ verdicts, List.Forall₂ (g.Verdict p s) (Placeholder.tags s.content) verdicts ∧
      list.filter (·.ofPlaceholder) = (verdicts.filterMap id).map (.atStep s.order) := by
  obtain ⟨-, problems, each, rfl⟩ := stepFindings_eq_ok_iff.mp checked
  rw [mapM_eq_ok_iff] at each
  refine ⟨problems, each.imp fun tag verdict step problem => tagProblem_eq_some_iff step, ?_⟩
  have fields : ∀ f ∈ s.fieldProblems.map (Finding.atStep s.order), ¬f.ofPlaceholder = true := by
    intro f hf
    obtain ⟨problem, mem, rfl⟩ := List.mem_map.mp hf
    rw [not_ofPlaceholder_of_fieldProblems s.order mem]
    exact Bool.false_ne_true
  have tagged : ∀ f ∈ (problems.filterMap id).map (Finding.atStep s.order),
      f.ofPlaceholder = true := by
    intro f hf
    obtain ⟨problem, mem, rfl⟩ := List.mem_map.mp hf
    obtain ⟨verdict, inside, rfl⟩ := List.mem_filterMap.mp mem
    obtain ⟨tag, -, step⟩ := exists_of_forall₂ each inside
    exact ofPlaceholder_of_tagProblem s.order step
  rw [List.map_append, List.filter_append, List.filter_eq_nil_iff.mpr fields,
    List.filter_eq_self.mpr tagged, List.nil_append]

/-- What is found about a step stays the same as long as the edges into it do. -/
theorem Finds.of_edges (finds : g.Finds p s list) (hs : s ∈ g.steps) {edges : List Edge}
    (into : ∀ e, e.target = s.id → (e ∈ edges ↔ e ∈ g.edges)) :
    ({ g with edges } : Graph).Finds p s list := by
  obtain ⟨step, front, back, checked⟩ := finds
  have joins (source : String) :
      ({ g with edges } : Graph).Joins source s.id ↔ g.Joins source s.id :=
    exists_congr fun e => and_congr_left fun ends => into e ends.2
  have nodes : ({ g with edges } : Graph).nodes = g.nodes := rfl
  have same : ({ g with edges } : Graph).stepFindings p s = .ok list :=
    (stepFindings_of_joins p nodes joins).trans step
  -- What stops a check is in the orders and the contents of steps, so edges do not matter.
  obtain ⟨later, again⟩ : ∃ later, ({ g with edges } : Graph).findings p = .ok later := by
    have steps : ({ g with edges } : Graph).steps = g.steps := rfl
    rw [exists_findings_iff_short, steps, ← exists_findings_iff_short]
    exact ⟨_, checked⟩
  obtain ⟨others, finds⟩ := exists_finds again hs
  rw [finds.1] at same
  exact Except.ok.inj same ▸ finds

/-- What a check that is not stopped finds about the placeholders of a step are the verdicts on its
distinct tags, in the order in which the tags are seen first, and a tag is judged by the edges into
the step. Whatever is done to other edges, the check is not stopped, and finds the same about the
step. -/
theorem findings_oneHop {found : List Finding} (checked : g.findings p = .ok found)
    (hs : s ∈ g.steps) :
    Placeholder.FirstSeen ((Placeholder.allTags s.content.toList).map String.ofList)
        (Placeholder.tags s.content) ∧
      ∃ list, g.Finds p s list ∧
        (∃ verdicts, List.Forall₂ (g.Verdict p s) (Placeholder.tags s.content) verdicts ∧
          list.filter (·.ofPlaceholder) = (verdicts.filterMap id).map (.atStep s.order)) ∧
        ∀ edges, (∀ e, e.target = s.id → (e ∈ edges ↔ e ∈ g.edges)) →
          ({ g with edges } : Graph).Finds p s list := by
  obtain ⟨list, finds⟩ := exists_finds checked hs
  exact ⟨Placeholder.firstSeen_tags s.content, list, finds, filter_ofPlaceholder finds.1,
    fun edges into => finds.of_edges hs into⟩

/-- The step at the end of `relay`. -/
def relayEnd : Node :=
  { id := "c", order := 3, kind := some "llm"
    content := "\x7b\x7bstep_02\x7d\x7d \x7b\x7bstep_1\x7d\x7d " ++
      "\x7b\x7biteration_value\x7d\x7d \x7b\x7bstep_1\x7d\x7d \x7b\x7bx\x7d\x7d" }

/-- Three steps in a line behind a start. A second start, whose order is that of the first step,
leads to the last one. -/
def relay : Graph where
  nodes := [Node.start, { id := "other", order := 1, isStart := true }, relayEnd,
    { id := "b", order := 2 }, { id := "a", order := 1 }]
  edges := [⟨"1", "start", "a"⟩, ⟨"2", "a", "b"⟩, ⟨"3", "b", "c"⟩, ⟨"4", "other", "c"⟩]

/-- The first step is out of reach for the last one, whether or not a line of edges leads there. -/
theorem relay_oneHop :
    relay.findings { name := "Relay" } =
        .ok [.severalFirstSteps, .lastNotConcat, .atStep 3 (.notFed "step_1" 1),
          .atStep 3 .iterationOff] ∧
      relayEnd ∈ relay.steps ∧
        ∃ list, relay.Finds { name := "Relay" } relayEnd list ∧
          ({ relay with edges := [⟨"4", "other", "c"⟩, ⟨"3", "b", "c"⟩] } : Graph).Finds
            { name := "Relay" } relayEnd list := by
  have checked : relay.findings { name := "Relay" } =
      .ok [.severalFirstSteps, .lastNotConcat, .atStep 3 (.notFed "step_1" 1),
        .atStep 3 .iterationOff] := by decide +kernel
  have hs : relayEnd ∈ relay.steps := by decide
  obtain ⟨-, list, finds, -, apart⟩ := findings_oneHop checked hs
  refine ⟨checked, hs, list, finds, apart _ fun e into => ?_⟩
  have ends : e.target = "c" := into
  constructor
  · intro mem
    simp only [List.mem_cons, List.not_mem_nil, or_false] at mem
    rcases mem with rfl | rfl
    · decide
    · decide
  · intro mem
    simp only [relay, List.mem_cons, List.not_mem_nil, or_false] at mem
    rcases mem with rfl | rfl | rfl | rfl
    · exact absurd ends (by decide)
    · exact absurd ends (by decide)
    · decide
    · decide

end Stepflow.Graph
