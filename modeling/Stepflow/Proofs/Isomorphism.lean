import Stepflow.Proofs.Image
import Stepflow.Proofs.LastStep

/-!
# Ids and places do not matter

Ids are names that nobody reads: a graph may carry other ids, and may store its nodes and edges in
other places, and still has the same document and the same findings. Only two things about places
are seen from outside. Steps of one order must stay in their order, since sorting is stable and the
first of the last steps counts as the last one. And the findings about steps come in the order of
the steps.

An id stands for the first node that carries it, so ids that are carried twice are left out here.

Results:
1. `Recast.document_eq`, `Recast.globalFindings`, `Recast.stepFindings`: what a graph and its recast
   form share.
2. `recast_indistinguishable`: documents and findings together.
-/

namespace Stepflow

def Node.renamed (rename : String → String) (n : Node) : Node :=
  { n with id := rename n.id }

namespace Graph

/-- The graph `h` is the graph `g` with its ids renamed and no two of them made one, with any ids
for its edges, and with nodes and edges in other places. Steps of one order stay in their order. -/
structure Recast (rename : String → String) (g h : Graph) : Prop where
  apart : Set.InjOn rename g.mentions
  nodes : h.nodes.Perm (g.nodes.map (·.renamed rename))
  places : ∀ k, h.steps.filter (·.order == k) =
    (g.steps.filter (·.order == k)).map (·.renamed rename)
  edges : h.pairs.Perm (g.pairs.map (Prod.map rename rename))

namespace Recast

variable {rename : String → String} {g h : Graph} (recast : Recast rename g h)

include recast

theorem image : Image rename (·.renamed rename) g h :=
  ⟨recast.apart, fun _ _ => rfl, fun _ _ => rfl, fun _ _ => rfl, recast.nodes, recast.edges⟩

/-! ## The document -/

theorem sortedSteps : h.sortedSteps = g.sortedSteps.map (·.renamed rename) := by
  refine eq_of_filter_eq (sortByOrder_pairwise _) ?_ fun k => ?_
  · rw [List.pairwise_map]
    exact sortByOrder_pairwise _
  · rw [Graph.sortedSteps, filter_sortByOrder, recast.places, List.filter_map]
    refine congrArg (List.map _) ?_
    exact (filter_sortByOrder g.steps k).symm

theorem record {n : Node} (hn : n ∈ g.steps) : h.record (n.renamed rename) = g.record n := by
  have feeders : h.feederOrders (n.renamed rename).id = g.feederOrders n.id :=
    recast.image.feederOrders (id_mem_mentions (mem_steps.mp hn).1)
  rw [Graph.record, Graph.record, dependsOn, dependsOn, feeders]
  rfl

variable (distinct : (g.nodes.map (·.id)).Nodup)

include distinct

theorem fedByStart {n : Node} (hn : n ∈ g.steps) :
    h.fedByStart (n.renamed rename).id = g.fedByStart n.id :=
  recast.image.fedByStart distinct (id_mem_mentions (mem_steps.mp hn).1)

theorem iterableOrders : h.iterableOrders = g.iterableOrders := by
  rw [iterableOrders_eq, iterableOrders_eq, recast.sortedSteps, List.filter_map, List.map_map]
  have same : ∀ n ∈ g.sortedSteps,
      ((fun m => h.fedByStart m.id) ∘ (·.renamed rename)) n = g.fedByStart n.id := fun n hn =>
    recast.fedByStart distinct (mem_sortedSteps.mp hn)
  rw [List.filter_congr same]
  rfl

theorem document_eq (p : Profile) : h.document p = g.document p := by
  have records : h.sortedSteps.map h.record = g.sortedSteps.map g.record := by
    rw [recast.sortedSteps, List.map_map]
    exact List.map_congr_left fun n hn => recast.record (mem_sortedSteps.mp hn)
  rw [document, document, recast.iterableOrders distinct, records]

/-! ## The findings -/

theorem stepFindings (p : Profile) {n : Node} (hn : n ∈ g.steps) :
    h.stepFindings p (n.renamed rename) = g.stepFindings p n :=
  stepFindings_congr rfl (recast.image.feederOrders (id_mem_mentions (mem_steps.mp hn).1))
    (recast.fedByStart distinct hn) rfl rfl rfl

omit distinct in
theorem lastStep? : lastStep? h.steps = (lastStep? g.steps).map (·.renamed rename) := by
  have places : Stepflow.lastStep? h.steps =
      Stepflow.lastStep? (g.steps.map (·.renamed rename)) := by
    refine lastStep?_of_filter_eq fun k => ?_
    rw [recast.places, List.filter_map]
    rfl
  have pairs : List.Forall₂ (fun n m => n.order = m.order ∧ n.renamed rename = m) g.steps
      (g.steps.map (·.renamed rename)) := by
    rw [List.forall₂_map_right_iff, List.forall₂_same]
    exact fun n _ => ⟨rfl, rfl⟩
  rw [places, map_lastStep? (k := id) pairs, Option.map_id_apply]

theorem globalFindings (p : Profile) : h.globalFindings p = g.globalFindings p := by
  rw [Graph.globalFindings, Graph.globalFindings, recast.image.hasRepeatedOrder,
    recast.image.startIsSplit distinct, recast.lastStep?, Option.any_map]
  rfl

/-- The reports about the steps of `h` are those about the steps of `g`, in other places. -/
theorem reports (p : Profile) {steps : List Node} (inside : ∀ n ∈ steps, n ∈ g.steps) :
    (steps.map (·.renamed rename)).flatMap (h.report p) = steps.flatMap (g.report p) := by
  rw [List.flatMap_map, List.flatMap_def, List.flatMap_def]
  refine congrArg List.flatten (List.map_congr_left fun n hn => ?_)
  rw [report, report, recast.stepFindings distinct p (inside n hn)]

omit distinct in
/-- Steps of one scope stay in their order, since they are those of one order. -/
theorem filter_scope (scope : String) :
    (h.steps.filter fun n => stepScope (Numeral.write n.order) == scope) =
      (g.steps.filter fun n => stepScope (Numeral.write n.order) == scope).map
        (·.renamed rename) := by
  by_cases named : ∃ k : Int, stepScope (Numeral.write k) = scope
  · obtain ⟨k, rfl⟩ := named
    have one : (fun n : Node => stepScope (Numeral.write n.order) == stepScope (Numeral.write k)) =
        (·.order == k) := by
      funext n
      rw [Bool.eq_iff_iff, beq_iff_eq, beq_iff_eq, stepScope_write_inj]
    rw [one]
    exact recast.places k
  · have unnamed (steps : List Node) :
        (steps.filter fun n => stepScope (Numeral.write n.order) == scope) = [] := by
      rw [List.filter_eq_nil_iff]
      intro n _ same
      exact named ⟨n.order, eq_of_beq same⟩
    rw [unnamed, unnamed]
    rfl

/-- What is found about `h` is what is found about `g`, with the steps in another order. -/
theorem findings_perm (p : Profile) {found later : List Finding}
    (checked : g.findings p = .ok found) (again : h.findings p = .ok later) :
    later.Perm found := by
  rw [findings_eq_reports checked, findings_eq_reports again, recast.globalFindings distinct]
  refine List.Perm.append_left _ ?_
  rw [← recast.reports distinct p fun _ => id]
  exact recast.image.steps.flatMap_right _

/-- Nothing changes about the findings of one scope. -/
theorem findings_filter (p : Profile) {found later : List Finding}
    (checked : g.findings p = .ok found) (again : h.findings p = .ok later) (scope : String) :
    later.filter (·.scope == scope) = found.filter (·.scope == scope) := by
  rw [findings_eq_reports checked, findings_eq_reports again, recast.globalFindings distinct,
    List.filter_append, List.filter_append, filter_reports, filter_reports, recast.filter_scope,
    recast.reports distinct p fun n hn => (List.mem_filter.mp hn).1]

theorem exists_findings_iff (p : Profile) :
    (∃ later, h.findings p = .ok later) ↔ ∃ found, g.findings p = .ok found := by
  rw [Graph.exists_findings_iff, Graph.exists_findings_iff]
  constructor
  · intro each n hn
    obtain ⟨list, step⟩ := each _ (recast.image.mem_steps.mpr ⟨n, hn, rfl⟩)
    exact ⟨list, recast.stepFindings distinct p hn ▸ step⟩
  · intro each m hm
    obtain ⟨n, hn, rfl⟩ := recast.image.mem_steps.mp hm
    rw [recast.stepFindings distinct p hn]
    exact each n hn

end Recast

/-- A graph whose ids differ and its recast form have the same document. A check is stopped at both
of them or at neither, and then it finds the same about both: the same list in every scope, that of
the whole flow included, the same list about every step, and all in all the same findings. -/
theorem recast_indistinguishable {rename : String → String} {g h : Graph}
    (distinct : (g.nodes.map (·.id)).Nodup) (recast : Recast rename g h) (p : Profile) :
    h.document p = g.document p ∧
      (∀ n ∈ g.steps, h.stepFindings p (n.renamed rename) = g.stepFindings p n) ∧
      ((∃ later, h.findings p = .ok later) ↔ ∃ found, g.findings p = .ok found) ∧
      ∀ found later, g.findings p = .ok found → h.findings p = .ok later →
        later.Perm found ∧
          ∀ scope, later.filter (·.scope == scope) = found.filter (·.scope == scope) := by
  refine ⟨recast.document_eq distinct p, fun n hn => recast.stepFindings distinct p hn,
    recast.exists_findings_iff distinct p, fun found later checked again => ?_⟩
  exact ⟨recast.findings_perm distinct p checked again,
    recast.findings_filter distinct p checked again⟩

/-- A circle of steps, two of them of one order, with an edge from nowhere. -/
def circle : Graph where
  nodes := [Node.start, { id := "a", order := 2, kind := some "sql" },
    { id := "b", order := 1, content := "\x7b\x7bstep_3\x7d\x7d" },
    { id := "c", order := 2, kind := some "concat", content := "\x7b\x7bstep_7\x7d\x7d" }]
  edges := [⟨"1", "start", "a"⟩, ⟨"2", "a", "b"⟩, ⟨"3", "b", "c"⟩, ⟨"4", "c", "a"⟩,
    ⟨"5", "nowhere", "b"⟩]

/-- The circle, stored the other way about. -/
def circleRecast : Graph where
  nodes := [{ id := "n-b", order := 1, content := "\x7b\x7bstep_3\x7d\x7d" },
    { id := "n-a", order := 2, kind := some "sql" },
    { id := "n-c", order := 2, kind := some "concat", content := "\x7b\x7bstep_7\x7d\x7d" },
    { Node.start with id := "n-start" }]
  edges := [⟨"", "n-nowhere", "n-b"⟩, ⟨"", "n-c", "n-a"⟩, ⟨"", "n-b", "n-c"⟩, ⟨"", "n-a", "n-b"⟩,
    ⟨"", "n-start", "n-a"⟩]

theorem recast_circle : Recast ("n-" ++ ·) circle circleRecast where
  apart := fun a _ b _ same => by simpa using same
  nodes := by decide
  places := by
    intro k
    by_cases one : k = 1
    · subst one
      decide
    · by_cases two : k = 2
      · subst two
        decide
      · have neither : ∀ g ∈ [circle, circleRecast], ∀ n ∈ g.steps, n.order = 1 ∨ n.order = 2 := by
          decide
        rw [List.filter_eq_nil_iff.mpr, List.filter_eq_nil_iff.mpr, List.map_nil]
        · intro n hn same
          have := neither circle (by simp) n hn
          simp at same
          omega
        · intro n hn same
          have := neither circleRecast (by simp) n hn
          simp at same
          omega
  edges := by decide

theorem circle_indistinguishable :
    circleRecast.document { name := "Circle" } = circle.document { name := "Circle" } ∧
      ∃ found later, circle.findings { name := "Circle" } = .ok found ∧
        circleRecast.findings { name := "Circle" } = .ok later ∧ later.Perm found := by
  have distinct : (circle.nodes.map (·.id)).Nodup := by decide
  obtain ⟨same, -, checked, found⟩ :=
    recast_indistinguishable distinct recast_circle { name := "Circle" }
  have before : ∃ found, circle.findings { name := "Circle" } = .ok found :=
    ⟨[.duplicateOrders, .lastNotConcat, .atStep 2 .sqlEmpty, .atStep 1 (.notFed "step_3" 3),
      .atStep 2 (.notFed "step_7" 7)], by decide +kernel⟩
  obtain ⟨later, again⟩ := checked.mpr before
  obtain ⟨first, here⟩ := before
  exact ⟨same, first, later, here, again, (found first later here again).1⟩

end Graph

end Stepflow
