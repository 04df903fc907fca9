import Stepflow.Proofs.Content
import Stepflow.Proofs.Sorting
import Stepflow.Proofs.Sound

/-!
# Setting a field of a node

Other nodes are known by their ids, their orders and their marks of a start. So setting a field of a
step, its order apart, changes nothing but the record of this step, what is found about it, and what
is found about the last step of the flow. A start carries the same fields as a step, but nobody
reads them.

Results:
1. `replaced_of_setField`, `Replaced.image`: the graph that comes out is an image of the one before.
2. `Replaced.record`, `Replaced.stepFindings`, `Replaced.globalFindings`: what the two share.
3. `setField_confined`: documents and findings together.
-/

namespace Stepflow

theorem NodeField.ne_order_of_ofName {name : String} {field : NodeField}
    (named : ofName name = .ok field) (other : name ≠ "sequence_order") : field ≠ .order := by
  rintro rfl
  unfold ofName at named
  split at named
  · cases named
  · split at named
    · next found =>
      cases named
      have hit := List.find?_some found
      exact other (eq_of_beq hit).symm
    · cases named

namespace Graph

/-- The graph `h` has the node `m` where `g` has the node `n`, and `m` cannot be told from `n` by
its id, its order or its mark of a start. -/
structure Replaced (n m : Node) (g h : Graph) : Prop where
  distinct : (g.nodes.map (·.id)).Nodup
  mem : n ∈ g.nodes
  sameId : m.id = n.id
  sameOrder : m.order = n.order
  sameStart : m.isStart = n.isStart
  nodes : h.nodes = g.nodes.map m.replacedBy
  edges : h.edges = g.edges

/-- What setting a field makes of a graph whose ids differ, if the order of the node is kept. -/
theorem replaced_of_setField {g h : Graph} (distinct : (g.nodes.map (·.id)).Nodup)
    {id name : String} {value : Json} {m : Node}
    (done : g.setField id name value = .ok (some (m, h))) :
    ∃ n, g.node? id = some n ∧
      (n.isStart = true ∨ name ≠ "sequence_order" → Replaced n m g h) := by
  obtain ⟨n, field, named, found, set, allowed, rfl⟩ := setField_cases done
  obtain ⟨sameId, sameStart, sameOrder⟩ := Node.set_frame set
  refine ⟨n, found, fun kept => ?_⟩
  have apart : field ≠ .order := by
    rcases kept with start | other
    · exact fun order => allowed ⟨start, order⟩
    · exact NodeField.ne_order_of_ofName named other
  exact ⟨distinct, mem_of_node? found, sameId, sameOrder apart, sameStart,
    replaceFirst_eq_map m distinct, rfl⟩

namespace Replaced

variable {n m : Node} {g h : Graph} (replaced : Replaced n m g h)

include replaced

theorem replacedBy_self : m.replacedBy n = m :=
  if_pos replaced.sameId.symm

/-- A node is left alone or it is the one that is replaced. -/
theorem replacedBy_cases {k : Node} (hk : k ∈ g.nodes) : k = n ∨ m.replacedBy k = k := by
  by_cases here : k.id = n.id
  · exact .inl (eq_of_id_eq replaced.distinct hk replaced.mem here)
  · exact .inr (Node.replacedBy_of_ne (replaced.sameId ▸ here))

theorem image : Image id m.replacedBy g h := by
  have kept {α : Type} (read : Node → α) (same : read m = read n) :
      ∀ k ∈ g.nodes, read (m.replacedBy k) = read k := by
    intro k hk
    rcases replaced.replacedBy_cases hk with rfl | alone
    · rw [replaced.replacedBy_self, same]
    · rw [alone]
  exact ⟨Set.injOn_id _, kept (·.id) replaced.sameId, kept (·.order) replaced.sameOrder,
    kept (·.isStart) replaced.sameStart, .of_eq replaced.nodes,
    .of_eq (by simp [pairs, replaced.edges])⟩

theorem steps : h.steps = g.steps.map m.replacedBy := by
  rw [Graph.steps, Graph.steps, replaced.nodes, List.filter_map]
  refine congrArg (List.map m.replacedBy) (List.filter_congr fun k hk => ?_)
  rw [Function.comp_apply, replaced.image.start k hk]

theorem sortedSteps : h.sortedSteps = g.sortedSteps.map m.replacedBy := by
  rw [Graph.sortedSteps, Graph.sortedSteps, replaced.steps]
  exact sortByOrder_map fun k hk => replaced.image.order k (mem_steps.mp hk).1

/-! ## What the two share -/

theorem feederOrders {k : Node} (hk : k ∈ g.nodes) : h.feederOrders k.id = g.feederOrders k.id :=
  replaced.image.feederOrders (id_mem_mentions hk)

theorem fedByStart {k : Node} (hk : k ∈ g.nodes) : h.fedByStart k.id = g.fedByStart k.id :=
  replaced.image.fedByStart replaced.distinct (id_mem_mentions hk)

theorem record {k : Node} (hk : k ∈ g.nodes) : h.record k = g.record k := by
  rw [Graph.record, Graph.record, dependsOn, dependsOn, replaced.feederOrders hk]

theorem stepFindings (p : Profile) {k : Node} (hk : k ∈ g.nodes) :
    h.stepFindings p k = g.stepFindings p k :=
  stepFindings_congr rfl (replaced.feederOrders hk) (replaced.fedByStart hk) rfl rfl rfl

theorem iterableOrders : h.iterableOrders = g.iterableOrders := by
  rw [iterableOrders_eq, iterableOrders_eq, replaced.sortedSteps, List.filter_map, List.map_map]
  have inside {k : Node} (hk : k ∈ g.sortedSteps) : k ∈ g.nodes :=
    (mem_steps.mp (mem_sortedSteps.mp hk)).1
  have same : ∀ k ∈ g.sortedSteps,
      ((fun k => h.fedByStart k.id) ∘ m.replacedBy) k = g.fedByStart k.id := by
    intro k hk
    rw [Function.comp_apply, replaced.image.id k (inside hk)]
    exact replaced.fedByStart (inside hk)
  rw [List.filter_congr same]
  exact List.map_congr_left fun k hk =>
    replaced.image.order k (inside (List.mem_filter.mp hk).1)

/-- What is found about the flow as a whole, its last step apart, does not depend on the fields. -/
theorem globalFindings (p : Profile) :
    (h.globalFindings p).filter (· != .lastNotConcat) =
      (g.globalFindings p).filter (· != .lastNotConcat) := by
  have last (holds : Bool) :
      (if holds then [Finding.lastNotConcat] else []).filter (· != .lastNotConcat) = [] := by
    cases holds with
    | false => rfl
    | true => rfl
  rw [Graph.globalFindings, Graph.globalFindings, replaced.image.hasRepeatedOrder,
    replaced.image.startIsSplit replaced.distinct]
  simp only [List.filter_append, last]

/-! ## A start -/

section Start

variable (start : n.isStart = true)

include start

theorem steps_of_start : h.steps = g.steps := by
  rw [replaced.steps]
  refine map_replacedBy_of_not_mem fun mem => ?_
  obtain ⟨k, hk, same⟩ := List.mem_map.mp mem
  obtain ⟨inside, step⟩ := mem_steps.mp hk
  rw [eq_of_id_eq replaced.distinct inside replaced.mem (same.trans replaced.sameId), start] at step
  cases step

theorem document_of_start (p : Profile) : h.document p = g.document p := by
  have sorted : h.sortedSteps = g.sortedSteps := by
    rw [Graph.sortedSteps, Graph.sortedSteps, replaced.steps_of_start start]
  have records : h.sortedSteps.map h.record = g.sortedSteps.map g.record := by
    rw [sorted]
    exact List.map_congr_left fun k hk => replaced.record (mem_steps.mp (mem_sortedSteps.mp hk)).1
  rw [Graph.document, Graph.document, replaced.iterableOrders, records]

theorem findings_of_start (p : Profile) : h.findings p = g.findings p := by
  have whole : h.globalFindings p = g.globalFindings p := by
    rw [Graph.globalFindings, Graph.globalFindings, replaced.steps_of_start start,
      replaced.image.startIsSplit replaced.distinct]
  have single : g.steps.mapM (h.stepFindings p) = g.steps.mapM (g.stepFindings p) :=
    mapM_congr fun k hk => replaced.stepFindings p (mem_steps.mp hk).1
  rw [Graph.findings, Graph.findings, replaced.steps_of_start start, single, whole]

end Start

/-! ## A step -/

section Step

variable (step : n.isStart = false)

omit replaced in
theorem map_replacedBy_around (same : m.id = n.id) {front back : List Node}
    (others : ∀ k ∈ front ++ back, k ∈ g.steps ∧ k.id ≠ n.id) :
    (front ++ n :: back).map m.replacedBy = front ++ m :: back := by
  have alone {list : List Node} (within : list ⊆ front ++ back) : list.map m.replacedBy = list :=
    map_replacedBy_of_not_mem fun mem => by
      obtain ⟨k, hk, here⟩ := List.mem_map.mp mem
      exact (others k (within hk)).2 (here.trans same)
  rw [List.map_append, List.map_cons, alone (List.subset_append_left _ _),
    alone (List.subset_append_right _ _), Node.replacedBy, if_pos same.symm]

include step

/-- The record of the step is in its place, and all else is as it was. -/
theorem document_of_step (p : Profile) :
    ∃ before after, (g.document p).steps = before ++ g.record n :: after ∧
      h.document p = { g.document p with steps := before ++ h.record m :: after } := by
  obtain ⟨front, back, split, others⟩ :=
    sortedSteps_around replaced.distinct (mem_steps.mpr ⟨replaced.mem, step⟩)
  have sorted : h.sortedSteps = front ++ m :: back := by
    rw [replaced.sortedSteps, split, map_replacedBy_around replaced.sameId others]
  have kept {list : List Node} (within : list ⊆ front ++ back) :
      list.map h.record = list.map g.record :=
    List.map_congr_left fun k hk => replaced.record (mem_steps.mp (others k (within hk)).1).1
  refine ⟨front.map g.record, back.map g.record, ?_, ?_⟩
  · rw [Graph.document, split, List.map_append, List.map_cons]
  · rw [Graph.document, Graph.document, replaced.iterableOrders, sorted, List.map_append,
      List.map_cons, kept (List.subset_append_left _ _), kept (List.subset_append_right _ _)]

/-- The findings about the step are in their place, and so are those about other steps. -/
theorem findings_of_step {p : Profile} {found later : List Finding}
    (checked : g.findings p = .ok found) (again : h.findings p = .ok later) :
    ∃ front own changed back, g.stepFindings p n = .ok own ∧ h.stepFindings p m = .ok changed ∧
      found = g.globalFindings p ++ front ++ own ++ back ∧
      later = h.globalFindings p ++ front ++ changed ++ back := by
  have distinct : (g.steps.map (·.id)).Nodup :=
    replaced.distinct.sublist (List.filter_sublist.map _)
  obtain ⟨front, back, split, others⟩ :=
    exists_around distinct (mem_steps.mpr ⟨replaced.mem, step⟩)
  have split' : h.steps = front ++ m :: back := by
    rw [replaced.steps, split, map_replacedBy_around replaced.sameId others]
  have reports {list : List Node} (within : list ⊆ front ++ back) :
      list.flatMap (h.report p) = list.flatMap (g.report p) := by
    refine List.flatMap_congr fun k hk => ?_
    rw [report, report, replaced.stepFindings p (mem_steps.mp (others k (within hk)).1).1]
  obtain ⟨own, single, whole⟩ := findings_around checked split
  obtain ⟨changed, single', whole'⟩ := findings_around again split'
  rw [reports (List.subset_append_left _ _), reports (List.subset_append_right _ _)] at whole'
  exact ⟨_, own, changed, _, single, single', whole, whole'⟩

end Step

end Replaced

/-- The graph `h` has `m` in the place of the step `n` of `g`, and this is seen only where the step
itself is looked at: in its record, in what is found about it, and in what is found about the last
step of the flow. -/
structure Confined (p : Profile) (n m : Node) (g h : Graph) : Prop where
  document : ∃ before after, (g.document p).steps = before ++ g.record n :: after ∧
    h.document p = { g.document p with steps := before ++ h.record m :: after }
  others : ∀ k ∈ g.steps, k ≠ n → k ∈ h.steps ∧ h.stepFindings p k = g.stepFindings p k
  whole : (h.globalFindings p).filter (· != .lastNotConcat) =
    (g.globalFindings p).filter (· != .lastNotConcat)
  findings : ∀ found later, g.findings p = .ok found → h.findings p = .ok later →
    ∃ front own changed back, g.stepFindings p n = .ok own ∧ h.stepFindings p m = .ok changed ∧
      found = g.globalFindings p ++ front ++ own ++ back ∧
      later = h.globalFindings p ++ front ++ changed ++ back

theorem Replaced.confined {n m : Node} {g h : Graph} (replaced : Replaced n m g h)
    (step : n.isStart = false) (p : Profile) : Confined p n m g h where
  document := replaced.document_of_step step p
  others := by
    intro k hk other
    have inside := (mem_steps.mp hk).1
    have alone := (replaced.replacedBy_cases inside).resolve_left other
    refine ⟨?_, replaced.stepFindings p inside⟩
    rw [replaced.steps, ← alone]
    exact List.mem_map_of_mem hk
  whole := replaced.globalFindings p
  findings := fun _ _ checked again => replaced.findings_of_step step checked again

/-- Where ids differ, setting a field of a start changes neither the document nor what is found. Any
field of a step but its order can be set, and all other steps look the same. -/
theorem setField_confined {g h : Graph} (ids : (g.nodes.map (·.id)).Nodup) {id name : String}
    {value : Json} {m : Node} (done : g.setField id name value = .ok (some (m, h))) (p : Profile) :
    ∃ n, g.node? id = some n ∧
      (n.isStart = true → h.document p = g.document p ∧ h.findings p = g.findings p) ∧
        (n.isStart = false → name ≠ "sequence_order" → Confined p n m g h) := by
  obtain ⟨n, found, replaced⟩ := replaced_of_setField ids done
  refine ⟨n, found, fun start => ?_, fun step other => ?_⟩
  · have kept := replaced (.inl start)
    exact ⟨kept.document_of_start start p, kept.findings_of_start start p⟩
  · exact (replaced (.inr other)).confined step p

/-- Two steps, of which the last one feeds the first one and itself. -/
def duo : Graph where
  nodes := [Node.start, { id := "a", order := 2, kind := some "concat" },
    { id := "b", order := 1, content := "\x7b\x7bstep_2\x7d\x7d" }]
  edges := [⟨"1", "start", "b"⟩, ⟨"2", "a", "b"⟩, ⟨"3", "a", "a"⟩]

/-- The last step gets another kind, and the start gets the content of a step. -/
theorem duo_confined :
    (∃ m h, duo.setField "a" "step_type" (.str "sql") = .ok (some (m, h)) ∧
      Confined { name := "Duo" } { id := "a", order := 2, kind := some "concat" } m duo h) ∧
      ∃ m h, duo.setField "start" "content" (.str "\x7b\x7bstep_9\x7d\x7d") = .ok (some (m, h)) ∧
        h.findings { name := "Duo" } = duo.findings { name := "Duo" } := by
  have ids : (duo.nodes.map (·.id)).Nodup := by decide
  constructor
  · obtain ⟨n, found, -, step⟩ := setField_confined ids
      (show duo.setField "a" "step_type" (.str "sql") = .ok (some (_, _)) from rfl) { name := "Duo" }
    cases found
    exact ⟨_, _, rfl, step rfl (by decide)⟩
  · obtain ⟨n, found, start, -⟩ := setField_confined ids
      (show duo.setField "start" "content" (.str "\x7b\x7bstep_9\x7d\x7d") =
        .ok (some (_, _)) from rfl) { name := "Duo" }
    cases found
    exact ⟨_, _, rfl, (start rfl).2⟩

end Graph

end Stepflow
