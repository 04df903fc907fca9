import Stepflow.Proofs.Complete

/-!
# Further edges bring no findings

Of an edge into a step, a check can only find that it is missing. Of the edges from a start it can
also find that they are too many. So edges that leave no start can be put anywhere among the others,
and whatever is found then was found before, in the same order. It does not matter whether these
edges double others, lead from a step back to itself or into a start, or dangle.

Results:
1. `Thickened.noWorse`: no step is worse off for further edges.
2. `Thickened.findings_sublist`: what is found among further edges was found without them.
3. `findings_antitone`: the same for edges that are drawn and edges that are erased.
-/

namespace Stepflow

/-- Lists that are parts of others, one by one, make up a part of what the others make up. -/
theorem flatMap_sublist {α β : Type} {f g : α → List β} {items : List α}
    (each : ∀ a ∈ items, (f a).Sublist (g a)) : (items.flatMap f).Sublist (items.flatMap g) := by
  induction items with
  | nil => exact .slnil
  | cons a rest ih =>
    obtain ⟨head, tail⟩ := List.forall_mem_cons.mp each
    rw [List.flatMap_cons, List.flatMap_cons]
    exact head.append (ih tail)

namespace Graph

/-- The graph `h` is the graph `g` with further edges among the others, in any places. The source of
none of them stands for a start. -/
structure Thickened (g h : Graph) : Prop where
  nodes : h.nodes = g.nodes
  edges : ∃ further, h.edges.Perm (g.edges ++ further) ∧ ∀ e ∈ further, g.isStart e.source = false

namespace Thickened

variable {g h : Graph} (thickened : Thickened g h)

include thickened

theorem steps : h.steps = g.steps := by
  rw [Graph.steps, Graph.steps, thickened.nodes]

theorem joins {source target : String} (old : g.Joins source target) : h.Joins source target := by
  obtain ⟨further, edges, -⟩ := thickened.edges
  obtain ⟨e, he, ends⟩ := old
  exact ⟨e, edges.mem_iff.mpr (List.mem_append_left _ he), ends⟩

/-- A start leads where it led before. -/
theorem joins_start_iff {source target : String} (start : g.isStart source = true) :
    h.Joins source target ↔ g.Joins source target := by
  refine ⟨?_, thickened.joins⟩
  obtain ⟨further, edges, apart⟩ := thickened.edges
  rintro ⟨e, he, rfl, rfl⟩
  rcases List.mem_append.mp (edges.mem_iff.mp he) with old | new
  · exact ⟨e, old, rfl, rfl⟩
  · rw [apart e new] at start
    cases start

theorem fedByStart (id : String) : h.fedByStart id = g.fedByStart id := by
  rw [Bool.eq_iff_iff, fedByStart_iff_joins, fedByStart_iff_joins, isStart_congr thickened.nodes]
  exact exists_congr fun source => and_congr_right thickened.joins_start_iff

theorem edgesFromStart_length : h.edgesFromStart.length = g.edgesFromStart.length := by
  obtain ⟨further, edges, apart⟩ := thickened.edges
  have none : further.filter (fun e => g.isStart e.source) = [] := by
    rw [List.filter_eq_nil_iff]
    intro e he
    rw [apart e he]
    exact Bool.false_ne_true
  rw [edgesFromStart, edgesFromStart, isStart_congr thickened.nodes, (edges.filter _).length_eq,
    List.filter_append, none, List.append_nil]

theorem globalFindings (p : Profile) : h.globalFindings p = g.globalFindings p := by
  rw [Graph.globalFindings, Graph.globalFindings, startIsSplit, startIsSplit, thickened.steps,
    thickened.edgesFromStart_length]

/-- What fed a step feeds it still. -/
theorem noWorse (p : Profile) (n : Node) : NoWorse g p n h p n where
  order := rfl
  content := rfl
  sql := rfl
  window := fun _ complete => complete
  iterates := rfl
  fedByStart := fun _ fed => (thickened.fedByStart n.id).trans fed
  feeders := by
    intro s hs
    obtain ⟨step, joined⟩ := mem_feeders.mp hs
    exact ⟨s, mem_feeders.mpr ⟨thickened.steps ▸ step, thickened.joins joined⟩, rfl⟩

/-- What stops a check is in the steps. -/
theorem exists_findings_iff (p : Profile) :
    (∃ later, h.findings p = .ok later) ↔ ∃ found, g.findings p = .ok found := by
  rw [exists_findings_iff_short, exists_findings_iff_short, thickened.steps]

/-- Further edges that leave no start bring no new finding, and leave those that stay in place. -/
theorem findings_sublist {p : Profile} {found later : List Finding}
    (checked : g.findings p = .ok found) (again : h.findings p = .ok later) :
    later.Sublist found := by
  have each := Graph.exists_findings_iff.mp ⟨found, checked⟩
  rw [findings_eq_reports checked, findings_eq_reports again, thickened.globalFindings,
    thickened.steps]
  refine (List.Sublist.refl _).append (flatMap_sublist fun n hn => ?_)
  obtain ⟨before, step⟩ := each n hn
  obtain ⟨after, now, sublist⟩ := (thickened.noWorse p n).stepFindings_sublist step
  rwa [stepFindings_eq_report step, stepFindings_eq_report now]

end Thickened

/-! ## Drawing and erasing -/

section Edits

variable {g h : Graph}

/-- An edge that is drawn from a step is a further edge, unless it is there already. -/
theorem thickened_of_connect {source target : String} {iterates : Bool} {s t : Supply} {e : Edge}
    (apart : g.isStart source = false)
    (done : g.connect source target iterates s = .ok (e, h, t)) : Thickened g h := by
  obtain ⟨-, -, -, -, -, linked⟩ := connect_cases done
  have result : (g.link source target s).2 = (h, t) := congrArg Prod.snd linked
  rcases link_cases g source target s with ⟨-, same⟩ | ⟨-, added⟩
  · cases same.symm.trans result
    exact ⟨rfl, [], by rw [List.append_nil], List.forall_mem_nil _⟩
  · cases added.symm.trans result
    exact ⟨rfl, _, .refl _, List.forall_mem_singleton.mpr apart⟩

/-- Edges that are erased are further edges of the graph that is left. -/
theorem thickened_of_disconnect {id : String}
    (apart : ∀ e ∈ g.edges, e.id = id → g.isStart e.source = false)
    (done : g.disconnect? id = some h) : Thickened h g := by
  unfold disconnect? at done
  split at done
  · cases done
    refine ⟨rfl, g.edges.filter (!·.id != id), (List.filter_append_perm _ _).symm, ?_⟩
    intro e he
    obtain ⟨inside, erased⟩ := List.mem_filter.mp he
    exact apart e inside (by simpa using erased)
  · cases done

end Edits

/-- Edges that leave no start can be put anywhere among the others: the check is not stopped, and
what it finds is a part of what it found before, in the same order. So drawing an edge from a step
creates no finding, and erasing edges from steps removes none. -/
theorem findings_antitone {g : Graph} {p : Profile} {found : List Finding}
    (checked : g.findings p = .ok found) :
    (∀ h, g.Thickened h → ∃ later, h.findings p = .ok later ∧ later.Sublist found) ∧
      (∀ source target iterates s e h t, g.isStart source = false →
        g.connect source target iterates s = .ok (e, h, t) →
          ∃ later, h.findings p = .ok later ∧ later.Sublist found) ∧
      ∀ id h, (∀ e ∈ g.edges, e.id = id → g.isStart e.source = false) →
        g.disconnect? id = some h → ∃ earlier, h.findings p = .ok earlier ∧ found.Sublist earlier := by
  have more (h : Graph) (thickened : g.Thickened h) :
      ∃ later, h.findings p = .ok later ∧ later.Sublist found := by
    obtain ⟨later, again⟩ := (thickened.exists_findings_iff p).mpr ⟨found, checked⟩
    exact ⟨later, again, thickened.findings_sublist checked again⟩
  refine ⟨more, fun source target iterates s e h t apart done => ?_, fun id h apart done => ?_⟩
  · exact more h (thickened_of_connect apart done)
  · have thickened := thickened_of_disconnect apart done
    obtain ⟨earlier, before⟩ := (thickened.exists_findings_iff p).mp ⟨found, checked⟩
    exact ⟨earlier, before, thickened.findings_sublist before checked⟩

/-- The start leads to a step twice, and a later step asks for three steps that do not feed it. The
first id stands for a step, although a start carries it as well. -/
def sparse : Graph where
  nodes := [Node.start, { id := "a", order := 1 },
    { id := "b", order := 2, kind := some "sql"
      content := "\x7b\x7bstep_1\x7d\x7d \x7b\x7bstep_2\x7d\x7d \x7b\x7bstep_3\x7d\x7d" },
    { id := "c", order := 3, kind := some "concat" }, { id := "a", order := 0, isStart := true }]
  edges := [⟨"1", "start", "a"⟩, ⟨"2", "start", "a"⟩, ⟨"3", "c", "b"⟩]

/-- The edges of `sparse` among others: two of one pair, one from a step to itself, one into a start,
and two that dangle. -/
def thicket : Graph :=
  { sparse with
    edges := [⟨"4", "a", "b"⟩, ⟨"1", "start", "a"⟩, ⟨"5", "b", "b"⟩, ⟨"5", "b", "b"⟩,
      ⟨"6", "nowhere", "b"⟩, ⟨"2", "start", "a"⟩, ⟨"3", "c", "b"⟩, ⟨"7", "c", "elsewhere"⟩,
      ⟨"8", "c", "start"⟩] }

theorem sparse_antitone :
    sparse.findings { name := "Sparse" } =
        .ok [.severalFirstSteps, .atStep 2 (.notFed "step_1" 1), .atStep 2 (.notFed "step_2" 2)] ∧
      sparse.Thickened thicket ∧
      (∃ later, thicket.findings { name := "Sparse" } = .ok later ∧ later.Sublist
        [.severalFirstSteps, .atStep 2 (.notFed "step_1" 1), .atStep 2 (.notFed "step_2" 2)]) ∧
      (∃ e h t, sparse.connect "b" "b" false .numbered = .ok (e, h, t) ∧
        ∃ later, h.findings { name := "Sparse" } = .ok later ∧ later.Sublist
          [.severalFirstSteps, .atStep 2 (.notFed "step_1" 1), .atStep 2 (.notFed "step_2" 2)]) ∧
      ∃ h, sparse.disconnect? "3" = some h ∧
        ∃ earlier, h.findings { name := "Sparse" } = .ok earlier ∧ List.Sublist
          [.severalFirstSteps, .atStep 2 (.notFed "step_1" 1), .atStep 2 (.notFed "step_2" 2)]
            earlier := by
  have checked : sparse.findings { name := "Sparse" } =
      .ok [.severalFirstSteps, .atStep 2 (.notFed "step_1" 1), .atStep 2 (.notFed "step_2" 2)] := by
    decide +kernel
  have thickened : sparse.Thickened thicket := by
    refine ⟨rfl, [⟨"4", "a", "b"⟩, ⟨"5", "b", "b"⟩, ⟨"5", "b", "b"⟩, ⟨"6", "nowhere", "b"⟩,
      ⟨"7", "c", "elsewhere"⟩, ⟨"8", "c", "start"⟩], ?_, ?_⟩
    · decide +kernel
    · decide
  obtain ⟨more, drawn, erased⟩ := findings_antitone checked
  refine ⟨checked, thickened, more _ thickened, ⟨_, _, _, rfl, ?_⟩, _, rfl, ?_⟩
  · exact drawn "b" "b" false .numbered _ _ _ (by decide) rfl
  · exact erased "3" _ (by decide) rfl

/-- The findings about this flow among the further edges. -/
example : thicket.findings { name := "Sparse" } = .ok [.severalFirstSteps] := by
  decide +kernel

end Graph

end Stepflow
