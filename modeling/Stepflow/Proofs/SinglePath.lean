import Stepflow.Proofs.Finding
import Stepflow.Proofs.Profile
import Stepflow.Proofs.Run
import Stepflow.Proofs.Wiring

/-!
# One way out of the start

The start of a flow that does not iterate leads to one step at most. Connecting is the one edit that
sees to this. An import links the start by itself, and a check counts the edges of whatever node is
marked as a start. All three agree as long as a node is a start iff it has the id of the start
(`SinglePath`), and this stays so: new ids are never that of the start, and neither ids nor marks of
a start can be edited.

Tags may repeat here. Steps of one id are removed together and stand for no start.

Results:
1. `SinglePath.addStep`, `SinglePath.removeStep`, `SinglePath.setField`, `SinglePath.connect`,
   `SinglePath.disconnect`, `Import.graph_singlePath`: what edits and imports preserve.
2. `Profile.iterates_of_change`: iteration stays off unless it is turned on.
3. `SinglePath.connect_start_iff`: when a second edge from the start is refused.
4. `run_singlePath`: any run without iteration from a new draft.
-/

namespace Stepflow

namespace Graph

/-- Starts are told by the id of the start, and at most one edge leaves it. -/
structure SinglePath (g : Graph) : Prop where
  starts : ∀ n ∈ g.nodes, n.isStart = true ↔ n.id = "start"
  present : ∃ n ∈ g.nodes, n.id = "start"
  single : (g.edgesFrom "start").length ≤ 1

theorem edgesFrom_length_le {g h : Graph} (sublist : h.edges.Sublist g.edges) (id : String) :
    (h.edgesFrom id).length ≤ (g.edgesFrom id).length :=
  (sublist.filter _).length_le

theorem edgesFromStart_eq_edgesFrom {g : Graph} {start : String}
    (told : ∀ id, g.isStart id = true ↔ id = start) : g.edgesFromStart = g.edgesFrom start := by
  refine List.filter_congr fun e _ => ?_
  rw [Bool.eq_iff_iff, told, beq_iff_eq]

theorem singlePath_new : ({} : Graph).SinglePath where
  starts := by simp [Node.start]
  present := ⟨Node.start, List.mem_singleton_self _, rfl⟩
  single := Nat.zero_le 1

namespace SinglePath

variable {g h : Graph} {s t : Supply} (path : g.SinglePath)

include path

theorem isStart_iff {id : String} : g.isStart id = true ↔ id = "start" := by
  rw [isStart, Option.any_eq_true]
  constructor
  · rintro ⟨n, found, start⟩
    rw [← id_of_node? found]
    exact (path.starts n (mem_of_node? found)).mp start
  · rintro rfl
    obtain ⟨n, hn, same⟩ := path.present
    obtain ⟨m, found⟩ := exists_node_of_mem hn
    rw [same] at found
    exact ⟨m, found, (path.starts m (mem_of_node? found)).mpr (id_of_node? found)⟩

/-- The edges that a check counts are those that connecting looks at. -/
theorem edgesFromStart_eq : g.edgesFromStart = g.edgesFrom "start" :=
  edgesFromStart_eq_edgesFrom fun _ => path.isStart_iff

/-! ## Edits -/

theorem addStep (kind : String) : (g.addStep kind s).2.1.SinglePath where
  starts := by
    intro n hn
    rcases List.mem_append.mp hn with old | new
    · exact path.starts n old
    · have tagged : n.Tagged (s.tag (s.drawn + 1)) := by
        rw [List.mem_singleton.mp new]
        exact .inl rfl
      have step : n.isStart = false := by
        rw [List.mem_singleton.mp new]
      simp [step, tagged.id_ne_start]
  present := by
    obtain ⟨n, hn, same⟩ := path.present
    exact ⟨n, List.mem_append_left _ hn, same⟩
  single := path.single

theorem removeStep {id : String} (done : g.removeStep? id = some h) : h.SinglePath := by
  unfold removeStep? at done
  split at done
  · cases done
  · next n found =>
    split at done
    · cases done
    · next step =>
      cases done
      have apart : "start" ≠ id := by
        intro same
        refine step ((path.starts n (mem_of_node? found)).mpr ?_)
        rw [id_of_node? found, same]
      obtain ⟨m, hm, start⟩ := path.present
      constructor
      · exact fun k hk => path.starts k (List.mem_filter.mp hk).1
      · exact ⟨m, List.mem_filter.mpr ⟨hm, by simpa [start] using apart⟩, start⟩
      · exact Nat.le_trans (edgesFrom_length_le List.filter_sublist "start") path.single

theorem setField {id name : String} {value : Json} {m : Node}
    (done : g.setField id name value = .ok (some (m, h))) : h.SinglePath := by
  obtain ⟨n, field, -, found, set, -, rfl⟩ := setField_cases done
  obtain ⟨sameId, sameStart, -⟩ := Node.set_frame set
  constructor
  · intro k hk
    rcases mem_replaceFirst hk with rfl | old
    · rw [sameStart, sameId]
      exact path.starts n (mem_of_node? found)
    · exact path.starts k old
  · have inside : "start" ∈ (replaceFirst m g.nodes).map (·.id) := by
      rw [replaceFirst_ids]
      exact List.mem_map.mpr path.present
    exact List.mem_map.mp inside
  · exact path.single

theorem connect {source target : String} {e : Edge}
    (done : g.connect source target false s = .ok (e, h, t)) : h.SinglePath := by
  obtain ⟨m, n, hm, hn, allowed, linked⟩ := connect_cases done
  have result : (g.link source target s).2 = (h, t) := congrArg Prod.snd linked
  rcases link_cases g source target s with ⟨-, same⟩ | ⟨apart, added⟩
  · cases same.symm.trans result
    exact path
  · cases added.symm.trans result
    refine ⟨path.starts, path.present, ?_⟩
    by_cases start : source = "start"
    · -- The guard lets only a first edge through.
      subst start
      have isStart : m.isStart = true := (path.starts m (mem_of_node? hm)).mpr (id_of_node? hm)
      have empty : g.edgesFrom "start" = [] := by simpa using allowed apart isStart
      rw [edgesFrom] at empty
      simp [edgesFrom, List.filter_append, empty]
    · have single := path.single
      rw [edgesFrom] at single
      simpa [edgesFrom, List.filter_append, start] using single

theorem disconnect {id : String} (done : g.disconnect? id = some h) : h.SinglePath := by
  unfold disconnect? at done
  split at done
  · cases done
    refine ⟨path.starts, path.present, ?_⟩
    exact Nat.le_trans (edgesFrom_length_le List.filter_sublist "start") path.single
  · cases done

/-- A second edge from the start is refused, and nothing else is. -/
theorem connect_start_iff {target : String} (there : ∃ n, g.node? target = some n) :
    g.connect "start" target false s = .error .secondStartEdge ↔
      g.edgesFrom "start" ≠ [] ∧ ∀ e ∈ g.edgesFrom "start", e.target ≠ target := by
  obtain ⟨n, found⟩ := there
  obtain ⟨m, hm⟩ : ∃ m, g.node? "start" = some m := by
    obtain ⟨k, hk, same⟩ := path.present
    exact same ▸ exists_node_of_mem hk
  have isStart : m.isStart = true := (path.starts m (mem_of_node? hm)).mpr (id_of_node? hm)
  have joined : g.Joins "start" target ↔ ∃ e ∈ g.edgesFrom "start", e.target = target := by
    simp [Joins, edgesFrom, and_assoc]
  have apart : (g.edgeBetween? "start" target).isNone = true ↔
      ∀ e ∈ g.edgesFrom "start", e.target ≠ target := by
    rw [Option.isNone_iff_eq_none, edgeBetween?_eq_none_iff, joined]
    simp
  rw [← apart]
  unfold Graph.connect
  rw [hm, found]
  simp [isStart, and_comm]

end SinglePath

end Graph

/-! ## Imports -/

namespace Import

/-- A document that does not iterate, and whose steps have orders that differ. -/
def Straight (fields : List (String × Json)) : Prop :=
  (get fields "iterate_flow").truthy = false ∧ (orders fields).Nodup

theorem graph_singlePath {fields : List (String × Json)} (straight : Straight fields)
    (supply : Supply) : (graph fields supply).1.SinglePath where
  starts := by
    intro n hn
    rw [graph_nodes] at hn
    rcases List.mem_cons.mp hn with rfl | built
    · simp [Node.start]
    · obtain ⟨b, hb, rfl⟩ := List.mem_map.mp built
      have apart : b.node.id ≠ "start" := build_id_ne_start hb
      simp [build_isStart hb, apart]
  present := by
    rw [graph_nodes]
    exact ⟨Node.start, List.mem_cons_self, rfl⟩
  single := by
    have counted := Graph.edgesFromStart_eq_edgesFrom fun _ => graph_isStart fields supply
    rw [← show _ = (graph fields supply).1.edgesFrom "start" from counted]
    exact edgesFromStart_graph straight.2 straight.1 supply

end Import

/-! ## Profiles -/

/-- Iteration stays off unless an update turns it on. -/
theorem Profile.iterates_of_change {env : Environment} {p changed : Profile}
    {updates : List (String × Json)} (h : p.change env updates = .ok changed)
    (off : p.iterates = false)
    (never : ∀ value, ("iterate_flow", value) ∈ updates → Field.boolean value ≠ .ok true) :
    changed.iterates = false := by
  obtain ⟨-, -, iterates, -⟩ := updated_eq_ok_iff.mp (change_eq_ok_iff.mp h).2
  rcases Field.defaulted_eq_ok_iff.mp iterates with ⟨-, same⟩ | ⟨value, found, read⟩
  · exact same.symm.trans off
  · have named := List.mem_reverse.mp (Json.mem_of_fieldOf? found)
    exact Bool.eq_false_iff.mpr fun on => never value named (on ▸ read)

/-! ## Runs -/

/-- An action that turns no iteration on, and that imports nothing but straight documents. -/
def Action.Straight : Action → Prop
  | .connect _ _ iterates => iterates ≠ some true
  | .changeProfile updates =>
    ∀ value, ("iterate_flow", value) ∈ updates → Field.boolean value ≠ .ok true
  | .importDocument document =>
    ∀ fields, Import.object document = .ok fields → Import.Straight fields
  | .importPayload payload bounds =>
    ∀ fields, payload.read bounds = .ok fields → Import.Straight fields
  | .replaceGraph _ => False
  | _ => True

namespace Draft

/-- A draft that does not iterate, and whose start has one way out at most. -/
structure SinglePath (d : Draft) : Prop where
  path : d.graph.SinglePath
  off : d.profile.iterates = false

theorem SinglePath.importOutcome {d : Draft} (single : d.SinglePath) (env : Environment)
    (s : Supply) {read : Except Import.Refusal (List (String × Json))}
    (straight : ∀ fields, read = .ok fields → Import.Straight fields) :
    (d.importOutcome env s read).2.1.SinglePath := by
  rcases importOutcome_cases env d s read with ⟨fields, rfl, made⟩ | ⟨_, _, failed, -⟩
  · rw [made]
    exact ⟨Import.graph_singlePath (straight fields rfl) s, (straight fields rfl).1⟩
  · rw [failed]
    exact single

/-- What an action without iteration preserves, whether it succeeds or fails. -/
theorem SinglePath.perform {d : Draft} (single : d.SinglePath) (env : Environment)
    {action : Action} (straight : action.Straight) (s : Supply) :
    (d.perform env action s).2.1.SinglePath := by
  obtain ⟨path, off⟩ := single
  cases action with
  | addStep kind => exact ⟨path.addStep kind, off⟩
  | removeStep id =>
    cases done : d.graph.removeStep? id with
    | none => simpa only [Draft.perform, done] using ⟨path, off⟩
    | some g => simpa only [Draft.perform, done] using ⟨path.removeStep done, off⟩
  | setField id name value =>
    cases done : d.graph.setField id name value with
    | error error => simpa only [Draft.perform, done] using ⟨path, off⟩
    | ok found =>
      cases found with
      | none => simpa only [Draft.perform, done] using ⟨path, off⟩
      | some pair => simpa only [Draft.perform, done] using ⟨path.setField done, off⟩
  | connect source target iterates =>
    have plain : iterates.getD d.profile.iterates = false := by
      cases iterates with
      | none => exact off
      | some on => simpa [Action.Straight] using straight
    cases done : d.graph.connect source target false s with
    | error error => simpa only [Draft.perform, plain, done] using ⟨path, off⟩
    | ok made => simpa only [Draft.perform, plain, done] using ⟨path.connect done, off⟩
  | disconnect id =>
    cases done : d.graph.disconnect? id with
    | none => simpa only [Draft.perform, done] using ⟨path, off⟩
    | some g => simpa only [Draft.perform, done] using ⟨path.disconnect done, off⟩
  | replaceGraph g => exact straight.elim
  | changeProfile updates =>
    cases done : d.profile.change env updates with
    | error error => simpa only [Draft.perform, done] using ⟨path, off⟩
    | ok profile =>
      simpa only [Draft.perform, done] using
        ⟨path, Profile.iterates_of_change done off straight⟩
  | importDocument document => exact SinglePath.importOutcome ⟨path, off⟩ env s straight
  | importPayload payload bounds => exact SinglePath.importOutcome ⟨path, off⟩ env s straight
  | touch => exact ⟨path, off⟩

theorem SinglePath.run {d : Draft} (single : d.SinglePath) (env : Environment)
    {actions : List Action} (straight : ∀ action ∈ actions, action.Straight) (s : Supply) :
    (run env actions d s).1.SinglePath := by
  induction actions generalizing d s with
  | nil => exact single
  | cons action rest ih =>
    obtain ⟨head, tail⟩ := List.forall_mem_cons.mp straight
    rw [run_cons]
    exact ih (single.perform env head s) tail _

/-- A check of a single path does not find several first steps. -/
theorem SinglePath.severalFirstSteps {d : Draft} (single : d.SinglePath) {found : List Finding}
    (checked : d.findings = .ok found) : .severalFirstSteps ∉ found := by
  have whole : d.graph.startIsSplit d.profile = false := by
    rw [Graph.startIsSplit, single.path.edgesFromStart_eq]
    simpa using fun _ => single.path.single
  obtain ⟨lists, each, rfl⟩ := Graph.findings_eq_ok_iff.mp checked
  rw [List.mem_append, not_or]
  constructor
  · simp [Graph.mem_globalFindings, whole]
  · intro later
    obtain ⟨list, mem, here⟩ := List.mem_flatten.mp later
    obtain ⟨n, -, step⟩ := exists_of_forall₂ each mem
    obtain ⟨-, problems, -, rfl⟩ := Graph.stepFindings_eq_ok_iff.mp step
    simp at here

/-- Connecting is refused by the graph alone, and on the terms of the profile. -/
theorem perform_connect_refused_iff (env : Environment) (d : Draft) (s : Supply)
    (source target : String) (cause : EditError) :
    (d.perform env (.connect source target none) s).1 = .error (.edit cause) ↔
      d.graph.connect source target d.profile.iterates s = .error cause := by
  cases done : d.graph.connect source target d.profile.iterates s with
  | error error => simp [perform, done]
  | ok made => simp [perform, done]

/-- After any run without iteration from a new draft that does not iterate, whether its actions
succeed or fail, at most one edge leaves the start, so that a check finds nothing wrong with it. The
start cannot be connected iff it is connected to other nodes only. -/
theorem run_singlePath (env : Environment) (id : Option String) {profile : Profile}
    (off : profile.iterates = false) (s : Supply) {actions : List Action}
    (straight : ∀ action ∈ actions, action.Straight) {d : Draft} {t : Supply}
    (reached : run env actions (new id {} profile s).1 (new id {} profile s).2 = (d, t)) :
    d.graph.edgesFromStart = d.graph.edgesFrom "start" ∧
      (d.graph.edgesFrom "start").length ≤ 1 ∧
      (∀ found, d.findings = .ok found → .severalFirstSteps ∉ found) ∧
      ∀ target, (∃ n, d.graph.node? target = some n) →
        ((d.perform env (.connect "start" target none) t).1 = .error (.edit .secondStartEdge) ↔
          d.graph.edgesFrom "start" ≠ [] ∧
            ∀ e ∈ d.graph.edgesFrom "start", e.target ≠ target) := by
  have begun : (new id {} profile s).1.SinglePath := ⟨Graph.singlePath_new, off⟩
  have single : d.SinglePath := by
    simpa only [reached] using begun.run env straight (new id {} profile s).2
  refine ⟨single.path.edgesFromStart_eq, single.path.single,
    fun found checked => single.severalFirstSteps checked, fun target there => ?_⟩
  rw [perform_connect_refused_iff, single.off]
  exact single.path.connect_start_iff there

/-- The start is connected to a step, in vain to itself, and then, by an import, to another step. -/
def byway : List Action :=
  [.addStep "sql", .connect "start" "node-00000002" none, .connect "start" "start" none,
    .changeProfile [("iterate_flow", .str "off")],
    .importDocument (.obj [("steps", .list [.obj [], .obj [("depends_on", .str "1")]])])]

theorem byway_singlePath :
    ∃ d t, run {} byway (new none {} (.new {}) .numbered).1
        (new none {} (.new {}) .numbered).2 = (d, t) ∧
      (d.graph.edgesFrom "start").length ≤ 1 ∧
      (d.perform {} (.connect "start" "node-2-00000005" none) t).1 =
        .error (.edit .secondStartEdge) := by
  have straight : ∀ action ∈ byway, action.Straight := by
    intro action h
    simp only [byway, List.mem_cons, List.not_mem_nil, or_false] at h
    rcases h with rfl | rfl | rfl | rfl | rfl
    · trivial
    · nofun
    · nofun
    · intro value h
      cases List.mem_singleton.mp h
      decide +kernel
    · rintro fields ⟨⟩
      exact ⟨by decide +kernel, by decide +kernel⟩
  have off : (Profile.new {}).iterates = false := rfl
  obtain ⟨-, single, -, refused⟩ := run_singlePath {} none off .numbered straight rfl
  refine ⟨_, _, rfl, single, (refused _ (Option.isSome_iff_exists.mp ?_)).mpr ⟨?_, ?_⟩⟩
  · decide +kernel
  · decide +kernel
  · decide +kernel

end Draft

end Stepflow
