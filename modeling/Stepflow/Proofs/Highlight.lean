import Stepflow.Proofs.Layout
import Stepflow.Proofs.WholeFlow

/-!
# Marks on the canvas and findings

The canvas paints the edges of a split start in the colour of an error and marks nodes that share an
order. A check reports both about the flow as a whole, in its own way: it asks whether an order came
before and looks at steps only, while the canvas counts how often the order of a node comes among all
nodes. Where there is one start and no step has its order, the two agree.

There is one thing that a check does and the canvas does not. A check takes any order that can be
written, while a node whose coordinate is rounded to infinity stops the drawing, and a canvas that is
not drawn shows no mark (`peaks_unmarked`).

Results:
1. `color_eq_error_iff`, `color_of_mem_edgeViews`: which edges are painted as errors.
2. `exists_marked_iff`: when a node is marked.
3. `highlights_agree_iff`: that this is what a check reports, and when it is not.
-/

namespace Stepflow.Canvas

/-! ## Edges -/

/-- The colour of an error is no other paint's. -/
theorem color_eq_error_iff {paint : Paint} : paint.color = "#ef4444" ↔ paint = .error := by
  cases paint <;> decide

theorem paint_eq_error_iff {g : Graph} {p : Profile} {e : Edge} :
    paint g p e = .error ↔ g.SplitsStart p ∧ g.StandsForStart e.source := by
  rw [Graph.splitsStart_iff, Graph.standsForStart_iff, paint]
  cases g.isStart e.source with
  | false => simp
  | true =>
    cases g.startIsSplit p with
    | true => simp
    | false => cases p.iterates <;> simp

/-- An edge is painted as an error iff the start is split and the edge leaves a start. -/
theorem color_of_mem_edgeViews {g : Graph} {p : Profile} {v : EdgeView} (hv : v ∈ edgeViews g p) :
    v.paint.color = "#ef4444" ↔ g.SplitsStart p ∧ g.StandsForStart v.edge.source := by
  obtain ⟨e, -, rfl⟩ := List.mem_map.mp hv
  rw [color_eq_error_iff, paint_eq_error_iff]

/-- Where the start is split, some edge is painted as an error. -/
theorem exists_error_of_splitsStart {g : Graph} {p : Profile} (split : g.SplitsStart p) :
    ∃ v ∈ edgeViews g p, v.paint.color = "#ef4444" := by
  have ⟨_, e, f, two, first, _⟩ := split
  have shown : ⟨e, paint g p e⟩ ∈ edgeViews g p :=
    List.mem_map.mpr ⟨e, two.subset List.mem_cons_self, rfl⟩
  exact ⟨_, shown, (color_of_mem_edgeViews shown).mpr ⟨split, first⟩⟩

/-! ## Nodes -/

theorem peers_eq_count (nodes : List Node) (order : Int) :
    peers nodes order = (nodes.map (·.order)).count order := by
  rw [peers, List.count, List.countP_map, List.countP_eq_length_filter]
  rfl

/-- Some node is marked iff two nodes have one order. -/
theorem exists_marked_iff {g : Graph} {views : List NodeView} (drawn : nodeViews g = .ok views) :
    (∃ v ∈ views, v.hasError = true) ↔ ¬(g.nodes.map (·.order)).Nodup := by
  obtain ⟨nodes, -, marked⟩ := nodeViewsFrom_eq_ok_iff.mp drawn
  rw [List.nodup_iff_count_le_one, not_forall]
  constructor
  · rintro ⟨v, hv, error⟩
    rw [marked v hv, decide_eq_true_eq, peers_eq_count] at error
    exact ⟨_, Nat.not_le_of_lt error⟩
  · rintro ⟨order, many⟩
    rw [Nat.not_le] at many
    obtain ⟨n, hn, rfl⟩ := List.mem_map.mp (List.count_pos_iff.mp (Nat.zero_lt_of_lt many))
    rw [← nodes] at hn
    obtain ⟨v, hv, rfl⟩ := List.mem_map.mp hn
    refine ⟨v, hv, ?_⟩
    rw [marked v hv, decide_eq_true_eq, peers_eq_count]
    exact many

/-- One start that shares its order with no step makes no difference to whether orders repeat. -/
theorem nodup_orders_iff {g : Graph} {start : Node} (single : g.nodes.filter (·.isStart) = [start])
    (apart : ∀ n ∈ g.steps, n.order ≠ start.order) :
    (g.nodes.map (·.order)).Nodup ↔ (g.steps.map (·.order)).Nodup := by
  have parts : (start :: g.steps).Perm g.nodes := by
    have both := List.filter_append_perm (·.isStart) g.nodes
    rwa [single] at both
  rw [← (parts.map (·.order)).nodup_iff, List.map_cons, List.nodup_cons, and_iff_right_iff_imp]
  intro _ shared
  obtain ⟨n, hn, same⟩ := List.mem_map.mp shared
  exact apart n hn same

/-! ## Agreement -/

/-- An edge is painted as an error iff a check reports a split start and the edge leaves a start, and
some edge is then. Where there is one start and no step has its order, a check reports repeated orders
iff some node of a drawn canvas is marked. So the canvas fails to show what a check reports iff orders
repeat and some node has a coordinate that is rounded to infinity. -/
theorem highlights_agree_iff {g : Graph} {p : Profile} {found : List Finding}
    (checked : g.findings p = .ok found) :
    (∀ v ∈ edgeViews g p, v.paint.color = "#ef4444" ↔
      "Invalid Start Connection (Single path only)" ∈ globalMessages found ∧
        g.StandsForStart v.edge.source) ∧
    ("Invalid Start Connection (Single path only)" ∈ globalMessages found →
      ∃ v ∈ edgeViews g p, v.paint.color = "#ef4444") ∧
    ∀ start, g.nodes.filter (·.isStart) = [start] → (∀ n ∈ g.steps, n.order ≠ start.order) →
      (∀ views, nodeViews g = .ok views →
        ((∃ v ∈ views, v.hasError = true) ↔
          "Duplicate Sequence # Detected" ∈ globalMessages found)) ∧
      (((∃ views, nodeViews g = .ok views ∧ ∃ v ∈ views, v.hasError = true) ↔
          "Duplicate Sequence # Detected" ∈ globalMessages found) ↔
        ("Duplicate Sequence # Detected" ∈ globalMessages found →
          ∀ q ∈ places g, q.1.natAbs < Binary64.overflow ∧ q.2.natAbs < Binary64.overflow)) := by
  have report := Graph.globalReport checked
  refine ⟨fun v hv => ?_, fun reported => ?_, fun start single apart => ?_⟩
  · rw [report.split]
    exact color_of_mem_edgeViews hv
  · exact exists_error_of_splitsStart (report.split.mp reported)
  · have agree (views : List NodeView) (drawn : nodeViews g = .ok views) :
        (∃ v ∈ views, v.hasError = true) ↔
          "Duplicate Sequence # Detected" ∈ globalMessages found := by
      rw [exists_marked_iff drawn, nodup_orders_iff single apart, report.duplicate,
        Graph.repeatsOrder_iff, ← hasRepeatedOrder_eq_false_iff, Bool.not_eq_false]
    refine ⟨agree, ?_⟩
    -- The marks of a drawn canvas agree, so what is left to say is when it is drawn.
    constructor
    · intro same reported
      obtain ⟨views, drawn, -⟩ := same.mpr reported
      exact exists_nodeViewsFrom_iff.mp ⟨views, drawn⟩
    · intro fit
      constructor
      · rintro ⟨views, drawn, marked⟩
        exact (agree views drawn).mp marked
      · intro reported
        obtain ⟨views, drawn⟩ := exists_nodeViewsFrom_iff.mpr (fit reported)
        exact ⟨views, drawn, (agree views drawn).mpr reported⟩

/-- Two steps of one order, a step with the id of the start, and edges from the start, one of them to a
node that is not there. -/
def flagged : Graph where
  nodes := [{ id := "a", order := 2 }, Node.start, { id := "b", order := 2 },
    { id := "start", order := -1 }]
  edges := [⟨"1", "start", "a"⟩, ⟨"2", "a", "gone"⟩, ⟨"3", "start", "gone"⟩, ⟨"4", "gone", "b"⟩]

theorem flagged_highlights :
    flagged.findings { name := "Flagged" } =
        .ok [.duplicateOrders, .severalFirstSteps, .lastNotConcat] ∧
      (∃ v ∈ edgeViews flagged { name := "Flagged" }, v.paint.color = "#ef4444") ∧
      ∃ views, nodeViews flagged = .ok views ∧ ∃ v ∈ views, v.hasError = true := by
  have checked : flagged.findings { name := "Flagged" } =
      .ok [.duplicateOrders, .severalFirstSteps, .lastNotConcat] := by
    decide +kernel
  have fit : ∀ q ∈ places flagged,
      q.1.natAbs < Binary64.overflow ∧ q.2.natAbs < Binary64.overflow := by
    decide +kernel
  obtain ⟨-, painted, marked⟩ := highlights_agree_iff checked
  obtain ⟨-, shown⟩ := marked Node.start (by decide +kernel) (by decide +kernel)
  exact ⟨checked, painted (by decide), (shown.mpr fun _ => fit).mpr (by decide)⟩

/-- A new draft with two steps, whose orders are set to one long integer. -/
def peaks : Draft :=
  .edited [.addStep "sql", .addStep "sql",
    .setField "node-00000002" "sequence_order" (.int (10 ^ 306)),
    .setField "node-00000003" "sequence_order" (.int (10 ^ 306))]

/-- A check goes through and reports the repeated order, and no node of the canvas is marked, since
there is no canvas. -/
theorem peaks_unmarked :
    peaks.graph.nodes.filter (·.isStart) = [Node.start] ∧
      (∀ n ∈ peaks.graph.steps, n.order ≠ Node.start.order) ∧
      ∃ found, peaks.findings = .ok found ∧
        ¬((∃ views, nodeViews peaks.graph = .ok views ∧ ∃ v ∈ views, v.hasError = true) ↔
          "Duplicate Sequence # Detected" ∈ globalMessages found) := by
  have stopped : nodeViews peaks.graph = .bad [⟨[.name "position", .name "x"], .number⟩] := by
    decide +kernel
  have checked : peaks.findings = .ok [.duplicateOrders, .lastNotConcat,
      .atStep (10 ^ 306) .sqlEmpty, .atStep (10 ^ 306) .sqlEmpty] := by
    decide +kernel
  refine ⟨by decide +kernel, by decide +kernel, _, checked, fun agree => ?_⟩
  obtain ⟨views, drawn, -⟩ := agree.mpr (by decide +kernel)
  rw [stopped] at drawn
  cases drawn

end Stepflow.Canvas
