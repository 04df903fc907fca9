import Stepflow.Canvas
import Stepflow.Proofs.Clear
import Stepflow.Proofs.Nearest

/-!
# Nodes on the canvas

Every node has an exact place, told by its order and by the number of nodes of this order in front of
it. Two nodes never have the same place: the orders can be told from the difference of the two
coordinates, and nodes of one order are nudged apart.

A view holds the coordinates as binary64 numbers. They are rounded where they are long, and a
coordinate that would be rounded to infinity stops the drawing, although an order can be any integer
(`steep_stopped`).

Results:
1. `places_nodup`: nodes have different places.
2. `nodeViewsFrom_eq_ok_iff`, `exists_nodeViewsFrom_iff`: the views of nodes, and when there are any.
3. `nodeViews_complete_iff`: when all nodes of a graph are drawn.
4. `nodeViews_apart`: where they are then, and which of them are marked.
-/

namespace Stepflow.Canvas

/-! ## Places -/

/-- How many of the nodes have the order. -/
def peers (nodes : List Node) (order : Int) : Nat :=
  (nodes.filter (·.order == order)).length

/-- The exact place of a node behind others. -/
def placeBehind (before : List Node) (n : Node) : Int × Int :=
  place n.order (peers before n.order)

/-- The exact places of the nodes `rest` that follow `before`. -/
def placesFrom (before : List Node) : List Node → List (Int × Int)
  | [] => []
  | n :: rest => placeBehind before n :: placesFrom (before ++ [n]) rest

def places (g : Graph) : List (Int × Int) :=
  placesFrom [] g.nodes

/-- The order is told by how much one coordinate is ahead of the other. -/
theorem place_inj {order other : Int} {peer next : Nat} (same : place order peer = place other next) :
    order = other ∧ peer = next := by
  unfold place at same
  have x := congrArg Prod.fst same
  have y := congrArg Prod.snd same
  simp only at x y
  omega

theorem peers_append (nodes others : List Node) (order : Int) :
    peers (nodes ++ others) order = peers nodes order + peers others order := by
  unfold peers
  rw [List.filter_append, List.length_append]

theorem peers_self (n : Node) (rest : List Node) :
    peers (n :: rest) n.order = peers rest n.order + 1 := by
  have counted : (n.order == n.order) = true := beq_self_eq_true _
  unfold peers
  rw [List.filter_cons, if_pos counted, List.length_cons]

theorem peers_pos_iff {nodes : List Node} {order : Int} :
    0 < peers nodes order ↔ ∃ m ∈ nodes, m.order = order := by
  rw [peers, List.length_pos_iff_exists_mem]
  simp only [List.mem_filter, beq_iff_eq]

/-- A node shares its order iff another node among all of them has it. -/
theorem one_lt_peers_iff {before after : List Node} {n : Node} :
    1 < peers (before ++ n :: after) n.order ↔ ∃ m ∈ before ++ after, m.order = n.order := by
  rw [← peers_pos_iff, peers_append, peers_append, peers_self]
  omega

/-- Each node moves the later ones of its order on. -/
theorem placeBehind_ne (before between : List Node) (m n : Node) :
    placeBehind before m ≠ placeBehind (before ++ m :: between) n := by
  intro same
  obtain ⟨order, count⟩ := place_inj same
  rw [peers_append, ← order, peers_self] at count
  omega

theorem exists_of_mem_placesFrom {before rest : List Node} {q : Int × Int}
    (h : q ∈ placesFrom before rest) : ∃ front n, q = placeBehind (before ++ front) n := by
  induction rest generalizing before with
  | nil => cases h
  | cons n rest ih =>
    rcases List.mem_cons.mp h with rfl | later
    · exact ⟨[], n, by rw [List.append_nil]⟩
    · obtain ⟨front, m, rfl⟩ := ih later
      exact ⟨n :: front, m, by rw [List.append_assoc, List.singleton_append]⟩

theorem placesFrom_nodup (before rest : List Node) : (placesFrom before rest).Nodup := by
  induction rest generalizing before with
  | nil => exact .nil
  | cons n rest ih =>
    refine List.nodup_cons.mpr ⟨fun again => ?_, ih _⟩
    obtain ⟨front, m, same⟩ := exists_of_mem_placesFrom again
    rw [List.append_assoc, List.singleton_append] at same
    exact placeBehind_ne before front n m same

theorem places_nodup (g : Graph) : (places g).Nodup :=
  placesFrom_nodup [] g.nodes

/-! ## Views -/

namespace NodeView

/-- A view holds a place as well as binary64 numbers can. -/
structure At (v : NodeView) (q : Int × Int) : Prop where
  x : Binary64.ofInt? q.1 = some v.x
  y : Binary64.ofInt? q.2 = some v.y

/-- The place of a view, if its coordinates are integers. -/
def position? (v : NodeView) : Option (Int × Int) :=
  v.x.whole?.bind fun x => v.y.whole?.map (x, ·)

theorem At.position? {v : NodeView} {q : Int × Int} (h : v.At q) (x : q.1.natAbs ≤ 2 ^ 53)
    (y : q.2.natAbs ≤ 2 ^ 53) : v.position? = some q := by
  rw [NodeView.position?, Binary64.whole?_of_small x h.x, Binary64.whole?_of_small y h.y]
  rfl

end NodeView

theorem coordinate_eq_ok_iff {name : String} {n : Int} {x : Binary64} :
    coordinate name n = .ok x ↔ Binary64.ofInt? n = some x := by
  unfold coordinate
  cases Binary64.ofInt? n <;> simp

theorem nodeView_eq_ok_iff {nodes before : List Node} {n : Node} {v : NodeView} :
    nodeView nodes before n = .ok v ↔
      v.node = n ∧ v.At (placeBehind before n) ∧
        v.hasError = decide (1 < peers nodes v.node.order) := by
  simp only [nodeView, Field.Checked.seq_eq_ok_iff, Field.Checked.map_eq_ok_iff,
    coordinate_eq_ok_iff]
  constructor
  · rintro ⟨_, _, ⟨_, y, ⟨x, atX, rfl⟩, atY, rfl⟩, ⟨⟩, rfl⟩
    exact ⟨rfl, ⟨atX, atY⟩, rfl⟩
  · rintro ⟨rfl, ⟨atX, atY⟩, marked⟩
    refine ⟨_, _, ⟨_, _, ⟨v.x, atX, rfl⟩, atY, rfl⟩, rfl, ?_⟩
    exact congrArg (NodeView.mk v.node v.x v.y) marked.symm

theorem exists_nodeView_iff {nodes before : List Node} {n : Node} :
    (∃ v, nodeView nodes before n = .ok v) ↔
      (placeBehind before n).1.natAbs < Binary64.overflow ∧
        (placeBehind before n).2.natAbs < Binary64.overflow := by
  rw [← Binary64.exists_ofInt?_iff, ← Binary64.exists_ofInt?_iff]
  simp only [nodeView_eq_ok_iff]
  constructor
  · rintro ⟨v, -, here, -⟩
    exact ⟨⟨v.x, here.x⟩, v.y, here.y⟩
  · rintro ⟨⟨x, atX⟩, y, atY⟩
    exact ⟨⟨n, x, y, decide (1 < peers nodes n.order)⟩, rfl, ⟨atX, atY⟩, rfl⟩

/-- One step of the drawing: the first node, and then the others behind it. -/
theorem nodeViewsFrom_cons_iff {nodes before rest : List Node} {n : Node} {views : List NodeView} :
    nodeViewsFrom nodes before (n :: rest) = .ok views ↔
      ∃ v later, nodeView nodes before n = .ok v ∧
        nodeViewsFrom nodes (before ++ [n]) rest = .ok later ∧ v :: later = views := by
  rw [nodeViewsFrom]
  cases nodeView nodes before n with
  | bad faults => simp
  | ok v => simp [Field.Checked.map_eq_ok_iff]

/-- The views are those of the nodes one by one, each at its place. -/
theorem nodeViewsFrom_eq_ok_iff {nodes before rest : List Node} {views : List NodeView} :
    nodeViewsFrom nodes before rest = .ok views ↔
      views.map (·.node) = rest ∧ List.Forall₂ NodeView.At views (placesFrom before rest) ∧
        ∀ v ∈ views, v.hasError = decide (1 < peers nodes v.node.order) := by
  induction rest generalizing before views with
  | nil =>
    constructor
    · rintro ⟨⟩
      exact ⟨rfl, .nil, List.forall_mem_nil _⟩
    · rintro ⟨none, -, -⟩
      rw [List.map_eq_nil_iff.mp none, nodeViewsFrom]
  | cons n rest ih =>
    rw [nodeViewsFrom_cons_iff]
    constructor
    · rintro ⟨v, later, shown, behind, rfl⟩
      obtain ⟨rfl, here, marked⟩ := nodeView_eq_ok_iff.mp shown
      obtain ⟨rfl, placed, each⟩ := ih.mp behind
      exact ⟨rfl, .cons here placed, List.forall_mem_cons.mpr ⟨marked, each⟩⟩
    · rintro ⟨same, placed, each⟩
      obtain ⟨v, later, rfl, rfl, rfl⟩ := List.map_eq_cons_iff.mp same
      obtain ⟨here, behind⟩ := List.forall₂_cons.mp placed
      obtain ⟨marked, others⟩ := List.forall_mem_cons.mp each
      exact ⟨v, later, nodeView_eq_ok_iff.mpr ⟨rfl, here, marked⟩,
        ih.mpr ⟨rfl, behind, others⟩, rfl⟩

theorem exists_nodeViewsFrom_iff {nodes before rest : List Node} :
    (∃ views, nodeViewsFrom nodes before rest = .ok views) ↔
      ∀ q ∈ placesFrom before rest,
        q.1.natAbs < Binary64.overflow ∧ q.2.natAbs < Binary64.overflow := by
  induction rest generalizing before with
  | nil => exact iff_of_true ⟨[], rfl⟩ (List.forall_mem_nil _)
  | cons n rest ih =>
    have head : (∃ v, nodeView nodes before n = .ok v) ↔ _ := exists_nodeView_iff
    rw [placesFrom, List.forall_mem_cons, ← ih, ← head]
    simp only [nodeViewsFrom_cons_iff]
    constructor
    · rintro ⟨_, v, later, shown, behind, -⟩
      exact ⟨⟨v, shown⟩, later, behind⟩
    · rintro ⟨⟨v, shown⟩, later, behind⟩
      exact ⟨_, v, later, shown, behind, rfl⟩

/-! ## All nodes of a graph -/

/-- Each node of a graph is drawn once, in stored order, iff no coordinate is rounded to infinity. -/
theorem nodeViews_complete_iff (g : Graph) :
    (∃ views, nodeViews g = .ok views ∧ views.map (·.node) = g.nodes) ↔
      ∀ q ∈ places g, q.1.natAbs < Binary64.overflow ∧ q.2.natAbs < Binary64.overflow := by
  have listed (views : List NodeView) :
      nodeViews g = .ok views ∧ views.map (·.node) = g.nodes ↔ nodeViews g = .ok views :=
    and_iff_left_of_imp fun drawn => (nodeViewsFrom_eq_ok_iff.mp drawn).1
  simp only [listed]
  exact exists_nodeViewsFrom_iff

/-- A new draft with one step, whose order is set to a long integer. -/
def steep : Draft :=
  .edited [.addStep "sql", .setField "node-00000002" "sequence_order" (.int (10 ^ 306))]

/-- An order can be any integer, but not any integer has a place. -/
theorem steep_stopped :
    steep.graph.steps.map (·.order) = [10 ^ 306] ∧
      ¬∃ views, nodeViews steep.graph = .ok views ∧ views.map (·.node) = steep.graph.nodes := by
  have stopped : nodeViews steep.graph = .bad [⟨[.name "position", .name "x"], .number⟩] := by
    decide +kernel
  refine ⟨by decide +kernel, ?_⟩
  rintro ⟨views, drawn, -⟩
  rw [stopped] at drawn
  cases drawn

/-- The view of a node tells whether another node has its order. -/
theorem hasError_iff {g : Graph} {before after : List NodeView} {v : NodeView}
    (drawn : nodeViews g = .ok (before ++ v :: after)) :
    v.hasError = true ↔ ∃ w ∈ before ++ after, w.node.order = v.node.order := by
  obtain ⟨nodes, -, marked⟩ := nodeViewsFrom_eq_ok_iff.mp drawn
  rw [marked v (List.mem_append_right _ List.mem_cons_self), decide_eq_true_eq, ← nodes,
    List.map_append, List.map_cons, one_lt_peers_iff, ← List.map_append]
  simp only [List.mem_map, exists_exists_and_eq_and]

/-- Where the coordinates are numbers themselves, every node is drawn at its exact place, and no two
of them at the same one. A node is marked iff another node has its order. -/
theorem nodeViews_apart {g : Graph}
    (near : ∀ q ∈ places g, q.1.natAbs ≤ 2 ^ 53 ∧ q.2.natAbs ≤ 2 ^ 53) :
    ∃ views, nodeViews g = .ok views ∧ views.map (·.node) = g.nodes ∧
      views.map (·.position?) = (places g).map some ∧ (views.map (·.position?)).Nodup ∧
      ∀ before v after, views = before ++ v :: after →
        (v.hasError = true ↔ ∃ w ∈ before ++ after, w.node.order = v.node.order) := by
  obtain ⟨views, drawn⟩ : ∃ views, nodeViews g = .ok views := by
    refine exists_nodeViewsFrom_iff.mpr fun q hq => ?_
    obtain ⟨x, y⟩ := near q hq
    exact ⟨Binary64.lt_overflow_of_small x, Binary64.lt_overflow_of_small y⟩
  obtain ⟨nodes, placed, -⟩ := nodeViewsFrom_eq_ok_iff.mp drawn
  have positions : views.map (·.position?) = (places g).map some := by
    rw [← List.forall₂_eq_eq_eq, List.forall₂_map_left_iff, List.forall₂_map_right_iff]
    refine Import.forall₂_imp_of_mem placed fun v _ q hq here => ?_
    obtain ⟨x, y⟩ := near q hq
    exact here.position? x y
  refine ⟨views, drawn, nodes, positions, ?_, fun before v after split => ?_⟩
  · rw [positions]
    exact (places_nodup g).map (Option.some_injective _)
  · rw [split] at drawn
    exact hasError_iff drawn

/-- Six nodes of three orders, one of them negative. The start shares its order with two steps. -/
def crowded : Graph where
  nodes := [{ id := "a", order := 0 }, Node.start, { id := "b", order := -3 },
    { id := "c", order := 7 }, { id := "c", order := 0 }, { id := "d", order := -3 }]

theorem crowded_apart :
    (∀ q ∈ places crowded, q.1.natAbs ≤ 2 ^ 53 ∧ q.2.natAbs ≤ 2 ^ 53) ∧
      ∃ views, nodeViews crowded = .ok views ∧
        views.map (·.position?) = [some (50, 50), some (70, 70), some (-850, -400),
          some (2150, 1100), some (90, 90), some (-830, -380)] := by
  have near : ∀ q ∈ places crowded, q.1.natAbs ≤ 2 ^ 53 ∧ q.2.natAbs ≤ 2 ^ 53 := by
    decide
  obtain ⟨views, drawn, -, positions, -⟩ := nodeViews_apart near
  exact ⟨near, views, drawn, positions⟩

end Stepflow.Canvas
