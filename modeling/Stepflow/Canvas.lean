import Stepflow.Document.Export
import Stepflow.Finding

/-!
# The canvas

What the editor draws: a place for every node, a colour for every edge, and the hints beside
a selected node. Each order moves a node one column to the right and one row down; nodes that
share an order are nudged apart and marked. Nothing here changes a graph.
-/

namespace Stepflow.Canvas

/-! ## Nodes -/

/-- The exact place of a node. `peer` counts the earlier nodes of its order. -/
def place (order : Int) (peer : Nat) : Int × Int :=
  (50 + order * 300 + peer * 20, 50 + order * 150 + peer * 20)

structure NodeView where
  node : Node
  x : Binary64
  y : Binary64
  hasError : Bool
deriving DecidableEq, Repr

def NodeView.toJson (v : NodeView) : Json :=
  .obj [("node_id", .str v.node.id), ("label", .str v.node.label),
    ("sequence_order", .int v.node.order), ("step_type", .ofString? v.node.kind),
    ("is_start", .bool v.node.isStart),
    ("position", .obj [("x", .float v.x), ("y", .float v.y)]),
    ("has_error", .bool v.hasError)]

/-- A coordinate as a number; at fault if it is too large for one. -/
def coordinate (name : String) (n : Int) : Field.Checked Binary64 :=
  match Binary64.ofInt? n with
  | some x => .ok x
  | none => .bad [⟨[.name "position", .name name], .number⟩]

/-- The view of a node among `nodes`, where `before` are the nodes in front of it. -/
def nodeView (nodes before : List Node) (n : Node) : Field.Checked NodeView :=
  let count (list : List Node) := (list.filter (·.order == n.order)).length
  let (x, y) := place n.order (count before)
  NodeView.mk n <$> coordinate "x" x <*> coordinate "y" y <*> .ok (1 < count nodes)

/-- The views of the nodes `rest` that follow `before` among `nodes`. The first node that
has no place stops the drawing. -/
def nodeViewsFrom (nodes before : List Node) : List Node → Field.Checked (List NodeView)
  | [] => .ok []
  | n :: rest =>
    match nodeView nodes before n with
    | .bad faults => .bad faults
    | .ok view => (view :: ·) <$> nodeViewsFrom nodes (before ++ [n]) rest

def nodeViews (g : Graph) : Field.Checked (List NodeView) :=
  nodeViewsFrom g.nodes [] g.nodes

/-! ## Edges -/

inductive Paint where
  | plain
  | iteration
  | error
deriving DecidableEq, Repr

def Paint.color : Paint → String
  | .plain => "#2563eb"
  | .iteration => "#059669"
  | .error => "#ef4444"

structure EdgeView where
  edge : Edge
  paint : Paint
deriving DecidableEq, Repr

def EdgeView.toJson (v : EdgeView) : Json :=
  .obj [("edge_id", .str v.edge.id), ("source_node_id", .str v.edge.source),
    ("target_node_id", .str v.edge.target), ("color", .str v.paint.color),
    ("dashed", .bool (v.paint == .iteration))]

/-- An edge from a start is an error where the start is split, and an entry of the iteration
where the flow iterates. -/
def paint (g : Graph) (p : Profile) (e : Edge) : Paint :=
  if !g.isStart e.source then .plain
  else if g.startIsSplit p then .error
  else if p.iterates then .iteration
  else .plain

def edgeViews (g : Graph) (p : Profile) : List EdgeView :=
  g.edges.map fun e => ⟨e, paint g p e⟩

/-! ## Hints -/

structure Hints where
  id : String
  feeders : List Node
  fedByStart : Bool
  iterationAvailable : Bool
  llmModel : Option String
deriving DecidableEq, Repr

def placeholderOf (n : Node) : String :=
  Placeholder.write (Placeholder.stepTag n.order)

/-- The hints for the node with the id. A model is offered to LLM steps only: their own, or
that of the environment. -/
def hints? (env : Environment) (g : Graph) (p : Profile) (id : String) : Option Hints :=
  (g.node? id).map fun n =>
    { id
      feeders := sortByOrder (g.feeders id)
      fedByStart := g.fedByStart id
      iterationAvailable := p.iterates && g.fedByStart id
      llmModel := if n.isKind .llm then some (n.llmModel.getD env.llmModel) else none }

def placeholderCatalog : Json :=
  .list (Placeholder.catalog.map fun offer =>
    .obj [("label", .str offer.label), ("desc", .str offer.description)])

def Hints.toJson (h : Hints) : Json :=
  .obj [("node_id", .str h.id),
    ("predecessors", .list (h.feeders.map fun n =>
      .obj [("node_id", .str n.id), ("sequence_order", .int n.order), ("label", .str n.label),
        ("placeholder", .str (placeholderOf n))])),
    ("is_start_connected", .bool h.fedByStart),
    ("iteration_available", .bool h.iterationAvailable),
    ("placeholders", placeholderCatalog),
    ("default_llm_model", .ofString? h.llmModel)]

end Stepflow.Canvas
