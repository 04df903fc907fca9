import Stepflow.Node
import Stepflow.Supply

/-!
# Flow graphs

Nodes and edges in stored order. An edge names its ends by node id, so cycles, dangling
ends and repeated ids can be represented; what they mean is settled here once: an id stands
for the first node that carries it. The steps that feed a step are the nodes other than a
start whose id is the source of an edge into it.
-/

namespace Stepflow

structure Edge where
  id : String
  source : String
  target : String
deriving DecidableEq, Repr

/-- An edge from its fields. One without an id gets a fresh one, whatever else is amiss. -/
def Edge.ofFields (fields : List (String × Json)) (supply : Supply) :
    Field.Checked Edge × Supply :=
  let (id, supply) : Field.Checked String × Supply :=
    match Json.fieldOf? fields "edge_id" with
    | some value => ((Field.text value).within (.name "edge_id"), supply)
    | none =>
      let (tag, supply) := supply.draw
      (.ok ("edge-" ++ tag), supply)
  (Edge.mk <$> id <*> Field.required fields "source_node_id" Field.text
    <*> Field.required fields "target_node_id" Field.text, supply)

def Edge.ofJson (value : Json) (supply : Supply) : Field.Checked Edge × Supply :=
  match value with
  | .obj fields => Edge.ofFields fields supply
  | _ => (Field.reject (.model "FlowEdge"), supply)

def Edge.toJson (e : Edge) : Json :=
  .obj [("edge_id", .str e.id), ("source_node_id", .str e.source),
    ("target_node_id", .str e.target)]

structure Graph where
  nodes : List Node := [Node.start]
  edges : List Edge := []
deriving DecidableEq, Repr

namespace Graph

/-! ## Queries -/

/-- The first node with the id. -/
def node? (g : Graph) (id : String) : Option Node :=
  g.nodes.find? (·.id == id)

def startNode? (g : Graph) : Option Node :=
  g.nodes.find? (·.isStart)

/-- Whether the id stands for a start node. -/
def isStart (g : Graph) (id : String) : Bool :=
  (g.node? id).any (·.isStart)

/-- The nodes other than starts, in stored order. -/
def steps (g : Graph) : List Node :=
  g.nodes.filter (!·.isStart)

def edge? (g : Graph) (id : String) : Option Edge :=
  g.edges.find? (·.id == id)

/-- The first edge from `source` to `target`. -/
def edgeBetween? (g : Graph) (source target : String) : Option Edge :=
  g.edges.find? fun e => e.source == source && e.target == target

def edgesFrom (g : Graph) (id : String) : List Edge :=
  g.edges.filter (·.source == id)

def edgesInto (g : Graph) (id : String) : List Edge :=
  g.edges.filter (·.target == id)

def edgesFromStart (g : Graph) : List Edge :=
  g.edges.filter fun e => g.isStart e.source

/-- The steps with an edge into the node with the id, in stored order. -/
def feeders (g : Graph) (id : String) : List Node :=
  let entering := g.edgesInto id
  g.nodes.filter fun n => !n.isStart && entering.any (·.source == n.id)

/-- Whether an edge from a start node enters the node with the id. -/
def fedByStart (g : Graph) (id : String) : Bool :=
  (g.edgesInto id).any fun e => g.isStart e.source

/-- The highest order of any node; zero if there is no node. -/
def topOrder (g : Graph) : Int :=
  match g.nodes.map (·.order) with
  | [] => 0
  | order :: rest => rest.foldl max order

/-! ## Linking -/

/-- The edge from `source` to `target`: the first there is, or a new one at the end. -/
def link (g : Graph) (source target : String) (supply : Supply) : Edge × Graph × Supply :=
  match g.edgeBetween? source target with
  | some edge => (edge, g, supply)
  | none =>
    let (tag, supply) := supply.draw
    let edge : Edge := ⟨"edge-" ++ tag, source, target⟩
    (edge, { g with edges := g.edges ++ [edge] }, supply)

/-- The edge between two values. A value that is no text is the end of no edge, so there is none to
be found then, and none is made. -/
def linkAny (g : Graph) (source target : Json) (supply : Supply) :
    Field.Checked Edge × Graph × Supply :=
  match source, target with
  | .str source, .str target =>
    let (edge, g, supply) := g.link source target supply
    (.ok edge, g, supply)
  | source, target =>
    let (edge, supply) :=
      Edge.ofFields [("source_node_id", source), ("target_node_id", target)] supply
    (edge, g, supply)

/-! ## Wire form -/

/-- Edges from JSON values, in order; tags are drawn along the way. -/
def edgesOfJson (values : List Json) (supply : Supply) : List (Field.Checked Edge) × Supply :=
  match values with
  | [] => ([], supply)
  | value :: rest =>
    let (edge, supply) := Edge.ofJson value supply
    let (edges, supply) := edgesOfJson rest supply
    (edge :: edges, supply)

def ofFields (fields : List (String × Json)) (supply : Supply) : Field.Checked Graph × Supply :=
  let nodes := Field.defaulted fields "nodes" [Node.start] (Field.list Node.ofJson)
  let (edges, supply) : Field.Checked (List Edge) × Supply :=
    match Json.fieldOf? fields "edges" with
    | none => (.ok [], supply)
    | some (.list values) =>
      let (edges, supply) := edgesOfJson values supply
      ((Field.Checked.all 0 edges).within (.name "edges"), supply)
    | some _ => ((Field.reject .list).within (.name "edges"), supply)
  (Graph.mk <$> nodes <*> edges, supply)

/-- A graph from a JSON value; null stands for the graph of a new flow. -/
def ofJson (value : Json) (supply : Supply) : Field.Checked Graph × Supply :=
  match value with
  | .null => (.ok {}, supply)
  | .obj fields => ofFields fields supply
  | _ => (Field.reject (.model "FlowGraph"), supply)

def toJson (g : Graph) : Json :=
  .obj [("nodes", .list (g.nodes.map Node.toJson)), ("edges", .list (g.edges.map Edge.toJson))]

end Graph

end Stepflow
