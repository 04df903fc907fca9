import Stepflow.Edit
import Stepflow.Proofs.Image

/-!
# Setting the content of a step

Setting the content of a step is an edit that replaces the first node of its id. Where ids differ,
this is a change of every node that leaves all but one as it is, so the graph that comes out is an
image of the graph before. Everything but the content itself is answered as before.

Results:
1. `replaceFirst_eq_map`, `replaceFirst_content`, `setField_content`: what the edit makes of the
   nodes.
2. `image_rewritten`, `rewritten_feeders`: what feeds a step afterwards.
3. `tagProblem_rewritten`: what a check says about a tag afterwards.
-/

namespace Stepflow

/-- The node `k`, or the node `m` in its place if that has the same id. -/
def Node.replacedBy (m k : Node) : Node :=
  if k.id = m.id then m else k

theorem Node.replacedBy_of_ne {m k : Node} (apart : k.id ≠ m.id) : m.replacedBy k = k :=
  if_neg apart

theorem map_replacedBy_of_not_mem {m : Node} {nodes : List Node}
    (absent : m.id ∉ nodes.map (·.id)) : nodes.map m.replacedBy = nodes := by
  refine (List.map_congr_left fun k hk => ?_).trans (List.map_id nodes)
  exact Node.replacedBy_of_ne fun same => absent (same ▸ List.mem_map_of_mem hk)

/-- Where ids differ, the first node of an id is the only one. -/
theorem replaceFirst_eq_map (m : Node) {nodes : List Node} (distinct : (nodes.map (·.id)).Nodup) :
    replaceFirst m nodes = nodes.map m.replacedBy := by
  induction nodes with
  | nil => rfl
  | cons n rest ih =>
    rw [List.map_cons, List.nodup_cons] at distinct
    rw [replaceFirst, List.map_cons]
    by_cases here : n.id = m.id
    · rw [if_pos (beq_iff_eq.mpr here), map_replacedBy_of_not_mem (here ▸ distinct.1),
        Node.replacedBy, if_pos here]
    · rw [if_neg (by simpa using here), ih distinct.2, Node.replacedBy_of_ne here]

/-- The node as it is once the content of the node with the id is set. -/
def Node.rewritten (id content : String) (n : Node) : Node :=
  { n with content := if n.id = id then content else n.content }

theorem replaceFirst_content {s : Node} (content : String) {nodes : List Node}
    (distinct : (nodes.map (·.id)).Nodup) (hs : s ∈ nodes) :
    replaceFirst { s with content } nodes = nodes.map (·.rewritten s.id content) := by
  rw [replaceFirst_eq_map _ distinct]
  refine List.map_congr_left fun n hn => ?_
  rw [Node.replacedBy, Node.rewritten]
  by_cases here : n.id = s.id
  · rw [if_pos here, if_pos here, Graph.eq_of_id_eq distinct hn hs here]
  · rw [if_neg here, if_neg here]

namespace Graph

/-- The graph once the content of the step `s` is set. -/
def rewritten (g : Graph) (s : Node) (content : String) : Graph :=
  { g with nodes := replaceFirst { s with content } g.nodes }

section Rewritten

variable {g : Graph} {s : Node} (ids : (g.nodes.map (·.id)).Nodup) (hs : s ∈ g.nodes)
  (content : String)

include ids hs

theorem setField_content : g.setField s.id "content" (.str content) =
    .ok (some ({ s with content }, g.rewritten s content)) := by
  have named : NodeField.ofName "content" = .ok .content := by decide
  have set : s.set .content (.str content) = .ok { s with content } := rfl
  unfold setField
  simp [named, node?_of_mem ids hs, set, bind, Except.bind, pure, Except.pure, rewritten]

theorem rewritten_nodes :
    (g.rewritten s content).nodes = g.nodes.map (·.rewritten s.id content) :=
  replaceFirst_content content ids hs

theorem image_rewritten : Image id (·.rewritten s.id content) g (g.rewritten s content) where
  apart := Set.injOn_id _
  id := fun _ _ => rfl
  order := fun _ _ => rfl
  start := fun _ _ => rfl
  nodes := .of_eq (rewritten_nodes ids hs content)
  edges := .of_eq (by simp [rewritten, pairs])

theorem rewritten_node? : (g.rewritten s content).node? s.id = some { s with content } := by
  have same : s.rewritten s.id content = { s with content } := by
    rw [Node.rewritten, if_pos rfl]
  have inside : s.rewritten s.id content ∈ (g.rewritten s content).nodes := by
    rw [rewritten_nodes ids hs content]
    exact List.mem_map_of_mem hs
  rw [← same]
  exact node?_of_mem ((image_rewritten ids hs content).nodeIds ids) inside

theorem rewritten_feeders (id : String) :
    (g.rewritten s content).feeders id = (g.feeders id).map (·.rewritten s.id content) := by
  rw [feeders, feeders, rewritten_nodes ids hs content, List.filter_map]
  rfl

theorem rewritten_fedByStart : (g.rewritten s content).fedByStart s.id = g.fedByStart s.id :=
  (image_rewritten ids hs content).fedByStart ids (id_mem_mentions hs)

/-- What a check says about a tag does not depend on any content. -/
theorem tagProblem_rewritten (p : Profile) (tag : String) :
    (g.rewritten s content).tagProblem p { s with content } tag = g.tagProblem p s tag :=
  tagProblem_congr rfl ((image_rewritten ids hs content).feederOrders (id_mem_mentions hs))
    (rewritten_fedByStart ids hs content) tag

end Rewritten

theorem mem_steps_rewritten {g : Graph} {s : Node} (ids : (g.nodes.map (·.id)).Nodup)
    (hs : s ∈ g.steps) (content : String) :
    { s with content } ∈ (g.rewritten s content).steps := by
  obtain ⟨inside, step⟩ := mem_steps.mp hs
  exact mem_steps.mpr ⟨mem_of_node? (rewritten_node? ids inside content), step⟩

end Graph

end Stepflow
