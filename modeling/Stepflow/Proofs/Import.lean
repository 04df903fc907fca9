import Stepflow.Document.Import
import Stepflow.Proofs.Graph
import Stepflow.Proofs.Integer
import Stepflow.Proofs.Supply

/-!
# The graph of an imported document

The nodes and edges of `Import.graph`, told from the document alone. Nodes of different orders
have different ids whatever tags are drawn; nodes of one order need tags that differ.

Results:
1. `build_ids_nodup_of_orders`, `build_ids_nodup_of_tags`: when the ids of the steps are distinct.
2. `graph_nodes`, `joins_graph`: the graph has the start, the steps, and the edges of `wires`.
3. `mem_wires_of_step`, `mem_wires_of_start`: which steps, and whether the start, lead to a step.
4. `graph_pairs_nodup`: no two nodes are joined twice.
5. `imported_cases`: how an import ends.
-/

namespace Stepflow.Import

/-! ## Building the steps -/

theorem build_cons (position : Nat) (step : List (String × Json))
    (rest : List (List (String × Json))) (supply : Supply) :
    build position (step :: rest) supply =
      (⟨step, node step position (supply.tag (supply.drawn + 1))⟩ ::
          (build (position + 1) rest { supply with drawn := supply.drawn + 1 }).1,
        (build (position + 1) rest { supply with drawn := supply.drawn + 1 }).2) :=
  rfl

theorem build_steps (position : Nat) (steps : List (List (String × Json))) (supply : Supply) :
    (build position steps supply).1.map (·.step) = steps := by
  induction steps generalizing position supply with
  | nil => rfl
  | cons step rest ih => rw [build_cons, List.map_cons, ih]

/-- Building draws one tag for each step. -/
theorem build_supply (position : Nat) (steps : List (List (String × Json))) (supply : Supply) :
    (build position steps supply).2 = { supply with drawn := supply.drawn + steps.length } := by
  induction steps generalizing position supply with
  | nil => rfl
  | cons step rest ih =>
    rw [build_cons, ih, List.length_cons]
    simp only [Supply.mk.injEq, true_and, and_true]
    omega

theorem mem_build {position : Nat} {steps : List (List (String × Json))} {supply : Supply}
    {b : Built} (h : b ∈ (build position steps supply).1) :
    ∃ i < steps.length,
      b.node = node b.step (position + i) (supply.tag (supply.drawn + 1 + i)) := by
  induction steps generalizing position supply with
  | nil => cases h
  | cons step rest ih =>
    rw [build_cons] at h
    rcases List.mem_cons.mp h with rfl | later
    · exact ⟨0, Nat.zero_lt_succ _, rfl⟩
    · obtain ⟨i, inside, same⟩ := ih later
      refine ⟨i + 1, Nat.succ_lt_succ inside, ?_⟩
      rw [same]
      simp only [Nat.add_assoc, Nat.add_comm 1 i]

theorem build_orders (position : Nat) (steps : List (List (String × Json))) (supply : Supply) :
    (build position steps supply).1.map (·.node.order) = ordersFrom position steps := by
  induction steps generalizing position supply with
  | nil => rfl
  | cons step rest ih =>
    rw [build_cons, List.map_cons, ih]
    rfl

/-! ## Ids of the steps -/

/-- The id of a step tells its order and its tag. -/
theorem node_id_inj {step other : List (String × Json)} {position place : Nat} {tag mark : String}
    (h : (node step position tag).id = (node other place mark).id) :
    orderOf step position = orderOf other place ∧ tag = mark := by
  have text := congrArg String.toList h
  simp only [node, String.toList_append, Numeral.write, String.toList_ofList,
    List.append_assoc] at text
  obtain ⟨order, rest⟩ := Numeral.digits_append_dash_inj (List.append_cancel_left text)
  exact ⟨order, String.toList_injective rest⟩

theorem node_id_ne_start (step : List (String × Json)) (position : Nat) (tag : String) :
    (node step position tag).id ≠ Node.start.id := by
  intro h
  have text := congrArg (·.toList.head?) h
  simp [node, Node.start] at text

theorem build_id_ne_start {position : Nat} {steps : List (List (String × Json))} {supply : Supply}
    {b : Built} (h : b ∈ (build position steps supply).1) : b.node.id ≠ Node.start.id := by
  obtain ⟨i, -, same⟩ := mem_build h
  rw [same]
  exact node_id_ne_start _ _ _

theorem build_isStart {position : Nat} {steps : List (List (String × Json))} {supply : Supply}
    {b : Built} (h : b ∈ (build position steps supply).1) : b.node.isStart = false := by
  obtain ⟨i, -, same⟩ := mem_build h
  rw [same]
  rfl

/-- Steps of distinct orders have distinct ids, whatever tags are drawn. -/
theorem build_ids_nodup_of_orders {position : Nat} {steps : List (List (String × Json))}
    {supply : Supply} (distinct : (ordersFrom position steps).Nodup) :
    ((build position steps supply).1.map (·.node.id)).Nodup := by
  induction steps generalizing position supply with
  | nil => exact List.nodup_nil
  | cons step rest ih =>
    rw [ordersFrom, List.nodup_cons, ← build_orders _ _ { supply with drawn := supply.drawn + 1 }]
      at distinct
    rw [build_cons, List.map_cons, List.nodup_cons]
    refine ⟨?_, ih (build_orders .. ▸ distinct.2)⟩
    intro clash
    obtain ⟨b, later, same⟩ := List.mem_map.mp clash
    obtain ⟨i, -, built⟩ := mem_build later
    rw [built] at same
    refine distinct.1 (List.mem_map.mpr ⟨b, later, ?_⟩)
    rw [built]
    exact (node_id_inj same).1

/-- Steps with distinct tags have distinct ids. -/
theorem build_ids_nodup_of_tags {position : Nat} {steps : List (List (String × Json))}
    {supply : Supply} (distinct : supply.Distinct steps.length) :
    ((build position steps supply).1.map (·.node.id)).Nodup := by
  induction steps generalizing position supply with
  | nil => exact List.nodup_nil
  | cons step rest ih =>
    rw [build_cons, List.map_cons, List.nodup_cons]
    refine ⟨?_, ih distinct.tail⟩
    intro clash
    obtain ⟨b, later, same⟩ := List.mem_map.mp clash
    obtain ⟨i, inside, built⟩ := mem_build later
    rw [built] at same
    have tags := (node_id_inj same).2
    have := distinct (by simp) (by simp; omega) tags.symm
    simp at this
    omega

/-! ## Wiring -/

def last? (nodes : List Node) (order : Int) : Option Node :=
  nodes.reverse.find? (·.order == order)

theorem last?_spec {nodes : List Node} {order : Int} {n : Node} (h : last? nodes order = some n) :
    n ∈ nodes ∧ n.order = order :=
  ⟨List.mem_reverse.mp (List.mem_of_find?_eq_some h), by simpa using List.find?_some h⟩

/-- Where no order comes twice, the last node of an order is the only one. -/
theorem last?_eq_some_iff {nodes : List Node} (distinct : (nodes.map (·.order)).Nodup) {n : Node}
    (hn : n ∈ nodes) {order : Int} : last? nodes order = some n ↔ n.order = order := by
  constructor
  · intro found
    exact (last?_spec found).2
  · rintro rfl
    cases found : last? nodes n.order with
    | none =>
      have miss := List.find?_eq_none.mp found n (List.mem_reverse.mpr hn)
      exact absurd (beq_self_eq_true n.order) miss
    | some m =>
      obtain ⟨hm, same⟩ := last?_spec found
      rw [List.inj_on_of_nodup_map distinct hm hn same]

theorem exists_last?_iff {nodes : List Node} {order : Int} :
    (∃ n, last? nodes order = some n) ↔ order ∈ nodes.map (·.order) := by
  rw [← Option.isSome_iff_exists, last?, List.find?_isSome]
  simp

theorem idOf?_eq_some_iff {nodes : List Node} {order : Int} {id : String} :
    idOf? nodes order = some id ↔ ∃ n, last? nodes order = some n ∧ n.id = id :=
  Option.map_eq_some_iff

/-- The orders of the steps that run once for every iteration value. -/
def iterable (fields : List (String × Json)) : List Int :=
  ((get fields "iterable_steps").list?.getD []).filterMap Json.integer?

namespace Built

def declared? (b : Built) : Option (List Int) :=
  Dependencies.orders? (get b.step "depends_on")

/-- The orders that a step takes its input from: those it declares, or else the one before. -/
def sources (b : Built) : List Int :=
  match b.declared? with
  | some orders => orders
  | none => if 1 < b.node.order then [b.node.order - 1] else []

/-- A step of the first order that declares nothing follows the start. -/
def followsStart (b : Built) : Bool :=
  b.declared?.isNone && b.node.order == 1

end Built

theorem mem_stepWires {nodes : List Node} {b : Built} {source target : String} :
    (source, target) ∈ stepWires nodes b ↔
      target = b.node.id ∧
        (b.followsStart = true ∧ source = Node.start.id ∨
          ∃ order ∈ b.sources, idOf? nodes order = some source) := by
  have ends {sources : List String} :
      (source, target) ∈ sources.map (fun id => (id, b.node.id)) ↔
        target = b.node.id ∧ source ∈ sources := by
    rw [List.mem_map]
    constructor
    · rintro ⟨id, mem, same⟩
      cases same
      exact ⟨rfl, mem⟩
    · rintro ⟨rfl, mem⟩
      exact ⟨source, mem, rfl⟩
  -- What remains is about sources only, one case for each rule of wiring.
  unfold stepWires
  rw [ends]
  refine and_congr_right fun _ => ?_
  unfold Built.followsStart Built.sources Built.declared?
  cases Dependencies.orders? (get b.step "depends_on") with
  | some orders => simp
  | none =>
    by_cases first : b.node.order = 1
    · simp [first]
    · by_cases later : 1 < b.node.order
      · simp [first, later]
      · simp [first, later]

theorem mem_iterationWires {fields : List (String × Json)} {nodes : List Node}
    {source target : String} :
    (source, target) ∈ iterationWires fields nodes ↔
      (get fields "iterate_flow").truthy = true ∧ source = Node.start.id ∧
        ∃ order ∈ iterable fields, idOf? nodes order = some target := by
  unfold iterationWires iterable
  split
  · next on =>
    simp only [on, true_and, List.mem_map, List.mem_filterMap, Prod.mk.injEq,
      Option.bind_eq_some_iff]
    constructor
    · rintro ⟨id, ⟨value, mem, order, read, found⟩, rfl, rfl⟩
      exact ⟨rfl, order, ⟨value, mem, read⟩, found⟩
    · rintro ⟨rfl, order, ⟨value, mem, read⟩, found⟩
      exact ⟨target, ⟨value, mem, order, read, found⟩, rfl, rfl⟩
  · next off => simp [off]

theorem exists_of_idOf? {bs : List Built} {order : Int} {id : String}
    (h : idOf? (bs.map (·.node)) order = some id) : ∃ b ∈ bs, b.node.id = id := by
  obtain ⟨n, last, rfl⟩ := idOf?_eq_some_iff.mp h
  obtain ⟨b, hb, rfl⟩ := List.mem_map.mp (last?_spec last).1
  exact ⟨b, hb, rfl⟩

/-- No wire dangles. -/
theorem ends_of_mem_wires {fields : List (String × Json)} {bs : List Built} {source target : String}
    (h : (source, target) ∈ wires fields bs) :
    (source = Node.start.id ∨ ∃ b ∈ bs, b.node.id = source) ∧ ∃ b ∈ bs, b.node.id = target := by
  rcases List.mem_append.mp h with iteration | step
  · obtain ⟨-, rfl, order, -, found⟩ := mem_iterationWires.mp iteration
    exact ⟨.inl rfl, exists_of_idOf? found⟩
  · obtain ⟨b, hb, wire⟩ := List.mem_flatMap.mp step
    obtain ⟨rfl, ⟨-, rfl⟩ | ⟨order, -, found⟩⟩ := mem_stepWires.mp wire
    · exact ⟨.inl rfl, b, hb, rfl⟩
    · exact ⟨.inr (exists_of_idOf? found), b, hb, rfl⟩

section Distinct

variable {fields : List (String × Json)} {built : List Built}
  (distinct : (built.map (·.node.id)).Nodup) (apart : ∀ b ∈ built, b.node.id ≠ Node.start.id)

include distinct

theorem eq_of_node_id {b c : Built} (hb : b ∈ built) (hc : c ∈ built)
    (same : b.node.id = c.node.id) : b = c :=
  List.inj_on_of_nodup_map distinct hb hc same

/-- An order stands for the last step that carries it. -/
theorem idOf?_node {b : Built} (hb : b ∈ built) {order : Int} :
    idOf? (built.map (·.node)) order = some b.node.id ↔
      last? (built.map (·.node)) order = some b.node := by
  rw [idOf?_eq_some_iff]
  constructor
  · rintro ⟨n, found, same⟩
    obtain ⟨c, hc, rfl⟩ := List.mem_map.mp (last?_spec found).1
    rw [found, eq_of_node_id distinct hc hb same]
  · intro found
    exact ⟨b.node, found, rfl⟩

include apart

/-- The wires from one step to another. -/
theorem mem_wires_of_step {b c : Built} (hb : b ∈ built) (hc : c ∈ built) :
    (b.node.id, c.node.id) ∈ wires fields built ↔
      b.node.order ∈ c.sources ∧ last? (built.map (·.node)) b.node.order = some b.node := by
  simp only [wires, List.mem_append, List.mem_flatMap, mem_iterationWires, mem_stepWires]
  constructor
  · rintro (⟨-, start, -⟩ | ⟨d, hd, same, ⟨-, start⟩ | ⟨order, declared, found⟩⟩)
    · exact absurd start (apart b hb)
    · exact absurd start (apart b hb)
    · obtain rfl := eq_of_node_id distinct hc hd same
      rw [idOf?_node distinct hb] at found
      obtain ⟨-, rfl⟩ := last?_spec found
      exact ⟨declared, found⟩
  · rintro ⟨declared, found⟩
    exact .inr ⟨c, hc, rfl, .inr ⟨_, declared, (idOf?_node distinct hb).mpr found⟩⟩

/-- The wires from the start to a step. -/
theorem mem_wires_of_start {c : Built} (hc : c ∈ built) :
    (Node.start.id, c.node.id) ∈ wires fields built ↔
      c.followsStart = true ∨
        (get fields "iterate_flow").truthy = true ∧ c.node.order ∈ iterable fields ∧
          last? (built.map (·.node)) c.node.order = some c.node := by
  simp only [wires, List.mem_append, List.mem_flatMap, mem_iterationWires, mem_stepWires]
  constructor
  · rintro (⟨on, -, order, listed, found⟩ | ⟨d, hd, same, ⟨follows, -⟩ | ⟨order, -, found⟩⟩)
    · rw [idOf?_node distinct hc] at found
      obtain ⟨-, rfl⟩ := last?_spec found
      exact .inr ⟨on, listed, found⟩
    · obtain rfl := eq_of_node_id distinct hc hd same
      exact .inl follows
    · -- No order stands for the start.
      obtain ⟨n, last, start⟩ := idOf?_eq_some_iff.mp found
      obtain ⟨e, he, rfl⟩ := List.mem_map.mp (last?_spec last).1
      exact absurd start (apart e he)
  · rintro (follows | ⟨on, listed, found⟩)
    · exact .inr ⟨c, hc, rfl, .inl ⟨follows, trivial⟩⟩
    · exact .inl ⟨on, trivial, _, listed, (idOf?_node distinct hc).mpr found⟩

end Distinct

/-! ## Linking the wires -/

theorem linkAll_nodes (g : Graph) (supply : Supply) (pairs : List (String × String)) :
    (linkAll g supply pairs).1.nodes = g.nodes := by
  induction pairs generalizing g supply with
  | nil => rfl
  | cons pair rest ih =>
    obtain ⟨source, target⟩ := pair
    rw [linkAll, ih, Graph.link_nodes]

theorem joins_linkAll (g : Graph) (supply : Supply) (pairs : List (String × String))
    {a b : String} : (linkAll g supply pairs).1.Joins a b ↔ g.Joins a b ∨ (a, b) ∈ pairs := by
  induction pairs generalizing g supply with
  | nil => simp [linkAll]
  | cons pair rest ih =>
    obtain ⟨source, target⟩ := pair
    rw [linkAll, ih, Graph.joins_link, List.mem_cons, or_assoc]

theorem linkAll_pairs_nodup {g : Graph} (h : g.pairs.Nodup) (supply : Supply)
    (pairs : List (String × String)) : (linkAll g supply pairs).1.pairs.Nodup := by
  induction pairs generalizing g supply with
  | nil => exact h
  | cons pair rest ih =>
    obtain ⟨source, target⟩ := pair
    rw [linkAll]
    exact ih (Graph.pairs_link_nodup h source target supply) _

/-! ## The graph -/

def built (fields : List (String × Json)) (supply : Supply) : List Built :=
  (build 1 (objects fields "steps") supply).1

theorem built_orders (fields : List (String × Json)) (supply : Supply) :
    (built fields supply).map (·.node.order) = orders fields :=
  build_orders _ _ _

theorem orders_length (fields : List (String × Json)) :
    (orders fields).length = (objects fields "steps").length := by
  have supply : Supply := ⟨fun _ => "", fun _ => ⟨0⟩, 0, 0⟩
  rw [← built_orders fields supply, List.length_map, ← build_steps 1 (objects fields "steps") supply,
    List.length_map]
  rfl

theorem ids_nodup_of_fresh {fields : List (String × Json)} {supply : Supply}
    (fresh : supply.Distinct (orders fields).length) :
    ((built fields supply).map (·.node.id)).Nodup :=
  build_ids_nodup_of_tags (orders_length fields ▸ fresh)

/-- The steps of a document carry integers within the limit if its order fields do. -/
theorem fits_of_mem_orders {fields : List (String × Json)}
    (integers : ∀ step ∈ objects fields "steps", ∀ n,
      get step "sequence_order" = .int n → Numeral.fits n = true)
    (short : (objects fields "steps").length < 10 ^ Numeral.maxDigits) :
    ∀ n ∈ orders fields, Numeral.fits n = true := by
  have supply : Supply := ⟨fun _ => "", fun _ => ⟨0⟩, 0, 0⟩
  intro n hn
  rw [← built_orders fields supply] at hn
  obtain ⟨b, hb, rfl⟩ := List.mem_map.mp hn
  have inside : b.step ∈ objects fields "steps" := by
    rw [← build_steps 1 (objects fields "steps") supply]
    exact List.mem_map.mpr ⟨b, hb, rfl⟩
  obtain ⟨i, within, here⟩ := mem_build hb
  rw [here]
  show Numeral.fits (orderOf b.step (1 + i)) = true
  unfold orderOf
  cases read : (get b.step "sequence_order").integer? with
  | some k => exact Json.fits_of_integer? read (integers b.step inside)
  -- A step without a usable order carries its position.
  | none =>
    rw [Option.getD_none, Numeral.fits_iff, Int.natAbs_natCast]
    omega

theorem graph_nodes (fields : List (String × Json)) (supply : Supply) :
    (graph fields supply).1.nodes = Node.start :: (built fields supply).map (·.node) :=
  linkAll_nodes _ _ _

theorem joins_graph (fields : List (String × Json)) (supply : Supply) {a b : String} :
    (graph fields supply).1.Joins a b ↔ (a, b) ∈ wires fields (built fields supply) := by
  refine (joins_linkAll _ _ _).trans (or_iff_right ?_)
  rintro ⟨e, mem, -⟩
  cases mem

/-- No two nodes of an imported graph are joined twice. -/
theorem graph_pairs_nodup (fields : List (String × Json)) (supply : Supply) :
    (graph fields supply).1.pairs.Nodup :=
  linkAll_pairs_nodup (g := ⟨_, []⟩) List.nodup_nil _ _

theorem graph_steps (fields : List (String × Json)) (supply : Supply) :
    (graph fields supply).1.steps = (built fields supply).map (·.node) := by
  rw [Graph.steps, graph_nodes, List.filter_cons_of_neg (by simp [Node.start]),
    List.filter_eq_self]
  intro n mem
  obtain ⟨b, hb, rfl⟩ := List.mem_map.mp mem
  simp [build_isStart hb]

/-- The start is the only node of an imported graph that counts as one. -/
theorem graph_isStart (fields : List (String × Json)) (supply : Supply) {id : String} :
    (graph fields supply).1.isStart id = true ↔ id = Node.start.id := by
  unfold Graph.isStart Graph.node?
  rw [graph_nodes, List.find?_cons]
  by_cases start : id = Node.start.id
  · simp [start, Node.start]
  · simp only [beq_false_of_ne (Ne.symm start), start, iff_false, Bool.not_eq_true]
    rw [Option.any_eq_false]
    intro n found
    obtain ⟨b, hb, rfl⟩ := List.mem_map.mp (List.mem_of_find?_eq_some found)
    exact Bool.not_eq_true _ ▸ build_isStart hb

/-! ## Imports that fail -/

theorem imported_of_fits {fields : List (String × Json)}
    (fits : ∀ n ∈ orders fields, Numeral.fits n = true) (env : Environment) (supply : Supply) :
    imported env fields supply =
      (.ok (document env fields supply).1, (document env fields supply).2) :=
  if_pos (List.all_eq_true.mpr fits)

/-- An import makes what the document says, or fails for an order and has only drawn tags. -/
theorem imported_cases (env : Environment) (fields : List (String × Json)) (supply : Supply) :
    imported env fields supply =
        (.ok (document env fields supply).1, (document env fields supply).2) ∨
      ∃ later, imported env fields supply = (.error .written, later) ∧ supply.Later later := by
  by_cases fits : (orders fields).all Numeral.fits = true
  · exact .inl (if_pos fits)
  · exact .inr ⟨_, if_neg fits, rfl, Nat.le_add_right _ _, rfl, Nat.le_refl _⟩

end Stepflow.Import
