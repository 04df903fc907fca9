import Stepflow.Proofs.Import
import Stepflow.Proofs.Reader

/-!
# How a document is wired

Every document has a graph, and the graph is told from the document alone: one step for each object
in its list of steps, and between the steps the edges that the document asks for and no others.
`Wired` says which these are. An order stands for the last step that carries it, so an earlier step
of the same order feeds nothing, though it may be fed.

Results:
1. `graph_wired`: the graph of a document is wired, as long as no ids clash.
2. `edgesFromStart_graph`: without iteration, its start leads to one step at most.
3. `readable_of_payload`: the document in a payload holds no integer beyond the limit.
4. `payload_wired`: the graph of every document in a payload.
-/

namespace Stepflow.Import

/-- The graph that a document asks for. -/
structure Wired (fields : List (String × Json)) (g : Graph) : Prop where
  nodes : g.nodes = Node.start :: g.steps
  /-- One step for each object, in its place; without an order of its own it takes its position. -/
  orders : g.steps.map (·.order) =
    (objects fields "steps").mapIdx fun i step =>
      (get step "sequence_order").integer?.getD (i + 1 : Nat)
  ids : (g.nodes.map (·.id)).Nodup
  /-- A step is fed by the last steps of the orders that it declares. One that declares nothing is
  fed by the last step of the order before it, unless that order is below the first. -/
  fromSteps : ∀ step t, (step, t) ∈ (objects fields "steps").zip g.steps → ∀ s ∈ g.steps,
    (g.Joins s.id t.id ↔
      match Dependencies.orders? (get step "depends_on") with
      | some orders => ∃ k ∈ orders, last? g.steps k = some s
      | none => 1 < t.order ∧ last? g.steps (t.order - 1) = some s)
  /-- The start feeds the last step of every iterable order, and every step of the first order that
  declares nothing. -/
  fromStart : ∀ step t, (step, t) ∈ (objects fields "steps").zip g.steps →
    (g.Joins Node.start.id t.id ↔
      ((get fields "iterate_flow").truthy = true ∧
          (∃ items, get fields "iterable_steps" = .list items ∧
            ∃ value ∈ items, value.integer? = some t.order) ∧
          last? g.steps t.order = some t) ∨
        (Dependencies.orders? (get step "depends_on") = none ∧ t.order = 1))
  ends : ∀ e ∈ g.edges,
    (e.source = Node.start.id ∨ ∃ s ∈ g.steps, s.id = e.source) ∧ ∃ t ∈ g.steps, t.id = e.target
  once : g.pairs.Nodup

/-! ## The graph of a document -/

theorem ordersFrom_eq_mapIdx (position : Nat) (steps : List (List (String × Json))) :
    ordersFrom position steps = steps.mapIdx fun i step => orderOf step (i + position) := by
  induction steps generalizing position with
  | nil => rfl
  | cons step rest ih =>
    rw [ordersFrom, ih, List.mapIdx_cons, Nat.zero_add]
    simp only [Nat.add_assoc, Nat.add_comm 1 position]

theorem mem_iterable {fields : List (String × Json)} {k : Int} :
    k ∈ iterable fields ↔ ∃ items, get fields "iterable_steps" = .list items ∧
      ∃ value ∈ items, value.integer? = some k := by
  unfold iterable
  cases get fields "iterable_steps" <;> simp [Json.list?]

section Graph

variable {fields : List (String × Json)} {supply : Supply}

/-- The objects of a document stand beside the steps that are built for them. -/
theorem zip_steps (fields : List (String × Json)) (supply : Supply) :
    (objects fields "steps").zip (graph fields supply).1.steps =
      (built fields supply).map fun b => (b.step, b.node) := by
  have steps : objects fields "steps" = (built fields supply).map (·.step) :=
    (build_steps _ _ _).symm
  rw [graph_steps, steps, List.zip_map']

theorem mem_graph_steps {n : Node} :
    n ∈ (graph fields supply).1.steps ↔ ∃ b ∈ built fields supply, b.node = n := by
  rw [graph_steps, List.mem_map]

variable (distinct : ((built fields supply).map (·.node.id)).Nodup)

include distinct

theorem graph_ids_nodup : ((graph fields supply).1.nodes.map (·.id)).Nodup := by
  rw [graph_nodes, List.map_cons, List.nodup_cons, List.map_map]
  refine ⟨?_, distinct⟩
  intro clash
  obtain ⟨b, hb, same⟩ := List.mem_map.mp clash
  exact build_id_ne_start hb same

/-- The edges into a step from another, told by what the step declares. -/
theorem joins_graph_iff {b c : Built} (hb : b ∈ built fields supply) (hc : c ∈ built fields supply) :
    (graph fields supply).1.Joins b.node.id c.node.id ↔
      match c.declared? with
      | some orders => ∃ k ∈ orders, last? (graph fields supply).1.steps k = some b.node
      | none => 1 < c.node.order ∧
          last? (graph fields supply).1.steps (c.node.order - 1) = some b.node := by
  have apart : ∀ d ∈ built fields supply, d.node.id ≠ Node.start.id := fun d hd =>
    build_id_ne_start hd
  -- The order that a step is found by is its own.
  have own {k : Int} (found : last? ((built fields supply).map (·.node)) k = some b.node) :
      b.node.order = k := (last?_spec found).2
  rw [joins_graph, mem_wires_of_step distinct apart hb hc, graph_steps, Built.sources]
  cases c.declared? with
  | some orders =>
    constructor
    · rintro ⟨mem, found⟩
      exact ⟨_, mem, found⟩
    · rintro ⟨k, mem, found⟩
      obtain rfl := own found
      exact ⟨mem, found⟩
  | none =>
    by_cases later : 1 < c.node.order
    · simp only [later, if_true, List.mem_singleton, true_and]
      constructor
      · rintro ⟨order, found⟩
        rwa [order] at found
      · intro found
        have order := own found
        exact ⟨order, by rwa [order]⟩
    · simp [later]

theorem joins_start_iff {c : Built} (hc : c ∈ built fields supply) :
    (graph fields supply).1.Joins Node.start.id c.node.id ↔
      ((get fields "iterate_flow").truthy = true ∧ c.node.order ∈ iterable fields ∧
          last? (graph fields supply).1.steps c.node.order = some c.node) ∨
        (c.declared? = none ∧ c.node.order = 1) := by
  have apart : ∀ d ∈ built fields supply, d.node.id ≠ Node.start.id := fun d hd =>
    build_id_ne_start hd
  rw [joins_graph, mem_wires_of_start distinct apart hc, graph_steps, or_comm]
  simp [Built.followsStart]

/-- The graph of a document is the one that it asks for. -/
theorem graph_wired : Wired fields (graph fields supply).1 where
  nodes := by rw [graph_steps, graph_nodes]
  orders := by
    rw [graph_steps, List.map_map]
    exact (built_orders fields supply).trans (ordersFrom_eq_mapIdx 1 _)
  ids := graph_ids_nodup distinct
  fromSteps := by
    intro step t pair s hs
    rw [zip_steps] at pair
    obtain ⟨c, hc, same⟩ := List.mem_map.mp pair
    cases same
    obtain ⟨b, hb, rfl⟩ := mem_graph_steps.mp hs
    exact joins_graph_iff distinct hb hc
  fromStart := by
    intro step t pair
    rw [zip_steps] at pair
    obtain ⟨c, hc, same⟩ := List.mem_map.mp pair
    cases same
    rw [joins_start_iff distinct hc, mem_iterable]
    rfl
  ends := by
    intro e he
    have wire := (joins_graph fields supply).mp ⟨e, he, rfl, rfl⟩
    obtain ⟨source, b, hb, target⟩ := ends_of_mem_wires wire
    refine ⟨source.imp id ?_, b.node, mem_graph_steps.mpr ⟨b, hb, rfl⟩, target⟩
    rintro ⟨c, hc, same⟩
    exact ⟨c.node, mem_graph_steps.mpr ⟨c, hc, rfl⟩, same⟩
  once := graph_pairs_nodup fields supply

end Graph

/-- Without iteration, the start of a document whose orders differ leads to one step at most. -/
theorem edgesFromStart_graph {fields : List (String × Json)} (distinct : (orders fields).Nodup)
    (off : (get fields "iterate_flow").truthy = false) (supply : Supply) :
    (graph fields supply).1.edgesFromStart.length ≤ 1 := by
  have ids : ((built fields supply).map (·.node.id)).Nodup := build_ids_nodup_of_orders distinct
  have wired : Wired fields (graph fields supply).1 := graph_wired ids
  have apart : ((graph fields supply).1.steps.map (·.order)).Nodup := by
    rw [graph_steps, List.map_map]
    exact (built_orders fields supply).symm ▸ distinct
  -- All of these edges lead to the same step, which is the one of the first order.
  have first : ∀ e ∈ (graph fields supply).1.edgesFromStart,
      e.source = Node.start.id ∧
        ∃ t ∈ (graph fields supply).1.steps, t.order = 1 ∧ t.id = e.target := by
    intro e he
    obtain ⟨inside, start⟩ := List.mem_filter.mp he
    have source := (graph_isStart _ _).mp start
    obtain ⟨t, ht, target⟩ := (wired.ends e inside).2
    obtain ⟨c, hc, rfl⟩ := mem_graph_steps.mp ht
    have joined : (graph fields supply).1.Joins Node.start.id c.node.id :=
      ⟨e, inside, source, target.symm⟩
    rcases (joins_start_iff ids hc).mp joined with ⟨on, -⟩ | ⟨-, one⟩
    · rw [off] at on
      cases on
    · exact ⟨source, c.node, ht, one, target⟩
  refine Graph.edgesFromStart_length_le_one wired.once fun e he f hf => ?_
  obtain ⟨source, t, ht, one, target⟩ := first e he
  obtain ⟨source', t', ht', one', target'⟩ := first f hf
  rw [source, source', ← target, ← target',
    List.inj_on_of_nodup_map apart ht ht' (one.trans one'.symm)]

/-! ## Documents in payloads -/

/-- The document in a payload was read from a text. -/
theorem readable_of_payload {payload : Payload} {bounds : Bounds} {fields : List (String × Json)}
    (h : payload.read bounds = .ok fields) : (Json.obj fields).Readable := by
  have of_object {document : Json} (readable : document.Readable)
      (h : object document = .ok fields) : (Json.obj fields).Readable := by
    unfold object at h
    split at h
    · cases h
      exact readable
    · cases h
  unfold Payload.read at h
  split at h
  · cases h
  · cases payload with
    | text content =>
      simp only at h
      split at h
      · next read => exact of_object (Json.readable_of_read read) h
      · cases h
      · cases h
    | bytes content =>
      simp only at h
      split at h
      · next read => exact of_object (Json.readable_of_readBytes read) h
      · cases h
      · cases h

theorem readable_of_get {fields : List (String × Json)} (readable : (Json.obj fields).Readable)
    {name : String} {value : Json} (h : get fields name = value) (there : value ≠ .null) :
    value.Readable := by
  unfold get at h
  cases found : Json.fieldOf? fields name with
  | none =>
    rw [found] at h
    exact absurd h.symm there
  | some held =>
    rw [found, Option.getD_some] at h
    subst h
    exact Json.of_fieldOf? (fun field mem => readable.field mem) found

/-- No step of a document that is read carries an order beyond the limit. -/
theorem fits_of_readable {fields : List (String × Json)} (readable : (Json.obj fields).Readable)
    {step : List (String × Json)} (hs : step ∈ objects fields "steps") {n : Int}
    (hn : get step "sequence_order" = .int n) : Numeral.fits n = true := by
  obtain ⟨item, mem, object⟩ := List.mem_filterMap.mp hs
  cases held : get fields "steps" with
  | list items =>
    rw [held] at mem
    have list : (Json.list items).Readable := readable_of_get readable held (by simp)
    have here : item = .obj step := by
      split at object
      · cases object
        rfl
      · cases object
    have fields : (Json.obj step).Readable := here ▸ list.item mem
    exact (readable_of_get fields hn (by simp)).fits
  | _ =>
    rw [held] at mem
    cases mem

theorem fits_orders_of_readable {fields : List (String × Json)}
    (readable : (Json.obj fields).Readable)
    (short : (objects fields "steps").length < 10 ^ Numeral.maxDigits) :
    ∀ n ∈ orders fields, Numeral.fits n = true :=
  fits_of_mem_orders (fun _ mem _ => fits_of_readable readable mem) short

/-- Whatever document a payload holds, it is imported, and its graph is the one that the document
asks for; tags are all that is assumed to differ. No order is beyond the limit, so every id and
every label can be written, unless the list has more items than there are numerals. -/
theorem payload_wired (env : Environment) {payload : Payload} {bounds : Bounds}
    {fields : List (String × Json)} (read : payload.read bounds = .ok fields) {supply : Supply}
    (fresh : supply.Distinct (objects fields "steps").length) :
    ∃ g p later, document env fields supply = ((g, p), later) ∧ Wired fields g ∧
      ((objects fields "steps").length < 10 ^ Numeral.maxDigits →
        ∀ n ∈ g.steps, Numeral.fits n.order = true) := by
  have readable := readable_of_payload read
  refine ⟨_, _, _, rfl, graph_wired (build_ids_nodup_of_tags fresh), ?_⟩
  intro short n hn
  obtain ⟨b, hb, rfl⟩ := mem_graph_steps.mp hn
  refine fits_orders_of_readable readable short _ ?_
  rw [← built_orders fields supply]
  exact List.mem_map.mpr ⟨b, hb, rfl⟩

/-- Two steps of one order, of which the second names that order, something that is no step, and a
step without an order. -/
def tangle : List (String × Json) :=
  [("iterate_flow", .int 1), ("iterable_steps", .list [.str "2"]),
    ("steps", .list [.obj [("sequence_order", .int 2)], .int 7,
      .obj [("sequence_order", .int 2), ("depends_on", .str "2,x")], .obj []])]

def tangleText : String :=
  "\x7b\"iterate_flow\":1,\"iterable_steps\":[\"2\"],\"steps\":[\x7b\"sequence_order\":2\x7d,7," ++
    "\x7b\"sequence_order\":2,\"depends_on\":\"2,x\"\x7d,\x7b\x7d]\x7d"

theorem read_tangle : (Payload.text tangleText).read { size := 200, depth := 9 } = .ok tangle := by
  have small : ¬(200 : Int) < (Payload.text tangleText).size := by decide +kernel
  have read : Json.read tangleText 9 = .ok (.obj tangle) := by cbv
  unfold Payload.read
  simp only [if_neg small, read]
  rfl

theorem tangle_wired :
    (Payload.text tangleText).read { size := 200, depth := 9 } = .ok tangle ∧
      ∃ g p later, document {} tangle .numbered = ((g, p), later) ∧ Wired tangle g ∧
        ∀ n ∈ g.steps, Numeral.fits n.order = true := by
  have fresh : Supply.numbered.Distinct 3 := Supply.distinct_of_nodup (by decide)
  obtain ⟨g, p, later, imported, wired, fits⟩ := payload_wired {} read_tangle fresh
  exact ⟨read_tangle, g, p, later, imported, wired, fits (by decide +kernel)⟩

/-- The edges that this document gets. -/
example : (graph tangle .numbered).1.pairs =
    [("start", "node-2-00000002"), ("node-2-00000002", "node-2-00000002"),
      ("node-2-00000002", "node-3-00000003")] := by decide +kernel

end Stepflow.Import
