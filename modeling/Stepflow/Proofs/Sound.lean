import Stepflow.Edit
import Stepflow.Proofs.Field
import Stepflow.Proofs.Import

/-!
# Sound graphs

A graph is sound if it has one start, in front and of order zero, if all its ids differ, and if no
edge dangles or doubles another. Every edit keeps a graph sound, and every import makes a sound one.

New ids are told from old ones by their tags, so the invariant that carries this is a `Grown` graph:
a sound one whose ids show the numbers of the tags that they were made with.

Results:
1. `Grown.link`, `Grown.addStep`, `Grown.removeStep`, `Grown.setField`, `Grown.connect`,
   `Grown.disconnect`: each edit keeps a grown graph grown.
2. `Import.grown_graph`: the graph of every document is grown.
-/

namespace Stepflow

open Supply

/-- The id of a step shows the tag that was drawn for it, behind its order if it was imported. -/
def Node.Tagged (n : Node) (tag : String) : Prop :=
  n.id = "node-" ++ tag ∨ ∃ order : Int, n.id = "node-" ++ Numeral.write order ++ "-" ++ tag

namespace Graph

/-- One start in front, and ids, ends and pairs of ends as they should be. -/
structure Sound (g : Graph) : Prop where
  start : ∃ first rest, g.nodes = first :: rest ∧ first.isStart = true ∧ first.id = "start" ∧
    first.order = 0 ∧ ∀ n ∈ rest, n.isStart = false
  nodeIds : (g.nodes.map (·.id)).Nodup
  edgeIds : (g.edges.map (·.id)).Nodup
  closed : ∀ e ∈ g.edges, (∃ n ∈ g.nodes, n.id = e.source) ∧ ∃ n ∈ g.nodes, n.id = e.target
  pairs : g.pairs.Nodup

/-- A sound graph whose ids were made with tags behind number `base`. -/
structure Grown (g : Graph) (base : Nat) (s : Supply) : Prop extends g.Sound where
  begun : base ≤ s.drawn
  nodeTags : ∀ n ∈ g.nodes, n.isStart = false → ∃ i ∈ Set.Ioc base s.drawn, n.Tagged (s.tag i)
  edgeTags : ∀ e ∈ g.edges, ∃ i ∈ Set.Ioc base s.drawn, e.id = "edge-" ++ s.tag i

end Graph

/-! ## Tags in ids -/

theorem tag_eq_of_append {front tag mark : String} (same : front ++ tag = front ++ mark) :
    tag = mark := by
  have text := congrArg String.toList same
  rw [String.toList_append, String.toList_append] at text
  exact String.toList_injective (List.append_cancel_left text)

theorem Node.Tagged.id_ne_start {n : Node} {tag : String} (h : n.Tagged tag) : n.id ≠ "start" := by
  intro same
  have first := congrArg (·.toList.head?) same
  rcases h with plain | ⟨order, ordered⟩
  · rw [plain] at first
    simp at first
  · rw [ordered] at first
    simp at first

/-- Ids of steps with different tags differ. -/
theorem Node.Tagged.tag_eq {m n : Node} {tag mark : String} (hm : m.Tagged tag) (hn : n.Tagged mark)
    (hex : IsHex tag) (hex' : IsHex mark) (same : m.id = n.id) : tag = mark := by
  have dash {order : Int} {tag mark : String} (hex : IsHex tag)
      (same : "node-" ++ tag = "node-" ++ Numeral.write order ++ "-" ++ mark) : False := by
    have text := congrArg String.toList same
    simp only [String.toList_append, List.append_assoc] at text
    refine dash_not_mem_of_hex hex ?_
    rw [List.append_cancel_left text]
    simp
  rcases hm with plain | ⟨order, ordered⟩
  · rcases hn with plain' | ⟨order', ordered'⟩
    · rw [plain, plain'] at same
      exact tag_eq_of_append same
    · rw [plain, ordered'] at same
      exact (dash hex same).elim
  · rcases hn with plain' | ⟨order', ordered'⟩
    · rw [ordered, plain'] at same
      exact (dash hex' same.symm).elim
    · rw [ordered, ordered'] at same
      have text := congrArg String.toList same
      simp only [String.toList_append, Numeral.write, String.toList_ofList, List.append_assoc] at text
      obtain ⟨-, rest⟩ := Numeral.digits_append_dash_inj (List.append_cancel_left text)
      exact String.toList_injective rest

namespace Graph

/-! ## Linking and connecting -/

theorem link_later (g : Graph) (source target : String) (s : Supply) :
    s.Later (g.link source target s).2.2 := by
  rcases link_cases g source target s with ⟨-, same⟩ | ⟨-, added⟩
  · rw [same]
    exact .refl s
  · rw [added]
    exact s.later_draw

/-- Connecting is linking two nodes. A start that is not linked to the target yet has no way out, or
it may have several. -/
theorem connect_cases {g h : Graph} {source target : String} {iterates : Bool} {s t : Supply}
    {e : Edge} (done : g.connect source target iterates s = .ok (e, h, t)) :
    ∃ m n, g.node? source = some m ∧ g.node? target = some n ∧
      (¬g.Joins source target → m.isStart = true → iterates = true ∨ g.edgesFrom source = []) ∧
        g.link source target s = (e, h, t) := by
  unfold connect at done
  split at done
  · cases done
  · cases done
  · next m n hm hn =>
    split at done
    · cases done
    · next allowed =>
      refine ⟨m, n, hm, hn, fun apart start => ?_, Except.ok.inj done⟩
      rw [edgeBetween?_eq_none_iff.mpr apart, start] at allowed
      cases iterates with
      | true => exact .inl rfl
      | false => exact .inr (by simpa using allowed)

section Grown

variable {g : Graph} {base top : Nat} {s t : Supply}

/-- What a grown graph owes to its supply holds later as well. -/
theorem Grown.later (grown : g.Grown base s) (later : s.Later t) : g.Grown base t where
  toSound := grown.toSound
  begun := Nat.le_trans grown.begun later.drawn
  nodeTags := by
    intro n hn step
    obtain ⟨i, hi, tagged⟩ := grown.nodeTags n hn step
    exact ⟨i, ⟨hi.1, Nat.le_trans hi.2 later.drawn⟩, later.tag ▸ tagged⟩
  edgeTags := by
    intro e he
    obtain ⟨i, hi, tagged⟩ := grown.edgeTags e he
    exact ⟨i, ⟨hi.1, Nat.le_trans hi.2 later.drawn⟩, later.tag ▸ tagged⟩

/-- The next tag is in no id yet. -/
theorem Grown.tag_ne (grown : g.Grown base s) (fresh : Set.InjOn s.tag (Set.Ioc base top))
    (inside : s.drawn + 1 ≤ top) {i : Nat} (hi : i ∈ Set.Ioc base s.drawn) :
    s.tag i ≠ s.tag (s.drawn + 1) := by
  intro same
  have number := fresh ⟨hi.1, Nat.le_trans hi.2 (Nat.le_of_succ_le inside)⟩
    ⟨Nat.lt_succ_of_le grown.begun, inside⟩ same
  exact absurd hi.2 (by omega)

theorem Grown.link (grown : g.Grown base s) {source target : String}
    (hs : ∃ n ∈ g.nodes, n.id = source) (ht : ∃ n ∈ g.nodes, n.id = target)
    (fresh : Set.InjOn s.tag (Set.Ioc base top))
    (inside : (g.link source target s).2.2.drawn ≤ top) :
    (g.link source target s).2.1.Grown base (g.link source target s).2.2 := by
  have pairs := pairs_link_nodup grown.pairs source target s
  rcases link_cases g source target s with ⟨-, same⟩ | ⟨-, added⟩
  · rw [same]
    exact grown
  · rw [added] at inside pairs ⊢
    have later := grown.later s.later_draw
    constructor
    · refine ⟨grown.start, grown.nodeIds, ?_, ?_, pairs⟩
      · rw [List.map_append, List.map_singleton]
        refine List.Nodup.append grown.edgeIds (List.nodup_singleton _) ?_
        intro id old new
        obtain ⟨e, he, rfl⟩ := List.mem_map.mp old
        obtain ⟨i, hi, tagged⟩ := grown.edgeTags e he
        rw [List.mem_singleton, tagged] at new
        -- Every id in use ends in a tag that was drawn before.
        exact grown.tag_ne fresh inside hi (tag_eq_of_append new)
      · intro e he
        rcases List.mem_append.mp he with old | new
        · exact grown.closed e old
        · rw [List.mem_singleton] at new
          rw [new]
          exact ⟨hs, ht⟩
    · exact later.begun
    · exact later.nodeTags
    · intro e he
      rcases List.mem_append.mp he with old | new
      · exact later.edgeTags e old
      · rw [List.mem_singleton] at new
        rw [new]
        exact ⟨s.drawn + 1, ⟨Nat.lt_succ_of_le grown.begun, Nat.le_refl _⟩, rfl⟩

theorem Grown.connect (grown : g.Grown base s) {source target : String} {iterates : Bool} {e : Edge}
    {h : Graph} (done : g.connect source target iterates s = .ok (e, h, t))
    (fresh : Set.InjOn s.tag (Set.Ioc base top)) (inside : t.drawn ≤ top) : h.Grown base t := by
  obtain ⟨m, n, hm, hn, -, linked⟩ := connect_cases done
  have ends := grown.link ⟨m, mem_of_node? hm, id_of_node? hm⟩ ⟨n, mem_of_node? hn, id_of_node? hn⟩
    fresh (by rw [linked]; exact inside)
  rwa [linked] at ends

/-! ## Adding and removing -/

theorem Grown.addStep (grown : g.Grown base s) (kind : String) (fresh : s.Fresh base top)
    (inside : (g.addStep kind s).2.2.drawn ≤ top) :
    (g.addStep kind s).2.1.Grown base (g.addStep kind s).2.2 := by
  have later := grown.later s.later_draw
  have next : s.drawn + 1 ∈ Set.Ioc base (s.drawn + 1) :=
    ⟨Nat.lt_succ_of_le grown.begun, Nat.le_refl _⟩
  have tagged : (g.addStep kind s).1.Tagged (s.tag (s.drawn + 1)) := .inl rfl
  have step : (g.addStep kind s).1.isStart = false := rfl
  have nodes : (g.addStep kind s).2.1.nodes = g.nodes ++ [(g.addStep kind s).1] := rfl
  constructor
  · constructor
    · obtain ⟨first, rest, shape, isStart, id, order, others⟩ := grown.start
      refine ⟨first, rest ++ [(g.addStep kind s).1], by rw [nodes, shape]; rfl, isStart, id, order, ?_⟩
      intro n hn
      rcases List.mem_append.mp hn with old | new
      · exact others n old
      · rw [List.mem_singleton] at new
        rw [new, step]
    · rw [nodes, List.map_append, List.map_singleton]
      refine List.Nodup.append grown.nodeIds (List.nodup_singleton _) ?_
      intro id old new
      obtain ⟨n, hn, rfl⟩ := List.mem_map.mp old
      rw [List.mem_singleton] at new
      -- The start's id is made of no tag, so its case stands apart.
      cases start : n.isStart with
      | true =>
        obtain ⟨first, rest, shape, -, id, -, others⟩ := grown.start
        rw [shape] at hn
        rcases List.mem_cons.mp hn with rfl | later
        · exact tagged.id_ne_start (new.symm.trans id)
        · rw [others n later] at start
          cases start
      | false =>
        obtain ⟨i, hi, old⟩ := grown.nodeTags n hn start
        have hex := fresh.hex i ⟨hi.1, Nat.le_trans hi.2 (Nat.le_of_succ_le inside)⟩
        have hex' := fresh.hex _ ⟨next.1, inside⟩
        exact grown.tag_ne fresh.distinct inside hi (old.tag_eq tagged hex hex' new)
    · exact grown.edgeIds
    · intro e he
      obtain ⟨⟨m, hm, source⟩, n, hn, target⟩ := grown.closed e he
      rw [nodes]
      exact ⟨⟨m, List.mem_append_left _ hm, source⟩, n, List.mem_append_left _ hn, target⟩
    · exact grown.pairs
  · exact later.begun
  · intro n hn start
    rw [nodes] at hn
    rcases List.mem_append.mp hn with old | new
    · exact later.nodeTags n old start
    · rw [List.mem_singleton] at new
      rw [new]
      exact ⟨s.drawn + 1, next, tagged⟩
  · exact later.edgeTags

theorem Grown.removeStep (grown : g.Grown base s) {id : String} {h : Graph}
    (done : g.removeStep? id = some h) : h.Grown base s := by
  unfold removeStep? at done
  split at done
  · cases done
  · next n found =>
    split at done
    · cases done
    · next step =>
      cases done
      obtain ⟨first, rest, shape, isStart, startId, order, others⟩ := grown.start
      -- The id stands for a step, so it is not that of the start.
      have apart : first.id ≠ id := by
        intro same
        rw [node?, shape, List.find?_cons_of_pos (by simpa using same), Option.some.injEq] at found
        exact step (found ▸ isStart)
      constructor
      · constructor
        · refine ⟨first, rest.filter (·.id != id), ?_, isStart, startId, order, ?_⟩
          · rw [shape, List.filter_cons_of_pos (by simpa using apart)]
          · intro n hn
            exact others n (List.mem_filter.mp hn).1
        · exact grown.nodeIds.sublist (List.filter_sublist.map _)
        · exact grown.edgeIds.sublist (List.filter_sublist.map _)
        · intro e he
          obtain ⟨old, ends⟩ := List.mem_filter.mp he
          simp only [Bool.and_eq_true, bne_iff_ne] at ends
          obtain ⟨⟨m, hm, source⟩, n, hn, target⟩ := grown.closed e old
          refine ⟨⟨m, List.mem_filter.mpr ⟨hm, ?_⟩, source⟩, n, List.mem_filter.mpr ⟨hn, ?_⟩, target⟩
          · rw [source]
            simpa using ends.1
          · rw [target]
            simpa using ends.2
        · exact grown.pairs.sublist (List.filter_sublist.map _)
      · exact grown.begun
      · intro n hn
        exact grown.nodeTags n (List.mem_filter.mp hn).1
      · intro e he
        exact grown.edgeTags e (List.mem_filter.mp he).1

theorem Grown.disconnect (grown : g.Grown base s) {id : String} {h : Graph}
    (done : g.disconnect? id = some h) : h.Grown base s := by
  unfold disconnect? at done
  split at done
  · cases done
    constructor
    · refine ⟨grown.start, grown.nodeIds, ?_, ?_, ?_⟩
      · exact grown.edgeIds.sublist (List.filter_sublist.map _)
      · intro e he
        exact grown.closed e (List.mem_filter.mp he).1
      · exact grown.pairs.sublist (List.filter_sublist.map _)
    · exact grown.begun
    · exact grown.nodeTags
    · intro e he
      exact grown.edgeTags e (List.mem_filter.mp he).1
  · cases done

end Grown

end Graph

/-! ## Setting fields -/

/-- Setting a field keeps the identity of a node, and its order unless that is the field. -/
theorem Node.set_frame {n m : Node} {field : NodeField} {value : Json}
    (h : n.set field value = .ok m) :
    m.id = n.id ∧ m.isStart = n.isStart ∧ (field ≠ .order → m.order = n.order) := by
  unfold Node.set at h
  rw [Field.Checked.within_eq_ok_iff] at h
  cases field with
  | order =>
    obtain ⟨_, -, rfl⟩ := Field.Checked.map_eq_ok_iff.mp h
    exact ⟨rfl, rfl, fun other => absurd rfl other⟩
  | _ =>
    obtain ⟨_, -, rfl⟩ := Field.Checked.map_eq_ok_iff.mp h
    exact ⟨rfl, rfl, fun _ => rfl⟩

theorem replaceFirst_ids (m : Node) (nodes : List Node) :
    (replaceFirst m nodes).map (·.id) = nodes.map (·.id) := by
  induction nodes with
  | nil => rfl
  | cons n rest ih =>
    rw [replaceFirst]
    split
    · next same => rw [List.map_cons, List.map_cons, eq_of_beq same]
    · rw [List.map_cons, List.map_cons, ih]

theorem mem_replaceFirst {m n : Node} {nodes : List Node} (h : n ∈ replaceFirst m nodes) :
    n = m ∨ n ∈ nodes := by
  induction nodes with
  | nil => cases h
  | cons k rest ih =>
    rw [replaceFirst] at h
    split at h
    · rcases List.mem_cons.mp h with new | old
      · exact .inl new
      · exact .inr (List.mem_cons_of_mem _ old)
    · rcases List.mem_cons.mp h with rfl | later
      · exact .inr List.mem_cons_self
      · rcases ih later with new | old
        · exact .inl new
        · exact .inr (List.mem_cons_of_mem _ old)

namespace Graph

theorem setField_cases {g h : Graph} {id name : String} {value : Json} {m : Node}
    (done : g.setField id name value = .ok (some (m, h))) :
    ∃ n field, NodeField.ofName name = .ok field ∧ g.node? id = some n ∧
      n.set field value = .ok m ∧ ¬(n.isStart = true ∧ field = .order) ∧
        h = { g with nodes := replaceFirst m g.nodes } := by
  unfold setField at done
  cases named : NodeField.ofName name with
  | error error =>
    rw [named] at done
    cases done
  | ok field =>
    cases found : g.node? id with
    | none =>
      rw [named, found] at done
      cases done
    | some n =>
      simp only [named, found, bind, Except.bind, pure, Except.pure] at done
      split at done
      · cases done
      · next allowed =>
        split at done
        · cases done
        · next node set =>
          cases done
          exact ⟨n, field, rfl, rfl, set, by simpa using allowed, rfl⟩

theorem Grown.setField {g h : Graph} {base : Nat} {s : Supply} (grown : g.Grown base s)
    {id name : String} {value : Json} {m : Node}
    (done : g.setField id name value = .ok (some (m, h))) : h.Grown base s := by
  obtain ⟨n, field, -, found, set, allowed, rfl⟩ := setField_cases done
  obtain ⟨sameId, sameStart, sameOrder⟩ := Node.set_frame set
  have ids := replaceFirst_ids m g.nodes
  have present {id : String} (h : ∃ n ∈ g.nodes, n.id = id) :
      ∃ n ∈ replaceFirst m g.nodes, n.id = id := by
    rw [← List.mem_map, ids, List.mem_map]
    exact h
  constructor
  · constructor
    · obtain ⟨first, rest, shape, isStart, startId, order, others⟩ := grown.start
      rw [node?, shape] at found
      by_cases front : first.id = id
      · -- The start is set itself, but not its order.
        rw [List.find?_cons_of_pos (by simpa using front), Option.some.injEq] at found
        subst found
        refine ⟨m, rest, ?_, sameStart.trans isStart, sameId.trans startId, ?_, others⟩
        · rw [shape, replaceFirst, if_pos (by simp [sameId])]
        · exact (sameOrder fun field => allowed ⟨isStart, field⟩).trans order
      · rw [List.find?_cons_of_neg (by simpa using front)] at found
        have step : m.isStart = false := sameStart.trans (others n (List.mem_of_find?_eq_some found))
        have id' : n.id = id := by simpa using List.find?_some found
        refine ⟨first, replaceFirst m rest, ?_, isStart, startId, order, ?_⟩
        · rw [shape, replaceFirst, if_neg (by simpa [sameId, id'] using front)]
        · intro k hk
          rcases mem_replaceFirst hk with rfl | old
          · exact step
          · exact others k old
    · show ((replaceFirst m g.nodes).map (·.id)).Nodup
      rw [ids]
      exact grown.nodeIds
    · exact grown.edgeIds
    · intro e he
      obtain ⟨source, target⟩ := grown.closed e he
      exact ⟨present source, present target⟩
    · exact grown.pairs
  · exact grown.begun
  · intro k hk step
    rcases mem_replaceFirst hk with rfl | old
    · obtain ⟨i, hi, tagged⟩ := grown.nodeTags n (mem_of_node? found) (sameStart ▸ step)
      refine ⟨i, hi, ?_⟩
      unfold Node.Tagged at tagged ⊢
      rwa [sameId]
    · exact grown.nodeTags k old step
  · exact grown.edgeTags

end Graph

/-! ## Importing -/

namespace Import

theorem linkAll_cons (g : Graph) (s : Supply) (source target : String)
    (rest : List (String × String)) :
    linkAll g s ((source, target) :: rest) =
      linkAll (g.link source target s).2.1 (g.link source target s).2.2 rest :=
  rfl

theorem linkAll_later (g : Graph) (s : Supply) (pairs : List (String × String)) :
    s.Later (linkAll g s pairs).2 := by
  induction pairs generalizing g s with
  | nil => exact .refl s
  | cons pair rest ih =>
    obtain ⟨source, target⟩ := pair
    exact (g.link_later source target s).trans (ih _ _)

theorem grown_linkAll {g : Graph} {base top : Nat} {s : Supply} (grown : g.Grown base s)
    {pairs : List (String × String)}
    (ends : ∀ source target, (source, target) ∈ pairs →
      (∃ n ∈ g.nodes, n.id = source) ∧ ∃ n ∈ g.nodes, n.id = target)
    (fresh : Set.InjOn s.tag (Set.Ioc base top))
    (inside : (linkAll g s pairs).2.drawn ≤ top) :
    (linkAll g s pairs).1.Grown base (linkAll g s pairs).2 := by
  induction pairs generalizing g s with
  | nil => exact grown
  | cons pair rest ih =>
    obtain ⟨source, target⟩ := pair
    rw [linkAll_cons] at inside ⊢
    have first := g.link_later source target s
    have nodes := g.link_nodes source target s
    obtain ⟨hs, ht⟩ := ends source target List.mem_cons_self
    have linked := grown.link hs ht fresh (Nat.le_trans (linkAll_later _ _ rest).drawn inside)
    generalize (g.link source target s).2 = next at first nodes linked inside ⊢
    refine ih linked ?_ (first.tag.symm ▸ fresh) inside
    intro a b later
    rw [nodes]
    exact ends a b (List.mem_cons_of_mem _ later)

theorem graph_later (fields : List (String × Json)) (s : Supply) : s.Later (graph fields s).2 := by
  have built : s.Later (build 1 (objects fields "steps") s).2 := by
    rw [build_supply]
    exact ⟨rfl, Nat.le_add_right _ _, rfl, Nat.le_refl _⟩
  exact built.trans (linkAll_later _ _ _)

/-- The graph of a document is grown, whatever the document holds. -/
theorem grown_graph (fields : List (String × Json)) {base top : Nat} {s : Supply}
    (begun : base ≤ s.drawn) (fresh : s.Fresh base top) (inside : (graph fields s).2.drawn ≤ top) :
    (graph fields s).1.Grown base (graph fields s).2 := by
  have supply := build_supply 1 (objects fields "steps") s
  have later := linkAll_later ⟨Node.start :: (built fields s).map (·.node), []⟩
    (build 1 (objects fields "steps") s).2 (wires fields (built fields s))
  have enough : s.drawn + (objects fields "steps").length ≤ top := by
    have := Nat.le_trans later.drawn inside
    rwa [supply] at this
  have distinct : s.Distinct (objects fields "steps").length := fun i hi j hj same =>
    fresh.distinct ⟨Nat.lt_of_le_of_lt begun hi.1, Nat.le_trans hi.2 enough⟩
      ⟨Nat.lt_of_le_of_lt begun hj.1, Nat.le_trans hj.2 enough⟩ same
  have steps : (⟨Node.start :: (built fields s).map (·.node), []⟩ : Graph).Grown base
      (build 1 (objects fields "steps") s).2 := by
    rw [supply]
    constructor
    · constructor
      · refine ⟨Node.start, _, rfl, rfl, rfl, rfl, ?_⟩
        intro n hn
        obtain ⟨b, hb, rfl⟩ := List.mem_map.mp hn
        exact build_isStart hb
      · rw [List.map_cons, List.nodup_cons, List.map_map]
        refine ⟨?_, build_ids_nodup_of_tags distinct⟩
        intro clash
        obtain ⟨b, hb, same⟩ := List.mem_map.mp clash
        exact build_id_ne_start hb same
      · exact List.nodup_nil
      · intro e he
        cases he
      · exact List.nodup_nil
    · exact Nat.le_trans begun (Nat.le_add_right _ _)
    · intro n hn step
      rcases List.mem_cons.mp hn with rfl | built
      · cases step
      · obtain ⟨b, hb, rfl⟩ := List.mem_map.mp built
        obtain ⟨i, within, here⟩ := mem_build hb
        refine ⟨s.drawn + 1 + i, ⟨by omega, by show _ ≤ s.drawn + _; omega⟩,
          .inr ⟨orderOf b.step (1 + i), ?_⟩⟩
        rw [here]
        rfl
    · intro e he
      cases he
  refine grown_linkAll steps ?_ (supply ▸ fresh.distinct) inside
  intro source target wire
  have node {id : String} (h : ∃ b ∈ built fields s, b.node.id = id) :
      ∃ n ∈ Node.start :: (built fields s).map (·.node), n.id = id := by
    obtain ⟨b, hb, rfl⟩ := h
    exact ⟨b.node, List.mem_cons_of_mem _ (List.mem_map.mpr ⟨b, hb, rfl⟩), rfl⟩
  obtain ⟨start | step, there⟩ := ends_of_mem_wires wire
  · exact ⟨⟨Node.start, List.mem_cons_self, start.symm⟩, node there⟩
  · exact ⟨node step, node there⟩

end Import

end Stepflow
