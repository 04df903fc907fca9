import Mathlib.Data.List.Perm.Subperm
import Mathlib.Data.List.ProdSigma
import Stepflow.Http.Service
import Stepflow.Proofs.Failure
import Stepflow.Proofs.Sound
import Stepflow.Proofs.Wiring

/-!
# Answers to commands

What a command answers once it has succeeded can be written, if the draft could be and the body of
the request holds no lone surrogate. So such a command is never an internal error behind a change.

Results:
1. `clean_of_createBody`, `clean_of_settingsBody`, `value_of_fieldBody`, `clean_of_edgeBody`: what
   is taken from a body.
2. `Graph.writable_addStep`, `writable_connect`, `writable_setField`: the replies to edits.
3. `Import.length_edges_le`: a document has no more edges than pairs of its nodes.
4. `Draft.writable_summary`: the answer to an import.
-/

namespace Stepflow

open Text

namespace Http

/-! ## Bodies -/

/-- A request whose body, if it is JSON down to the given depth, holds no lone surrogate. -/
def Request.Clean (depth : Nat) (request : Request) : Prop :=
  ∀ value, Json.readBytes request.body depth = .ok value → value.clean = true

/-- A body that was read is an object. -/
theorem fields_of_readBody {α : Type} {depth : Nat} {request : Request}
    {read : List (String × Json) → Field.Checked α} {found : α}
    (h : readBody depth request read = .ok found) :
    ∃ fields, Json.readBytes request.body depth = .ok (.obj fields) ∧
      read fields = .ok found := by
  unfold readBody at h
  split at h
  · cases h
  · split at h
    · cases h
    · cases h
    · next fields body =>
      split at h
      · next result =>
        cases h
        exact ⟨fields, body, result⟩
      · cases h
    · cases h

namespace Service

variable {fields : List (String × Json)}

theorem clean_of_createBody {name : Option String} (h : createBody fields = .ok name)
    (clean : ∀ field ∈ fields, field.2.clean = true) :
    ∀ s, name = some s → hasSurrogate s = false := by
  rcases Field.defaulted_eq_ok_iff.mp h with ⟨-, rfl⟩ | ⟨value, found, read⟩
  · intro s hs
    cases hs
  · exact Field.clean_of_optional_text read (Json.clean_of_fieldOf? clean found)

/-- A part of a body of settings is clean if its reading keeps values clean. -/
theorem clean_of_part {name : String} {read : Json → Field.Checked Json}
    {part : List (String × Json)} (clean : ∀ field ∈ fields, field.2.clean = true)
    (keeps : ∀ value found, value.clean = true → read value = .ok found → found.clean = true)
    (h : Field.defaulted fields name [] (fun value =>
      (fun found => (found.map (name, ·)).toList) <$> Field.optional read value) = .ok part) :
    ∀ update ∈ part, update.2.clean = true := by
  rcases Field.defaulted_eq_ok_iff.mp h with ⟨-, rfl⟩ | ⟨value, there, h⟩
  · intro update mem
    cases mem
  · obtain ⟨_, optional, rfl⟩ := Field.Checked.map_eq_ok_iff.mp h
    rcases Field.optional_eq_ok_iff.mp optional with ⟨-, rfl⟩ | ⟨-, found, result, rfl⟩
    · intro update mem
      cases mem
    · intro update mem
      rw [List.mem_singleton.mp mem]
      exact keeps value found (Json.clean_of_fieldOf? clean there) result

/-- Rules are taken over as they stand; their parts are read later. -/
theorem clean_of_dictionaries {value : Json} {found : List Json}
    (h : Field.list dictionary value = .ok found) (clean : value.clean = true) :
    (Json.list found).clean = true := by
  rw [Json.clean_list]
  intro rule mem
  obtain ⟨items, rfl, item, inside, read⟩ := Field.mem_of_list h mem
  have same : item = rule := by
    cases item with
    | obj fields => exact Field.Checked.ok.inj read
    | _ => cases read
  rw [← same]
  exact Json.clean_list.mp clean item inside

theorem clean_of_settingsBody {updates : List (String × Json)}
    (h : settingsBody fields = .ok updates)
    (clean : ∀ field ∈ fields, field.2.clean = true) :
    ∀ update ∈ updates, update.2.clean = true := by
  have text : ∀ value found, value.clean = true → Json.str <$> Field.text value = .ok found →
      found.clean = true := by
    intro value found clean h
    obtain ⟨s, read, rfl⟩ := Field.Checked.map_eq_ok_iff.mp h
    rwa [← Field.text_eq_ok_iff.mp read]
  have flag : ∀ value found, value.clean = true → Json.bool <$> Field.boolean value = .ok found →
      found.clean = true := by
    intro value found _ h
    obtain ⟨b, -, rfl⟩ := Field.Checked.map_eq_ok_iff.mp h
    rfl
  have rules : ∀ value found, value.clean = true →
      Json.list <$> Field.list dictionary value = .ok found → found.clean = true := by
    intro value found clean h
    obtain ⟨items, list, rfl⟩ := Field.Checked.map_eq_ok_iff.mp h
    exact clean_of_dictionaries list clean
  -- The body is made of five parts, each a list of at most one change.
  obtain ⟨_, _, four, fifth, rfl⟩ := Field.Checked.seq_eq_ok_iff.mp h
  obtain ⟨_, _, three, fourth, rfl⟩ := Field.Checked.seq_eq_ok_iff.mp four
  obtain ⟨_, _, two, third, rfl⟩ := Field.Checked.seq_eq_ok_iff.mp three
  obtain ⟨_, _, one, second, rfl⟩ := Field.Checked.seq_eq_ok_iff.mp two
  obtain ⟨_, first, rfl⟩ := Field.Checked.map_eq_ok_iff.mp one
  simp only [List.forall_mem_append]
  exact ⟨⟨⟨⟨clean_of_part clean text first, clean_of_part clean text second⟩,
    clean_of_part clean flag third⟩, clean_of_part clean text fourth⟩,
    clean_of_part clean rules fifth⟩

theorem value_of_fieldBody {name : String} {value : Json}
    (h : fieldBody fields = .ok (name, value)) :
    value = .null ∨ Json.fieldOf? fields "value" = some value := by
  obtain ⟨_, found, one, second, same⟩ := Field.Checked.seq_eq_ok_iff.mp h
  obtain ⟨_, -, rfl⟩ := Field.Checked.map_eq_ok_iff.mp one
  cases same
  rcases Field.defaulted_eq_ok_iff.mp second with ⟨-, rfl⟩ | ⟨_, there, ⟨⟩⟩
  · exact .inl rfl
  · exact .inr there

theorem clean_of_edgeBody {source target : String} (h : edgeBody fields = .ok (source, target))
    (clean : ∀ field ∈ fields, field.2.clean = true) :
    hasSurrogate source = false ∧ hasSurrogate target = false := by
  obtain ⟨_, b, one, second, same⟩ := Field.Checked.seq_eq_ok_iff.mp h
  obtain ⟨a, first, rfl⟩ := Field.Checked.map_eq_ok_iff.mp one
  cases same
  obtain ⟨_, there, read⟩ := Field.required_eq_ok_iff.mp first
  obtain ⟨_, there', read'⟩ := Field.required_eq_ok_iff.mp second
  exact ⟨Field.clean_of_text read (Json.clean_of_fieldOf? clean there),
    Field.clean_of_text read' (Json.clean_of_fieldOf? clean there')⟩

end Service

end Http

/-! ## Replies -/

namespace Graph

variable {g : Graph} {s : Supply}

theorem writable_addStep (short : ∀ n ∈ g.nodes, Numeral.Short n.order)
    (hex : ∀ i, Supply.IsHex (s.tag i)) (kind : StepKind) :
    (g.addStep kind.name s).1.toJson.writable = true := by
  have front : Plain "node-" := by unfold Plain; decide
  have id : hasSurrogate ("node-" ++ s.tag (s.drawn + 1)) = false :=
    (front.append (plain_of_hex (hex _))).hasSurrogate
  have kindText : hasSurrogate kind.name = false := by cases kind <;> decide +kernel
  have label : hasSurrogate s!"New {upper kind.name} Step" = false := by
    cases kind <;> decide +kernel
  have content : hasSurrogate "" = false := rfl
  have order : Numeral.fits (g.topOrder + 1) = true := fits_next short
  rw [Node.writable_iff]
  simp only [addStep, Supply.draw, Json.ofString?, Json.ofInt?, Option.elim, Json.writable, id,
    label, order, kindText, content, List.forall_mem_cons]
  simp

theorem writable_link (writable : g.toJson.writable = true) (hex : ∀ i, Supply.IsHex (s.tag i))
    {source target : String} (hs : hasSurrogate source = false)
    (ht : hasSurrogate target = false) :
    (g.link source target s).1.toJson.writable = true := by
  unfold link
  split
  · next e found =>
    exact (writable_iff.mp writable).2 e (List.mem_of_find?_eq_some found)
  · have front : Plain "edge-" := by unfold Plain; decide
    rw [Edge.writable_iff]
    exact ⟨(front.append (plain_of_hex (hex _))).hasSurrogate, hs, ht⟩

theorem writable_connect (writable : g.toJson.writable = true)
    (hex : ∀ i, Supply.IsHex (s.tag i)) {source target : String}
    (hs : hasSurrogate source = false) (ht : hasSurrogate target = false) {iterates : Bool}
    {e : Edge} {h : Graph} {t : Supply}
    (done : g.connect source target iterates s = .ok (e, h, t)) : e.toJson.writable = true := by
  obtain ⟨-, -, -, -, -, result⟩ := connect_cases done
  have linked := writable_link writable hex hs ht
  rwa [result] at linked

theorem writable_setField (writable : g.toJson.writable = true) {id name : String} {value : Json}
    (clean : value.clean = true) (small : ∀ k, value = .int k → Numeral.fits k = true) {m : Node}
    {h : Graph} (done : g.setField id name value = .ok (some (m, h))) :
    m.toJson.writable = true := by
  obtain ⟨n, field, -, found, set, -, -⟩ := setField_cases done
  exact Node.writable_set set clean small ((writable_iff.mp writable).1 n (mem_of_node? found))

end Graph

/-! ## Imported documents -/

/-- A text that is filled in holds no lone surrogate if neither the text nor its default does. -/
theorem clean_filled {text : Option String} {usual : String}
    (clean : ∀ t, text = some t → hasSurrogate t = false) (plain : hasSurrogate usual = false) :
    hasSurrogate ((filled text).getD usual) = false := by
  cases found : filled text with
  | none => exact plain
  | some t => exact clean t (Option.filter_eq_some_iff.mp found).1

namespace Import

theorem length_objects_le {fields : List (String × Json)} {name : String} {bound : Nat}
    (small : ∀ field ∈ fields, field.2.Small bound) : (objects fields name).length ≤ bound := by
  refine Nat.le_trans (List.length_filterMap_le _ _) ?_
  unfold get
  cases found : Json.fieldOf? fields name with
  | none => exact Nat.zero_le _
  | some value =>
    have whole : value.Small bound := Json.of_fieldOf? (P := (·.Small bound)) small found
    cases value with
    | list items => exact whole
    | _ => exact Nat.zero_le _

theorem length_steps (fields : List (String × Json)) (s : Supply) :
    (graph fields s).1.steps.length = (objects fields "steps").length := by
  rw [graph_steps, List.length_map, built, ← List.length_map (f := Built.step), build_steps]

/-- A document has no more edges than pairs of its nodes. -/
theorem length_edges_le (fields : List (String × Json)) (s : Supply) :
    (graph fields s).1.edges.length ≤
      ((objects fields "steps").length + 1) * ((objects fields "steps").length + 1) := by
  let ids := (graph fields s).1.nodes.map (·.id)
  have length : ids.length = (objects fields "steps").length + 1 := by
    rw [List.length_map, graph_nodes, List.length_cons, ← graph_steps, length_steps]
  -- Wires join nodes of the document, and no two nodes twice.
  have inside : (graph fields s).1.pairs ⊆ ids ×ˢ ids := by
    rintro ⟨source, target⟩ mem
    obtain ⟨start, stop⟩ :=
      ends_of_mem_wires ((joins_graph fields s).mp (Graph.joins_iff_mem_pairs.mpr mem))
    have node {id : String} (h : ∃ b ∈ built fields s, b.node.id = id) : id ∈ ids := by
      obtain ⟨b, hb, rfl⟩ := h
      refine List.mem_map_of_mem (f := Node.id) ?_
      rw [graph_nodes]
      exact List.mem_cons_of_mem _ (List.mem_map_of_mem hb)
    have first : Node.start.id ∈ ids := by
      refine List.mem_map_of_mem (f := Node.id) ?_
      rw [graph_nodes]
      exact List.mem_cons_self
    exact List.mem_product.mpr ⟨start.elim (fun h => h ▸ first) node, node stop⟩
  calc (graph fields s).1.edges.length
      = (graph fields s).1.pairs.length := (List.length_map _).symm
    _ ≤ (ids ×ˢ ids).length := (List.Nodup.subperm (graph_pairs_nodup fields s) inside).length_le
    _ = _ := by rw [List.length_product, length]

/-- The numbers of steps and edges of a document can be written, if it takes no more than
`2 ^ 64` characters. -/
theorem fits_lengths {fields : List (String × Json)} {bound : Nat}
    (small : ∀ field ∈ fields, field.2.Small bound) (le : bound < 2 ^ 64) (s : Supply) :
    Numeral.fits (graph fields s).1.steps.length = true ∧
      Numeral.fits (graph fields s).1.edges.length = true := by
  have steps : (objects fields "steps").length < 2 ^ 64 :=
    Nat.lt_of_le_of_lt (length_objects_le small) le
  have room : 2 ^ 64 * 2 ^ 64 < 10 ^ Numeral.maxDigits :=
    Nat.lt_of_lt_of_le (by decide : 2 ^ 64 * 2 ^ 64 < 10 ^ 39)
      (Nat.pow_le_pow_right (by decide) (by decide))
  rw [Numeral.fits_iff, Numeral.fits_iff, Int.natAbs_natCast, Int.natAbs_natCast, length_steps]
  constructor
  · calc (objects fields "steps").length < 2 ^ 64 := steps
      _ ≤ 2 ^ 64 * 2 ^ 64 := by decide
      _ ≤ 10 ^ Numeral.maxDigits := Nat.le_of_lt room
  · calc (graph fields s).1.edges.length ≤ _ := length_edges_le fields s
      _ ≤ 2 ^ 64 * 2 ^ 64 := Nat.mul_le_mul steps steps
      _ < 10 ^ Numeral.maxDigits := room

/-- The orders of a document that was read can be written, so nothing stands in the way of its
import. -/
theorem fits_orders {bytes : List UInt8} {depth : Nat} {fields : List (String × Json)}
    (document : Json.readBytes bytes depth = .ok (.obj fields)) (sized : bytes.length < 2 ^ 63) :
    ∀ n ∈ orders fields, Numeral.fits n = true := by
  refine fits_orders_of_readable (Json.readable_of_readBytes document) ?_
  calc (objects fields "steps").length
      ≤ 2 * bytes.length := length_objects_le (Json.small_of_readBytes document)
    _ < 2 ^ 64 := by omega
    _ ≤ 10 ^ 20 := by decide
    _ ≤ 10 ^ Numeral.maxDigits := Nat.pow_le_pow_right (by decide) (by decide)

/-- The name of an imported flow holds no lone surrogate. -/
theorem clean_name {env : Environment} {fields : List (String × Json)}
    (clean : ∀ field ∈ fields, field.2.clean = true)
    (usual : hasSurrogate env.importedFlowName = false) :
    hasSurrogate (profile env fields).name = false := by
  refine clean_filled ?_ usual
  intro t ht
  unfold text? get at ht
  cases found : Json.fieldOf? fields "flow_name" with
  | none =>
    rw [found] at ht
    cases ht
  | some value =>
    have plain := Json.clean_of_fieldOf? clean found
    rw [found] at ht
    cases value with
    | str s =>
      cases ht
      exact Json.clean_str.mp plain
    | _ => cases ht

end Import

theorem Draft.writable_summary {d : Draft} (id : hasSurrogate d.id = false)
    (name : hasSurrogate d.profile.name = false)
    (steps : Numeral.fits d.graph.steps.length = true)
    (edges : Numeral.fits d.graph.edges.length = true) : d.summary.writable = true := by
  unfold summary summaryFields
  rw [Json.writable_obj_of_names ["flow_id", "flow_name", "iterate_flow", "step_count",
    "edge_count", "created_at", "updated_at"] rfl (by decide +kernel)]
  simp [Json.writable_str, Json.writable_int, Json.writable_bool, id, name, steps, edges,
    (plain_moment _).hasSurrogate]

end Stepflow
