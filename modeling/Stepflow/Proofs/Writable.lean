import Stepflow.Draft
import Stepflow.Proofs.Field
import Stepflow.Proofs.Profile
import Stepflow.Proofs.Supply

/-!
# What can be sent

A response goes out only if its JSON value is writable. The parts of a draft are writable as long as
their texts hold no lone surrogate and their integers stay within the limit. Ids, labels and moments
that are made here are plain characters, and what a model reads from clean values is clean.

Results:
1. `Plain.append`, `plain_moment`: texts that are put together from plain characters.
2. `Node.writable_set`: an edit of a field keeps a node writable.
3. `Profile.writable_of_ofFields`: a profile that is read from clean fields is writable.
-/

namespace Stepflow

open Text

/-! ## Plain texts -/

/-- A text of characters that spell themselves. -/
def Plain (s : String) : Prop :=
  surrogateMark ∉ s.toList

theorem Plain.hasSurrogate {s : String} (plain : Plain s) : hasSurrogate s = false :=
  hasSurrogate_of_not_mem plain

theorem Plain.append {s t : String} (hs : Plain s) (ht : Plain t) : Plain (s ++ t) := by
  unfold Plain
  rw [String.toList_append, List.mem_append]
  exact not_or.mpr ⟨hs, ht⟩

theorem plain_of_isDigit {s : List Char} (digits : ∀ c ∈ s, c.isDigit = true) :
    Plain (String.ofList s) := by
  unfold Plain
  rw [String.toList_ofList]
  intro mark
  exact absurd (digits _ mark) (by decide)

theorem plain_of_hex {tag : String} (hex : Supply.IsHex tag) : Plain tag := by
  intro mark
  exact absurd (hex _ mark) (by decide)

theorem plain_upper_of_hex {tag : String} (hex : Supply.IsHex tag) : Plain (upper tag) := by
  -- The table of cases is looked at for the sixteen digits only.
  have images : ("0123456789abcdef".toList.all fun c => !(upperChar c).contains surrogateMark) =
      true := by decide +kernel
  unfold Plain upper
  rw [String.toList_ofList, List.mem_flatMap]
  rintro ⟨c, hc, image⟩
  have plain := List.all_eq_true.mp images c (hex c hc)
  rw [Bool.not_eq_true', List.contains_eq_mem, decide_eq_false_iff_not] at plain
  exact plain image

theorem plain_padded (width n : Nat) : Plain (Moment.padded width n) := by
  refine plain_of_isDigit ?_
  intro c hc
  rcases List.mem_append.mp hc with zero | digit
  · rw [List.eq_of_mem_replicate zero]
    rfl
  · exact Nat.isDigit_of_mem_toDigits (by decide) (by decide) digit

/-- Three padded numbers with a plain text between them. -/
theorem plain_padded_parts {mark : String} (plain : Plain mark) (width a b c : Nat) :
    Plain (Moment.padded width a ++ mark ++ Moment.padded 2 b ++ mark ++ Moment.padded 2 c) := by
  have part := plain_padded
  exact ((((part width a).append plain).append (part 2 b)).append plain).append (part 2 c)

theorem plain_fraction (m : Moment) : Plain m.fraction := by
  have empty : Plain "" := by unfold Plain; decide
  have point : Plain "." := by unfold Plain; decide
  unfold Moment.fraction
  dsimp only
  split
  · exact empty
  · exact point.append (plain_padded _ _)

theorem plain_moment (m : Moment) : Plain m.text := by
  have letter : Plain "T" := by unfold Plain; decide
  have dash : Plain "-" := by unfold Plain; decide
  have colon : Plain ":" := by unfold Plain; decide
  have date := plain_padded_parts dash 4
  have time := plain_padded_parts colon 2
  exact (((date _ _ _).append letter).append (time _ _ _)).append (plain_fraction m)

/-! ## Values -/

namespace Json

theorem itemsWritable_iff {items : List Json} :
    itemsWritable items = true ↔ ∀ item ∈ items, item.writable = true := by
  induction items with
  | nil => simp [itemsWritable]
  | cons item rest ih => simp [itemsWritable, ih]

theorem fieldsWritable_iff {fields : List (String × Json)} :
    fieldsWritable fields = true ↔
      ∀ field ∈ fields, hasSurrogate field.1 = false ∧ field.2.writable = true := by
  induction fields with
  | nil => simp [fieldsWritable]
  | cons field rest ih =>
    obtain ⟨name, value⟩ := field
    simp [fieldsWritable, ih, and_assoc]

theorem writable_str {s : String} : (Json.str s).writable = true ↔ hasSurrogate s = false := by
  rw [writable, Bool.not_eq_true']

theorem writable_int (n : Int) : (Json.int n).writable = Numeral.fits n :=
  rfl

theorem writable_bool (b : Bool) : (Json.bool b).writable = true :=
  rfl

theorem writable_list {items : List Json} :
    (Json.list items).writable = true ↔ ∀ item ∈ items, item.writable = true :=
  itemsWritable_iff

theorem writable_obj {fields : List (String × Json)} :
    (Json.obj fields).writable = true ↔
      ∀ field ∈ fields, hasSurrogate field.1 = false ∧ field.2.writable = true :=
  fieldsWritable_iff

/-- An object whose names are known to be writable. -/
theorem writable_obj_of_names (names : List String) {fields : List (String × Json)}
    (same : fields.map (·.1) = names) (plain : ∀ name ∈ names, hasSurrogate name = false) :
    (Json.obj fields).writable = true ↔ ∀ value ∈ fields.map (·.2), value.writable = true := by
  rw [writable_obj, List.forall_mem_map]
  constructor
  · intro h field mem
    exact (h field mem).2
  · intro h field mem
    exact ⟨plain _ (same ▸ List.mem_map_of_mem mem), h field mem⟩

mutual

/-- A value in which no text holds a lone surrogate. The names of its fields do not count. -/
def clean : Json → Bool
  | .str s => !hasSurrogate s
  | .list items => itemsClean items
  | .obj fields => fieldsClean fields
  | _ => true

def itemsClean : List Json → Bool
  | [] => true
  | item :: rest => clean item && itemsClean rest

def fieldsClean : List (String × Json) → Bool
  | [] => true
  | (_, value) :: rest => clean value && fieldsClean rest

end

theorem clean_list {items : List Json} :
    (Json.list items).clean = true ↔ ∀ item ∈ items, item.clean = true := by
  show itemsClean items = true ↔ _
  induction items with
  | nil => simp [itemsClean]
  | cons item rest ih => simp [itemsClean, ih]

theorem clean_obj {fields : List (String × Json)} :
    (Json.obj fields).clean = true ↔ ∀ field ∈ fields, field.2.clean = true := by
  show fieldsClean fields = true ↔ _
  induction fields with
  | nil => simp [fieldsClean]
  | cons field rest ih =>
    obtain ⟨name, value⟩ := field
    simp [fieldsClean, ih]

theorem clean_str {s : String} : (Json.str s).clean = true ↔ hasSurrogate s = false := by
  rw [clean, Bool.not_eq_true']

mutual

theorem clean_of_writable (value : Json) (h : value.writable = true) : value.clean = true := by
  cases value with
  | str s => exact h
  | list items => exact itemsClean_of_writable items h
  | obj fields => exact fieldsClean_of_writable fields h
  | _ => rfl

theorem itemsClean_of_writable (items : List Json) (h : itemsWritable items = true) :
    itemsClean items = true := by
  cases items with
  | nil => rfl
  | cons item rest =>
    rw [itemsWritable, Bool.and_eq_true] at h
    rw [itemsClean, clean_of_writable item h.1, itemsClean_of_writable rest h.2]
    rfl

theorem fieldsClean_of_writable (fields : List (String × Json))
    (h : fieldsWritable fields = true) : fieldsClean fields = true := by
  cases fields with
  | nil => rfl
  | cons field rest =>
    obtain ⟨name, value⟩ := field
    rw [fieldsWritable, Bool.and_eq_true, Bool.and_eq_true] at h
    rw [fieldsClean, clean_of_writable value h.1.2, fieldsClean_of_writable rest h.2]
    rfl

end

theorem clean_setFields {updates fields : List (String × Json)}
    (new : ∀ update ∈ updates, update.2.clean = true)
    (clean : ∀ field ∈ fields, field.2.clean = true) :
    ∀ field ∈ setFields fields updates, field.2.clean = true := by
  induction updates generalizing fields with
  | nil => exact clean
  | cons update rest ih =>
    obtain ⟨head, tail⟩ := List.forall_mem_cons.mp new
    exact ih tail (forall_setField (P := (·.clean = true)) clean head)

theorem clean_of_fieldOf? {fields : List (String × Json)} {name : String} {value : Json}
    (clean : ∀ field ∈ fields, field.2.clean = true) (h : fieldOf? fields name = some value) :
    value.clean = true :=
  of_fieldOf? (P := (·.clean = true)) clean h

end Json

/-! ## Readings of clean values -/

namespace Field

theorem clean_of_text {value : Json} {s : String} (h : text value = .ok s)
    (clean : value.clean = true) : hasSurrogate s = false := by
  rw [text_eq_ok_iff.mp h, Json.clean_str] at clean
  exact clean

theorem writable_of_text {value : Json} {s : String} (h : text value = .ok s)
    (clean : value.clean = true) : (Json.str s).writable = true :=
  Json.writable_str.mpr (clean_of_text h clean)

theorem clean_of_optional_text {value : Json} {found : Option String}
    (h : optional text value = .ok found) (clean : value.clean = true) :
    ∀ s, found = some s → hasSurrogate s = false := by
  rcases optional_eq_ok_iff.mp h with ⟨-, rfl⟩ | ⟨-, t, read, rfl⟩
  · intro s hs
    cases hs
  · rintro s ⟨⟩
    exact clean_of_text read clean

theorem writable_of_optional_text {value : Json} {found : Option String}
    (h : optional text value = .ok found) (clean : value.clean = true) :
    (Json.ofString? found).writable = true := by
  rcases optional_eq_ok_iff.mp h with ⟨-, rfl⟩ | ⟨-, t, read, rfl⟩
  · rfl
  · exact writable_of_text read clean

theorem writable_of_optional_integer {value : Json} {found : Option Int}
    (h : optional integer value = .ok found)
    (small : ∀ k, value = .int k → Numeral.fits k = true) :
    (Json.ofInt? found).writable = true := by
  rcases optional_eq_ok_iff.mp h with ⟨-, rfl⟩ | ⟨-, k, read, rfl⟩
  · rfl
  · exact fits_of_integer read small

theorem clean_of_defaulted_text {fields : List (String × Json)} {name missing s : String}
    (h : defaulted fields name missing text = .ok s)
    (clean : ∀ field ∈ fields, field.2.clean = true) (usual : hasSurrogate missing = false) :
    hasSurrogate s = false := by
  rcases defaulted_eq_ok_iff.mp h with ⟨-, rfl⟩ | ⟨value, found, read⟩
  · exact usual
  · exact clean_of_text read (Json.clean_of_fieldOf? clean found)

theorem clean_of_defaulted_texts {fields : List (String × Json)} {name : String}
    {found : List String} (h : defaulted fields name [] (list text) = .ok found)
    (clean : ∀ field ∈ fields, field.2.clean = true) : ∀ s ∈ found, hasSurrogate s = false := by
  intro s hs
  rcases defaulted_eq_ok_iff.mp h with ⟨-, rfl⟩ | ⟨value, there, read⟩
  · cases hs
  · obtain ⟨items, rfl, item, mem, readItem⟩ := mem_of_list read hs
    exact clean_of_text readItem (Json.clean_list.mp (Json.clean_of_fieldOf? clean there) item mem)

end Field

/-! ## Nodes -/

namespace Node

theorem writable_iff {n : Node} :
    n.toJson.writable = true ↔
      ∀ value ∈ [.str n.id, .str n.label, .int n.order, .ofString? n.kind, .str n.content,
        .ofInt? n.maxRetry, .ofString? n.iterationColumn, .ofString? n.timeColumn,
        .ofInt? n.timeAmount, .ofString? n.timeGrain, .ofString? n.timeMode,
        .ofString? n.referenceDate, .ofString? n.llmModel, .bool n.isStart],
        Json.writable value = true :=
  Json.writable_obj_of_names ["node_id", "label", "sequence_order", "step_type", "content",
    "max_retry", "iteration_column", "time_column", "time_amount", "time_grain", "time_mode",
    "reference_date", "llm_model", "is_start"] rfl (by decide +kernel)

/-- An edit of a field keeps a node writable. -/
theorem writable_set {n m : Node} {field : NodeField} {value : Json}
    (h : n.set field value = .ok m) (clean : value.clean = true)
    (small : ∀ k, value = .int k → Numeral.fits k = true) (hn : n.toJson.writable = true) :
    m.toJson.writable = true := by
  unfold set at h
  rw [Field.Checked.within_eq_ok_iff] at h
  rw [writable_iff] at hn ⊢
  simp only [List.forall_mem_cons, List.not_mem_nil, false_imp_iff, implies_true, and_true] at hn ⊢
  cases field with
  | label | content =>
    obtain ⟨_, read, rfl⟩ := Field.Checked.map_eq_ok_iff.mp h
    have new := Field.writable_of_text read clean
    simp only [hn, new, true_and]
  | order =>
    obtain ⟨_, read, rfl⟩ := Field.Checked.map_eq_ok_iff.mp h
    have new : (Json.int _).writable = true := Field.fits_of_integer read small
    simp only [hn, new, true_and]
  | maxRetry | timeAmount =>
    obtain ⟨_, read, rfl⟩ := Field.Checked.map_eq_ok_iff.mp h
    have new := Field.writable_of_optional_integer read small
    simp only [hn, new, true_and]
  | kind | iterationColumn | timeColumn | timeGrain | timeMode | referenceDate | llmModel =>
    obtain ⟨_, read, rfl⟩ := Field.Checked.map_eq_ok_iff.mp h
    have new := Field.writable_of_optional_text read clean
    simp only [hn, new, true_and]

end Node

/-! ## Graphs -/

theorem Edge.writable_iff {e : Edge} :
    e.toJson.writable = true ↔
      hasSurrogate e.id = false ∧ hasSurrogate e.source = false ∧
        hasSurrogate e.target = false := by
  unfold toJson
  rw [Json.writable_obj_of_names ["edge_id", "source_node_id", "target_node_id"] rfl
    (by decide +kernel)]
  simp [Json.writable_str]

theorem Graph.writable_iff {g : Graph} :
    g.toJson.writable = true ↔
      (∀ n ∈ g.nodes, n.toJson.writable = true) ∧ ∀ e ∈ g.edges, e.toJson.writable = true := by
  unfold toJson
  rw [Json.writable_obj_of_names ["nodes", "edges"] rfl (by decide +kernel)]
  simp [Json.writable_list]

/-! ## Profiles -/

theorem Delivery.writable_iff {d : Delivery} :
    d.toJson.writable = true ↔
      hasSurrogate d.method = false ∧ (∀ s ∈ d.recipients, hasSurrogate s = false) ∧
        ∀ s ∈ d.iterationNames, hasSurrogate s = false := by
  unfold toJson toFields
  rw [Json.writable_obj_of_names ["method", "recipients", "iteration_names"] rfl
    (by decide +kernel)]
  simp [Json.writable_str, Json.writable_list]

theorem Delivery.writable_of_ofJson {value : Json} {d : Delivery} (h : ofJson value = .ok d)
    (clean : value.clean = true) : d.toJson.writable = true := by
  cases value with
  | obj fields =>
    have parts := Json.clean_obj.mp clean
    obtain ⟨_, names, two, third, rfl⟩ := Field.Checked.seq_eq_ok_iff.mp h
    obtain ⟨_, recipients, one, second, rfl⟩ := Field.Checked.seq_eq_ok_iff.mp two
    obtain ⟨method, first, rfl⟩ := Field.Checked.map_eq_ok_iff.mp one
    rw [writable_iff]
    exact ⟨Field.clean_of_defaulted_text first parts (by decide +kernel),
      Field.clean_of_defaulted_texts second parts, Field.clean_of_defaulted_texts third parts⟩
  | _ => cases h

namespace Profile

theorem writable_iff {p : Profile} :
    p.toJson.writable = true ↔
      hasSurrogate p.name = false ∧ hasSurrogate p.schedule = false ∧
        hasSurrogate p.query = false ∧ ∀ d ∈ p.delivery, d.toJson.writable = true := by
  unfold toJson toFields
  rw [Json.writable_obj_of_names fieldNames rfl (by decide +kernel)]
  simp [Json.writable_str, Json.writable_list, Json.writable_bool]

/-- A profile that is read from clean fields is writable. -/
theorem writable_of_ofFields {env : Environment} {fields : List (String × Json)} {p : Profile}
    (h : ofFields env fields = .ok p) (clean : ∀ field ∈ fields, field.2.clean = true)
    (usual : hasSurrogate env.flowName = false) : p.toJson.writable = true := by
  obtain ⟨_, delivery, four, fifth, rfl⟩ := Field.Checked.seq_eq_ok_iff.mp h
  obtain ⟨_, query, three, fourth, rfl⟩ := Field.Checked.seq_eq_ok_iff.mp four
  obtain ⟨_, iterates, two, -, rfl⟩ := Field.Checked.seq_eq_ok_iff.mp three
  obtain ⟨_, schedule, one, second, rfl⟩ := Field.Checked.seq_eq_ok_iff.mp two
  obtain ⟨name, first, rfl⟩ := Field.Checked.map_eq_ok_iff.mp one
  have empty : hasSurrogate "" = false := rfl
  rw [writable_iff]
  refine ⟨Field.clean_of_defaulted_text first clean usual,
    Field.clean_of_defaulted_text second clean empty,
    Field.clean_of_defaulted_text fourth clean empty, ?_⟩
  rcases Field.defaulted_eq_ok_iff.mp fifth with ⟨-, rfl⟩ | ⟨value, found, read⟩
  · intro d hd
    cases hd
  · intro d hd
    obtain ⟨items, rfl, item, mem, readItem⟩ := Field.mem_of_list read hd
    have itemsClean := Json.clean_list.mp (Json.clean_of_fieldOf? clean found)
    exact Delivery.writable_of_ofJson readItem (itemsClean item mem)

/-- A change by clean values keeps a profile writable. -/
theorem writable_of_change {env : Environment} {p changed : Profile}
    {updates : List (String × Json)} (h : p.change env updates = .ok changed)
    (hp : p.toJson.writable = true) (clean : ∀ update ∈ updates, update.2.clean = true)
    (usual : hasSurrogate env.flowName = false) : changed.toJson.writable = true := by
  -- A change is read from all fields anew, so those it leaves alone must be clean as well.
  have own : ∀ field ∈ p.toFields, field.2.clean = true :=
    Json.clean_obj.mp (Json.clean_of_writable _ hp)
  have read := (change_eq_ok_iff.mp h).2
  rw [← ofFields_setFields env] at read
  exact writable_of_ofFields read (Json.clean_setFields clean own) usual

end Profile

end Stepflow
