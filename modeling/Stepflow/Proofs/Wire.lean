import Mathlib.Data.List.Basic
import Stepflow.Document.Import

/-!
# The wire form of a document

What an import finds in the fields that an export has written.

Results:
1. `node_toFields`: the node that is built for an exported step.
2. `StepRecord.toFields_injective`, `Document.toFields_injective`: nothing of a document is lost
   on the wire, so two documents are equal iff their wire forms are.
3. `profile_toFields`: the profile of an exported document.
-/

namespace Stepflow

/-! ## Columns -/

/-- A name is found on the wire with the value of its column. -/
theorem fieldOf?_wire {columns : List (String × Option Json)}
    (distinct : (columns.map (·.1)).Nodup) (name : String) :
    Json.fieldOf? (wire columns) name = (columns.find? (·.1 == name)).bind (·.2) := by
  induction columns with
  | nil => rfl
  | cons column rest ih =>
    obtain ⟨field, value⟩ := column
    rw [List.map_cons, List.nodup_cons] at distinct
    have tail := ih distinct.2
    unfold wire Json.fieldOf? at tail ⊢
    by_cases same : field = name
    · -- No later column has the name, so a missing value is not made up for.
      subst same
      have none_later : rest.find? (·.1 == field) = none := by
        rw [List.find?_eq_none]
        intro later mem hit
        exact distinct.1 (List.mem_map.mpr ⟨later, mem, eq_of_beq hit⟩)
      cases value with
      | none => simpa [none_later] using tail
      | some value => simp
    · cases value with
      | none => simpa [same] using tail
      | some value => simpa [same] using tail

/-- Columns of one list of names are equal if their wire forms are. -/
theorem wire_injective {columns others : List (String × Option Json)}
    (names : columns.map (·.1) = others.map (·.1)) (distinct : (columns.map (·.1)).Nodup)
    (same : wire columns = wire others) : columns = others := by
  refine List.ext_getElem ?_ fun i inside inside' => ?_
  · simpa using congrArg List.length names
  · have name : columns[i].1 = others[i].1 := by
      have := List.getElem_of_eq names (i := i) (by simpa using inside)
      simpa using this
    have found : ∀ (list : List (String × Option Json)) (within : i < list.length),
        (list.map (·.1)).Nodup → list.find? (·.1 == list[i].1) = some list[i] := by
      intro list within nodup
      refine List.find?_eq_some_iff_getElem.mpr ⟨by simp, i, within, rfl, ?_⟩
      intro j before
      have := List.pairwise_iff_getElem.mp nodup j i (by simpa using Nat.lt_trans before within)
        (by simpa using within) before
      simpa using this
    have value : columns[i].2 = others[i].2 := by
      have left := fieldOf?_wire distinct columns[i].1
      have right := fieldOf?_wire (names ▸ distinct) others[i].1
      rw [found columns inside distinct] at left
      rw [found others inside' (names ▸ distinct)] at right
      rw [same, name, right] at left
      exact left.symm
    exact Prod.ext name value

namespace Json

@[simp] theorem string?_str (s : String) : (Json.str s).string? = some s :=
  rfl

@[simp] theorem integer?_int (n : Int) : (Json.int n).integer? = some n :=
  rfl

@[simp] theorem string?_getD_map (s : Option String) : ((s.map Json.str).getD .null).string? = s := by
  cases s <;> rfl

@[simp] theorem integer?_getD_map (n : Option Int) : ((n.map Json.int).getD .null).integer? = n := by
  cases n <;> rfl

end Json

/-- The objects of a list that holds nothing else. -/
theorem Import.objects_of_get {fields : List (String × Json)} {name : String}
    {items : List (List (String × Json))} (h : get fields name = .list (items.map .obj)) :
    objects fields name = items := by
  rw [objects, h]
  simp [Json.list?, List.filterMap_map]

/-! ## Steps -/

namespace StepRecord

def fieldNames : List String :=
  ["sequence_order", "sequence_name", "type", "value", "depends_on", "max_retry",
    "append_iteration_column", "append_time_column", "time_range", "time_grain", "time_mode",
    "reference_date", "llm_model"]

theorem columns_names (r : StepRecord) : r.columns.map (·.1) = fieldNames :=
  rfl

theorem columns_nodup (r : StepRecord) : (r.columns.map (·.1)).Nodup := by
  rw [columns_names]
  decide

theorem get_toFields (r : StepRecord) (name : String) :
    Import.get r.toFields name =
      ((r.columns.find? (·.1 == name)).bind (·.2)).getD .null := by
  rw [Import.get, toFields, fieldOf?_wire r.columns_nodup]

/-- Nothing of a record is lost on the wire. -/
theorem toFields_injective : Function.Injective toFields := by
  intro r other same
  have columns := wire_injective (by rw [columns_names, columns_names]) r.columns_nodup same
  have back := Option.map_injective (f := Json.str) fun _ _ h => by cases h; rfl
  have backInt := Option.map_injective (f := Json.int) fun _ _ h => by cases h; rfl
  unfold StepRecord.columns at columns
  cases r
  cases other
  simp only [List.cons.injEq, Prod.mk.injEq, Option.some.injEq, Json.int.injEq, Json.str.injEq,
    back.eq_iff, backInt.eq_iff, true_and, and_true] at columns
  simpa using columns

/-- The amount and the grain that an import reads off a record. -/
def window (r : StepRecord) : Option Int × Option String :=
  match filled r.timeRange with
  | some range => TimeRange.read range
  | none => (none, r.timeGrain)

theorem window_toFields (r : StepRecord) : Import.window r.toFields = r.window := by
  have range : Import.get r.toFields "time_range" = (r.timeRange.map Json.str).getD .null := by
    simp [get_toFields, columns]
  have grain : Import.text? r.toFields "time_grain" = r.timeGrain := by
    rw [Import.text?, get_toFields]
    simp [columns]
  unfold Import.window window
  rw [range, grain]
  cases r.timeRange with
  | none => rfl
  | some range => cases empty : range.isEmpty <;> simp [filled, Option.filter, empty]

/-- The node that an import makes of a record, under a given id. -/
def node (r : StepRecord) (id : String) : Node :=
  { id
    label := (filled (some r.name)).getD ("Step " ++ Numeral.write r.order)
    order := r.order
    kind := some r.kind
    content := r.content
    maxRetry := r.maxRetry
    iterationColumn := r.iterationColumn
    timeColumn := r.timeColumn
    timeAmount := r.window.1
    timeGrain := r.window.2
    timeMode := r.timeMode
    referenceDate := r.referenceDate
    llmModel := r.llmModel }

/-- The node that is built for an exported step. -/
theorem node_toFields (r : StepRecord) (position : Nat) (tag : String) :
    Import.node r.toFields position tag = r.node ("node-" ++ Numeral.write r.order ++ "-" ++ tag) := by
  unfold Import.node Import.orderOf Import.textOr Import.text? node
  rw [window_toFields]
  simp only [get_toFields]
  simp [columns]

end StepRecord

/-! ## Documents -/

namespace Delivery

theorem toJson_injective : Function.Injective toJson := by
  intro d other same
  have back := List.map_injective_iff (f := Json.str) |>.mpr fun _ _ h => by cases h; rfl
  cases d
  cases other
  simp only [toJson, toFields, Json.obj.injEq, List.cons.injEq, Prod.mk.injEq, Json.str.injEq,
    Json.list.injEq, back.eq_iff, true_and, and_true] at same
  simpa using same

/-- A delivery rule as an import takes it: one without a method goes by mail. -/
def received (d : Delivery) : Delivery :=
  { d with method := (filled (some d.method)).getD "email" }

theorem delivery_toFields (d : Delivery) : Import.delivery d.toFields = d.received := by
  simp [Import.delivery, Import.textOr, Import.text?, Import.texts, Import.get, Json.fieldOf?,
    Json.list?, toFields, received, List.filterMap_map, Function.comp_def]

end Delivery

namespace Document

def fieldNames : List String :=
  ["flow_name", "iterate_flow", "iterable_steps", "get_iterate_list", "steps", "delivery_config"]

theorem columns_names (d : Document) : d.columns.map (·.1) = fieldNames :=
  rfl

theorem columns_nodup (d : Document) : (d.columns.map (·.1)).Nodup := by
  rw [columns_names]
  decide

theorem get_toFields (d : Document) (name : String) :
    Import.get d.toFields name =
      ((d.columns.find? (·.1 == name)).bind (·.2)).getD .null := by
  rw [Import.get, toFields, fieldOf?_wire d.columns_nodup]

/-- Nothing of a document is lost on the wire. -/
theorem toFields_injective : Function.Injective toFields := by
  intro d other same
  have columns := wire_injective (by rw [columns_names, columns_names]) d.columns_nodup same
  have orders : Function.Injective fun orders : List Int => Json.list (orders.map Json.int) := by
    intro a b h
    exact List.map_injective_iff.mpr (fun _ _ h => by cases h; rfl) (Json.list.inj h)
  have rules : Function.Injective fun rules : List Delivery =>
      Json.list (rules.map Delivery.toJson) := by
    intro a b h
    exact List.map_injective_iff.mpr Delivery.toJson_injective (Json.list.inj h)
  have steps : Function.Injective (List.map StepRecord.toJson) :=
    List.map_injective_iff.mpr fun _ _ h => StepRecord.toFields_injective (Json.obj.inj h)
  have query := Option.map_injective (f := Json.str) fun _ _ h => by cases h; rfl
  unfold Document.columns at columns
  cases d
  cases other
  simp only [List.cons.injEq, Prod.mk.injEq, Option.some.injEq, Json.str.injEq, Json.bool.injEq,
    Json.list.injEq, (Option.map_injective orders).eq_iff, (Option.map_injective rules).eq_iff,
    steps.eq_iff, query.eq_iff, true_and, and_true] at columns
  simpa using columns

theorem toJson_injective : Function.Injective toJson :=
  fun _ _ same => toFields_injective (Json.obj.inj same)

/-- The steps of an exported document are the objects in its list of steps. -/
theorem objects_steps (d : Document) :
    Import.objects d.toFields "steps" = d.steps.map StepRecord.toFields := by
  refine Import.objects_of_get ?_
  rw [get_toFields, List.map_map]
  simp [columns, StepRecord.toJson]

/-- The profile of an exported document. -/
theorem profile_toFields (env : Environment) (d : Document) :
    Import.profile env d.toFields =
      { name := (filled (some d.name)).getD env.importedFlowName
        iterates := d.iterates
        query := d.query.getD ""
        delivery := (d.delivery.getD []).map Delivery.received } := by
  have rules : Import.objects d.toFields "delivery_config" =
      (d.delivery.getD []).map Delivery.toFields := by
    cases written : d.delivery with
    | none =>
      rw [Import.objects, get_toFields]
      simp [columns, written, Json.list?]
    | some rules =>
      refine Import.objects_of_get ?_
      rw [get_toFields]
      simp [columns, written, Delivery.toJson]
  unfold Import.profile Import.textOr Import.text?
  rw [rules]
  simp only [get_toFields, List.map_map]
  simp [columns, Json.truthy, Function.comp_def, Delivery.delivery_toFields]

end Document

end Stepflow
