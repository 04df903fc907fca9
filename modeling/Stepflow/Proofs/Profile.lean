import Mathlib.Data.List.Nodup
import Stepflow.Draft
import Stepflow.Proofs.Field
import Stepflow.Proofs.Supply

/-!
# Changes of a profile

A change sets the fields of an update over those of the profile and reads all of them anew. What a
profile holds is read from its own fields again, whatever it was read from at first. So a change comes
to reading the update alone, where a field that is not in it keeps its value.

Two changes in a row are the one change by both updates, the later one set over the earlier one. Whether
an update can be read does not depend on the profile, so changes of different fields can change places.

Results:
1. `Json.fieldOf?_setFields`, `Json.fieldOf?_setFields_setFields`: the last value of a field counts.
2. `Delivery.ofJson_toJson`, `Profile.ofFields_setFields`: what was written is read again as it is.
3. `Profile.change_eq_ok_iff`, `Profile.exists_change`: what a change does, and when it goes through.
4. `Profile.change_change_iff`, `Profile.change_swap`: two changes in a row, and in the other order.
5. `Draft.changeProfile_compose`: the same for drafts.
-/

namespace Stepflow

/-! ## Fields set over fields -/

namespace Json

/-- The fields of an object with those of another one set over them. -/
def setFields (fields updates : List (String × Json)) : List (String × Json) :=
  updates.foldl (fun fields u => setField fields u.1 u.2) fields

theorem fieldOf?_append (fields others : List (String × Json)) (name : String) :
    fieldOf? (fields ++ others) name = (fieldOf? fields name).or (fieldOf? others name) := by
  simp only [fieldOf?, List.find?_append, Option.map_or]

theorem fieldOf?_cons (field : String × Json) (rest : List (String × Json)) (name : String) :
    fieldOf? (field :: rest) name = if field.1 = name then some field.2 else fieldOf? rest name := by
  unfold fieldOf?
  by_cases here : field.1 = name <;> simp [here]

theorem fieldOf?_eq_none_iff {fields : List (String × Json)} {name : String} :
    fieldOf? fields name = none ↔ name ∉ fields.map (·.1) := by
  induction fields with
  | nil => simp [fieldOf?]
  | cons field rest ih =>
    rw [fieldOf?_cons, List.map_cons, List.mem_cons, not_or, ← ih]
    by_cases here : field.1 = name
    · simp [here]
    · simp [here, Ne.symm here]

theorem mem_of_fieldOf? {fields : List (String × Json)} {name : String} {value : Json}
    (found : fieldOf? fields name = some value) : (name, value) ∈ fields := by
  obtain ⟨field, first, rfl⟩ := Option.map_eq_some_iff.mp found
  have here := List.find?_some first
  rw [← beq_iff_eq.mp here]
  exact List.mem_of_find?_eq_some first

/-- Of fields that have different names, either may be looked at first. -/
theorem fieldOf?_or_comm {fields others : List (String × Json)}
    (apart : (fields.map (·.1)).Disjoint (others.map (·.1))) (name : String) :
    (fieldOf? fields name).or (fieldOf? others name) =
      (fieldOf? others name).or (fieldOf? fields name) := by
  by_cases here : name ∈ fields.map (·.1)
  · rw [fieldOf?_eq_none_iff.mpr (apart here), Option.or_none, Option.none_or]
  · rw [fieldOf?_eq_none_iff.mpr here, Option.or_none, Option.none_or]

/-- The last value that is set counts, and where none is set the old one. -/
theorem fieldOf?_setFields (fields updates : List (String × Json)) (name : String) :
    fieldOf? (setFields fields updates) name =
      (fieldOf? updates.reverse name).or (fieldOf? fields name) := by
  induction updates generalizing fields with
  | nil => rfl
  | cons update rest ih =>
    have first : setFields fields (update :: rest) =
        setFields (setField fields update.1 update.2) rest := rfl
    rw [first, ih, List.reverse_cons, fieldOf?_append, Option.or_assoc, fieldOf?_cons]
    by_cases here : update.1 = name
    · rw [if_pos here, ← here, fieldOf?_setField_self]
      rfl
    · rw [if_neg here, fieldOf?_setField_of_ne (Ne.symm here)]
      rfl

/-- Where no name comes twice, the first value of a field is the last one. -/
theorem fieldOf?_reverse {fields : List (String × Json)} (distinct : (fields.map (·.1)).Nodup)
    (name : String) : fieldOf? fields.reverse name = fieldOf? fields name := by
  induction fields with
  | nil => rfl
  | cons field rest ih =>
    rw [List.map_cons, List.nodup_cons] at distinct
    rw [List.reverse_cons, fieldOf?_append, ih distinct.2, fieldOf?_cons, fieldOf?_cons]
    by_cases here : field.1 = name
    · rw [if_pos here, if_pos here, fieldOf?_eq_none_iff.mpr (here ▸ distinct.1)]
      rfl
    · rw [if_neg here, if_neg here]
      exact Option.or_none

theorem names_setField (fields : List (String × Json)) (name : String) (value : Json) :
    (setField fields name value).map (·.1) =
      if name ∈ fields.map (·.1) then fields.map (·.1) else fields.map (·.1) ++ [name] := by
  induction fields with
  | nil => simp [setField]
  | cons field rest ih =>
    rw [setField]
    by_cases here : field.1 = name
    · simp [here]
    · rw [if_neg (by simpa using here), List.map_cons, ih, List.map_cons]
      by_cases later : name ∈ rest.map (·.1)
      · rw [if_pos later, if_pos (List.mem_cons_of_mem _ later)]
      · rw [if_neg later, if_neg (by simpa [Ne.symm here] using later)]
        rfl

/-- Setting fields adds the names that are new. -/
theorem mem_names_setFields {fields updates : List (String × Json)} {name : String} :
    name ∈ (setFields fields updates).map (·.1) ↔
      name ∈ fields.map (·.1) ∨ name ∈ updates.map (·.1) := by
  rw [← not_iff_not, not_or, ← fieldOf?_eq_none_iff, ← fieldOf?_eq_none_iff, fieldOf?_setFields,
    Option.or_eq_none_iff, fieldOf?_eq_none_iff, List.map_reverse, List.mem_reverse,
    ← fieldOf?_eq_none_iff, and_comm]

/-- Setting fields brings no name twice. -/
theorem names_setFields_nodup {fields : List (String × Json)} (distinct : (fields.map (·.1)).Nodup)
    (updates : List (String × Json)) : ((setFields fields updates).map (·.1)).Nodup := by
  induction updates generalizing fields with
  | nil => exact distinct
  | cons update rest ih =>
    refine ih ?_
    rw [names_setField]
    split
    · exact distinct
    · next other =>
      rw [← List.concat_eq_append]
      exact distinct.concat other

/-- Setting `v` over `u`, and both over something else, leaves the last value of each field. -/
theorem fieldOf?_setFields_setFields {u : List (String × Json)} (distinct : (u.map (·.1)).Nodup)
    (v : List (String × Json)) (name : String) :
    fieldOf? (setFields u v).reverse name =
      (fieldOf? v.reverse name).or (fieldOf? u.reverse name) := by
  rw [fieldOf?_reverse (names_setFields_nodup distinct v), fieldOf?_setFields,
    fieldOf?_reverse distinct]

end Json

/-! ## Reading what was written -/

namespace Field

variable {α : Type} {read : Json → Checked α}

/-- A list is read again if its items are. -/
theorem list_map {write : α → Json} (again : ∀ a, read (write a) = .ok a) (items : List α) :
    list read (.list (items.map write)) = .ok items := by
  have from_index (index : Nat) :
      Checked.all index ((items.map write).map read) = .ok items := by
    induction items generalizing index with
    | nil => rfl
    | cons a rest ih =>
      rw [List.map_cons, List.map_cons, Checked.all, again, ih]
      rfl
  exact from_index 0

theorem defaulted_of_field {fields : List (String × Json)} {name : String} {missing a : α}
    {value : Json} (found : Json.fieldOf? fields name = some value) (good : read value = .ok a) :
    defaulted fields name missing read = .ok a :=
  defaulted_eq_ok_iff.mpr (.inr ⟨value, found, good⟩)

/-- Reading a field that was set over one of its own values is reading the field alone. -/
theorem defaulted_setFields {fields updates : List (String × Json)} {name : String} {missing : α}
    {value : Json} (own : α) (old : Json.fieldOf? fields name = some value)
    (again : read value = .ok own) :
    defaulted (Json.setFields fields updates) name missing read =
      defaulted updates.reverse name own read := by
  unfold defaulted
  rw [Json.fieldOf?_setFields, old]
  cases Json.fieldOf? updates.reverse name with
  | some new => rfl
  | none =>
    simp only [Option.none_or, again]
    rfl

/-- A field that was read keeps its value where the later fields have none. -/
theorem defaulted_or {earlier later both : List (String × Json)} {name : String} {own first : α}
    (held : defaulted earlier name own read = .ok first)
    (merged : Json.fieldOf? both name =
      (Json.fieldOf? later name).or (Json.fieldOf? earlier name)) :
    defaulted later name first read = defaulted both name own read := by
  unfold defaulted at held ⊢
  rw [merged]
  cases Json.fieldOf? later name with
  | some value => rfl
  | none => exact held.symm

/-- Whether a field can be read does not depend on the value that it has when it is missing. -/
theorem exists_defaulted_iff {fields : List (String × Json)} {name : String} (own other : α) :
    (∃ a, defaulted fields name own read = .ok a) ↔
      ∃ a, defaulted fields name other read = .ok a := by
  unfold defaulted
  cases Json.fieldOf? fields name with
  | some value => rfl
  | none => exact iff_of_true ⟨own, rfl⟩ ⟨other, rfl⟩

end Field

/-- A delivery rule is read again as it is. -/
theorem Delivery.ofJson_toJson (d : Delivery) : Delivery.ofJson d.toJson = .ok d := by
  have text (item : String) : Field.text (.str item) = .ok item := rfl
  have texts (items : List String) : Field.list Field.text (.list (items.map .str)) = .ok items :=
    Field.list_map text items
  have method : Field.defaulted d.toFields "method" "email" Field.text = .ok d.method :=
    Field.defaulted_of_field rfl rfl
  have recipients : Field.defaulted d.toFields "recipients" [] (Field.list Field.text) =
      .ok d.recipients :=
    Field.defaulted_of_field rfl (texts d.recipients)
  have names : Field.defaulted d.toFields "iteration_names" [] (Field.list Field.text) =
      .ok d.iterationNames :=
    Field.defaulted_of_field rfl (texts d.iterationNames)
  show Delivery.mk <$> Field.defaulted d.toFields "method" "email" Field.text
    <*> Field.defaulted d.toFields "recipients" [] (Field.list Field.text)
    <*> Field.defaulted d.toFields "iteration_names" [] (Field.list Field.text) = .ok d
  rw [method, recipients, names]
  rfl

namespace Profile

/-- A profile with what an object holds read over its values. -/
def updated (p : Profile) (fields : List (String × Json)) : Field.Checked Profile :=
  Profile.mk <$> Field.defaulted fields "flow_name" p.name Field.text
    <*> Field.defaulted fields "cron_expression" p.schedule Field.text
    <*> Field.defaulted fields "iterate_flow" p.iterates Field.boolean
    <*> Field.defaulted fields "iteration_query" p.query Field.text
    <*> Field.defaulted fields "delivery_config" p.delivery (Field.list Delivery.ofJson)

/-- What a profile holds is read again as it is, so only the update counts. -/
theorem ofFields_setFields (env : Environment) (p : Profile) (updates : List (String × Json)) :
    ofFields env (Json.setFields p.toFields updates) = p.updated updates.reverse := by
  have delivery : Field.list Delivery.ofJson (.list (p.delivery.map Delivery.toJson)) =
      .ok p.delivery :=
    Field.list_map Delivery.ofJson_toJson p.delivery
  unfold ofFields updated
  rw [Field.defaulted_setFields p.name rfl rfl,
    Field.defaulted_setFields p.schedule rfl rfl,
    Field.defaulted_setFields p.iterates rfl rfl,
    Field.defaulted_setFields p.query rfl rfl,
    Field.defaulted_setFields p.delivery rfl delivery]

section Updates

variable {p q first : Profile} {fields later both : List (String × Json)}

theorem updated_eq_ok_iff :
    p.updated fields = .ok q ↔
      Field.defaulted fields "flow_name" p.name Field.text = .ok q.name ∧
      Field.defaulted fields "cron_expression" p.schedule Field.text = .ok q.schedule ∧
      Field.defaulted fields "iterate_flow" p.iterates Field.boolean = .ok q.iterates ∧
      Field.defaulted fields "iteration_query" p.query Field.text = .ok q.query ∧
      Field.defaulted fields "delivery_config" p.delivery (Field.list Delivery.ofJson) =
        .ok q.delivery := by
  simp only [updated, Field.Checked.seq_eq_ok_iff, Field.Checked.map_eq_ok_iff]
  constructor
  · rintro ⟨_, _, ⟨_, _, ⟨_, _, ⟨_, _, ⟨_, name, rfl⟩, schedule, rfl⟩, iterates, rfl⟩, query, rfl⟩,
      delivery, rfl⟩
    exact ⟨name, schedule, iterates, query, delivery⟩
  · rintro ⟨name, schedule, iterates, query, delivery⟩
    exact ⟨_, _, ⟨_, _, ⟨_, _, ⟨_, _, ⟨_, name, rfl⟩, schedule, rfl⟩, iterates, rfl⟩, query, rfl⟩,
      delivery, rfl⟩

/-- Reading `later` over what `fields` gave is reading both at once. -/
theorem updated_updated (held : p.updated fields = .ok first)
    (merged : ∀ name, Json.fieldOf? both name =
      (Json.fieldOf? later name).or (Json.fieldOf? fields name)) :
    first.updated later = p.updated both := by
  obtain ⟨name, schedule, iterates, query, delivery⟩ := updated_eq_ok_iff.mp held
  unfold updated
  rw [Field.defaulted_or name (merged _), Field.defaulted_or schedule (merged _),
    Field.defaulted_or iterates (merged _), Field.defaulted_or query (merged _),
    Field.defaulted_or delivery (merged _)]

/-- Whether fields can be read over a profile does not depend on the profile. -/
theorem exists_updated (other : Profile) (read : p.updated fields = .ok q) :
    ∃ r, other.updated fields = .ok r := by
  obtain ⟨name, schedule, iterates, query, delivery⟩ := updated_eq_ok_iff.mp read
  obtain ⟨name, readName⟩ := (Field.exists_defaulted_iff p.name other.name).mp ⟨_, name⟩
  obtain ⟨schedule, readSchedule⟩ :=
    (Field.exists_defaulted_iff p.schedule other.schedule).mp ⟨_, schedule⟩
  obtain ⟨iterates, readIterates⟩ :=
    (Field.exists_defaulted_iff p.iterates other.iterates).mp ⟨_, iterates⟩
  obtain ⟨query, readQuery⟩ := (Field.exists_defaulted_iff p.query other.query).mp ⟨_, query⟩
  obtain ⟨delivery, readDelivery⟩ :=
    (Field.exists_defaulted_iff p.delivery other.delivery).mp ⟨_, delivery⟩
  exact ⟨⟨name, schedule, iterates, query, delivery⟩, updated_eq_ok_iff.mpr
    ⟨readName, readSchedule, readIterates, readQuery, readDelivery⟩⟩

/-- A field that is not read keeps its value. -/
theorem fieldOf?_of_updated (read : p.updated fields = .ok q) {name : String}
    (absent : Json.fieldOf? fields name = none) :
    Json.fieldOf? q.toFields name = Json.fieldOf? p.toFields name := by
  have kept {α : Type} {read : Json → Field.Checked α} {field : String} {own new : α}
      (held : Field.defaulted fields field own read = .ok new) (here : field = name) : new = own := by
    rw [Field.defaulted, here, absent] at held
    exact (Field.Checked.ok.inj held).symm
  obtain ⟨name, schedule, iterates, query, delivery⟩ := updated_eq_ok_iff.mp read
  simp only [toFields, Json.fieldOf?_cons]
  refine ite_congr rfl (fun here => by rw [kept name here]) fun _ => ?_
  refine ite_congr rfl (fun here => by rw [kept schedule here]) fun _ => ?_
  refine ite_congr rfl (fun here => by rw [kept iterates here]) fun _ => ?_
  refine ite_congr rfl (fun here => by rw [kept query here]) fun _ => ?_
  exact ite_congr rfl (fun here => by rw [kept delivery here]) fun _ => rfl

end Updates

section Changes

variable {env : Environment} {p q first : Profile} {u v : List (String × Json)}

/-- A change goes through iff the update names fields of a profile only and they can be read; then
it reads them over the values of the profile. -/
theorem change_eq_ok_iff :
    p.change env u = .ok q ↔
      (∀ name ∈ u.map (·.1), name ∈ fieldNames) ∧ p.updated u.reverse = .ok q := by
  have known : ((u.map (·.1)).filter fun name => !fieldNames.contains name).isEmpty = true ↔
      ∀ name ∈ u.map (·.1), name ∈ fieldNames := by
    simp [List.filter_eq_nil_iff]
  have merged : ofFields env (u.foldl (fun fields u => Json.setField fields u.1 u.2) p.toFields) =
      p.updated u.reverse :=
    ofFields_setFields env p u
  rw [← known]
  unfold change
  simp only [merged]
  cases ((u.map (·.1)).filter fun name => !fieldNames.contains name).isEmpty with
  | false => simp
  | true => cases p.updated u.reverse <;> simp

/-- Whether a change goes through does not depend on the profile. -/
theorem exists_change (other : Profile) (done : p.change env u = .ok q) :
    ∃ r, other.change env u = .ok r := by
  obtain ⟨known, read⟩ := change_eq_ok_iff.mp done
  obtain ⟨r, again⟩ := exists_updated other read
  exact ⟨r, change_eq_ok_iff.mpr ⟨known, again⟩⟩

/-- What a change by `v` makes of a profile that was changed by `u` is what one change by both makes
of it, where `v` is set over `u`. -/
theorem change_change_iff (distinct : (u.map (·.1)).Nodup) (done : p.change env u = .ok first) :
    first.change env v = .ok q ↔ p.change env (Json.setFields u v) = .ok q := by
  obtain ⟨known, held⟩ := change_eq_ok_iff.mp done
  rw [change_eq_ok_iff, change_eq_ok_iff,
    updated_updated held (Json.fieldOf?_setFields_setFields distinct v)]
  refine and_congr_left fun _ => ?_
  simp only [Json.mem_names_setFields, or_imp, forall_and]
  exact (and_iff_right known).symm

/-- A field that the update does not name keeps its value. -/
theorem fieldOf?_of_change (done : p.change env u = .ok q) {name : String}
    (unnamed : name ∉ u.map (·.1)) :
    Json.fieldOf? q.toFields name = Json.fieldOf? p.toFields name := by
  refine fieldOf?_of_updated (change_eq_ok_iff.mp done).2 (Json.fieldOf?_eq_none_iff.mpr ?_)
  rwa [List.map_reverse, List.mem_reverse]

/-- Changes of different fields can change places. -/
theorem change_swap (apart : (u.map (·.1)).Disjoint (v.map (·.1)))
    (done : p.change env u = .ok first) (again : first.change env v = .ok q) :
    ∃ other, p.change env v = .ok other ∧ other.change env u = .ok q := by
  obtain ⟨other, swapped⟩ := exists_change p again
  obtain ⟨known, held⟩ := change_eq_ok_iff.mp done
  have read : first.updated v.reverse = .ok q := (change_eq_ok_iff.mp again).2
  -- Either order reads both updates over `p`, and it does not matter which one is looked at first.
  have inOrder : first.updated v.reverse = p.updated (v.reverse ++ u.reverse) :=
    updated_updated held fun name => Json.fieldOf?_append v.reverse u.reverse name
  have inTurn : other.updated u.reverse = p.updated (v.reverse ++ u.reverse) := by
    refine updated_updated (change_eq_ok_iff.mp swapped).2 fun name => ?_
    have apartBack : (v.reverse.map (·.1)).Disjoint (u.reverse.map (·.1)) := by
      rw [List.map_reverse, List.map_reverse]
      intro name mem memU
      exact apart (List.mem_reverse.mp memU) (List.mem_reverse.mp mem)
    rw [Json.fieldOf?_append, Json.fieldOf?_or_comm apartBack]
  refine ⟨other, swapped, change_eq_ok_iff.mpr ⟨known, ?_⟩⟩
  rw [inTurn, ← inOrder, read]

end Changes

end Profile

namespace Draft

/-- A change that goes through reads the clock once. -/
theorem perform_changeProfile_iff {env : Environment} {d e : Draft} {s t : Supply}
    {u : List (String × Json)} {reply : Reply} :
    d.perform env (.changeProfile u) s = (.ok reply, e, t) ↔
      ∃ p, d.profile.change env u = .ok p ∧ .profile p = reply ∧
        { d with profile := p, updated := s.now.1 } = e ∧ s.now.2 = t := by
  cases done : d.profile.change env u with
  | error error => simp [perform, done]
  | ok p => simp [perform, done, touch]

/-- Two changes in a row leave the profile that one change by both updates leaves, where the later one
is set over the earlier one. A field that neither names keeps its value. If they name different fields,
they can change places. -/
theorem changeProfile_compose {env : Environment} {d d₁ d₂ : Draft} {s s₁ s₂ : Supply}
    {u v : List (String × Json)} {r₁ r₂ : Reply} (distinct : (u.map (·.1)).Nodup)
    (first : d.perform env (.changeProfile u) s = (.ok r₁, d₁, s₁))
    (second : d₁.perform env (.changeProfile v) s₁ = (.ok r₂, d₂, s₂)) :
    d.perform env (.changeProfile (Json.setFields u v)) s =
        (.ok r₂, { d₂ with updated := d₁.updated }, s₁) ∧
      (∀ name, name ∉ u.map (·.1) → name ∉ v.map (·.1) →
        Json.fieldOf? d₂.profile.toFields name = Json.fieldOf? d.profile.toFields name) ∧
      ((u.map (·.1)).Disjoint (v.map (·.1)) → ∃ r e t,
        d.perform env (.changeProfile v) s = (.ok r, e, t) ∧
          e.perform env (.changeProfile u) t = (.ok r₂, d₂, s₂)) := by
  obtain ⟨p, done, -, rfl, rfl⟩ := perform_changeProfile_iff.mp first
  obtain ⟨q, again, rfl, rfl, rfl⟩ := perform_changeProfile_iff.mp second
  refine ⟨?_, fun name unnamedU unnamedV => ?_, fun apart => ?_⟩
  · exact perform_changeProfile_iff.mpr
      ⟨q, (Profile.change_change_iff distinct done).mp again, rfl, rfl, rfl⟩
  · exact (Profile.fieldOf?_of_change again unnamedV).trans
      (Profile.fieldOf?_of_change done unnamedU)
  · obtain ⟨other, swapped, back⟩ := Profile.change_swap apart done again
    exact ⟨_, _, _, perform_changeProfile_iff.mpr ⟨other, swapped, rfl, rfl, rfl⟩,
      perform_changeProfile_iff.mpr ⟨q, back, rfl, rfl, rfl⟩⟩

def pristine : Draft :=
  (new none {} (.new {}) .numbered).1

/-- A name, and a delivery rule that leaves out its method and has a field that is not asked for. -/
def courier : List (String × Json) :=
  [("delivery_config", .list [.obj [("recipients", .list [.str "ops"]), ("note", .null)]]),
    ("flow_name", .str "Daily")]

/-- Iteration, turned on by a word. -/
def rota : List (String × Json) :=
  [("iterate_flow", .str "YES"), ("iteration_query", .str "select 1")]

theorem courier_compose :
    ∃ r₁ r₂ d₁ d₂ s₁ s₂,
      pristine.perform {} (.changeProfile courier) .numbered = (.ok r₁, d₁, s₁) ∧
      d₁.perform {} (.changeProfile rota) s₁ = (.ok r₂, d₂, s₂) ∧
      d₂.profile = ⟨"Daily", "", true, "select 1", [⟨"email", ["ops"], []⟩]⟩ ∧
      pristine.perform {} (.changeProfile (Json.setFields courier rota)) .numbered =
        (.ok r₂, { d₂ with updated := d₁.updated }, s₁) ∧
      ∃ r e t, pristine.perform {} (.changeProfile rota) .numbered = (.ok r, e, t) ∧
        e.perform {} (.changeProfile courier) t = (.ok r₂, d₂, s₂) := by
  have named : pristine.profile.change {} courier =
      .ok ⟨"Daily", "", false, "", [⟨"email", ["ops"], []⟩]⟩ := by
    decide +kernel
  have iterated : Profile.change {} ⟨"Daily", "", false, "", [⟨"email", ["ops"], []⟩]⟩ rota =
      .ok ⟨"Daily", "", true, "select 1", [⟨"email", ["ops"], []⟩]⟩ := by
    decide +kernel
  have first := perform_changeProfile_iff (s := .numbered).mpr ⟨_, named, rfl, rfl, rfl⟩
  have second :=
    perform_changeProfile_iff (d := { pristine with profile := _, updated := Supply.numbered.now.1 })
      (s := Supply.numbered.now.2) |>.mpr ⟨_, iterated, rfl, rfl, rfl⟩
  obtain ⟨one, -, swapped⟩ := changeProfile_compose (by decide) first second
  exact ⟨_, _, _, _, _, _, first, second, rfl, one, swapped (by simp [courier, rota])⟩

end Draft

end Stepflow
