import Stepflow.Binary64.Shortest
import Stepflow.Numeral
import Stepflow.Text.Quoted

/-!
# JSON values

Integers are unbounded and kept apart from binary64 numbers, and an object keeps its
fields in the order in which their names first came.
-/

namespace Stepflow

inductive Json where
  | null
  | bool (value : Bool)
  | int (value : Int)
  | float (value : Binary64)
  | str (value : String)
  | list (items : List Json)
  | obj (fields : List (String × Json))
deriving Inhabited

namespace Json

/-- The fields of an object with `name` set: in place if the name is there, at the end if not. -/
def setField (fields : List (String × Json)) (name : String) (value : Json) :
    List (String × Json) :=
  match fields with
  | [] => [(name, value)]
  | field :: rest =>
    if field.1 == name then (name, value) :: rest else field :: setField rest name value

/-- The value of the field `name` among the fields of an object. -/
def fieldOf? (fields : List (String × Json)) (name : String) : Option Json :=
  (fields.find? (·.1 == name)).map (·.2)

theorem fieldOf?_setField_self (fields : List (String × Json)) (name : String) (value : Json) :
    fieldOf? (setField fields name value) name = some value := by
  induction fields with
  | nil => simp [setField, fieldOf?]
  | cons field rest ih =>
    rw [setField]
    split
    · simp [fieldOf?]
    · next h => simpa [fieldOf?, h] using ih

theorem fieldOf?_setField_of_ne {fields : List (String × Json)} {name other : String}
    {value : Json} (h : other ≠ name) :
    fieldOf? (setField fields name value) other = fieldOf? fields other := by
  induction fields with
  | nil => simp [setField, fieldOf?, Ne.symm h]
  | cons field rest ih =>
    rw [setField]
    split
    · next same =>
      have : field.1 ≠ other := fun e => h (e ▸ (eq_of_beq same))
      simp [fieldOf?, this, Ne.symm h]
    · by_cases at_head : field.1 = other
      · simp [fieldOf?, at_head]
      · simpa [fieldOf?, at_head] using ih

/-- What holds of the values of all fields and of a new value holds after the new one is set. -/
theorem forall_setField {P : Json → Prop} {fields : List (String × Json)} {name : String}
    {value : Json} (old : ∀ field ∈ fields, P field.2) (new : P value) :
    ∀ field ∈ setField fields name value, P field.2 := by
  induction fields with
  | nil =>
    intro field mem
    rw [List.mem_singleton.mp mem]
    exact new
  | cons first rest ih =>
    obtain ⟨head, tail⟩ := List.forall_mem_cons.mp old
    rw [setField]
    split
    · exact List.forall_mem_cons.mpr ⟨new, tail⟩
    · exact List.forall_mem_cons.mpr ⟨head, ih tail⟩

/-- What holds of the values of all fields holds of the value of one. -/
theorem of_fieldOf? {P : Json → Prop} {fields : List (String × Json)} {name : String}
    {value : Json} (all : ∀ field ∈ fields, P field.2) (h : fieldOf? fields name = some value) :
    P value := by
  obtain ⟨field, found, rfl⟩ := Option.map_eq_some_iff.mp h
  exact all field (List.mem_of_find?_eq_some found)

/-- The value of a field; no field of anything but an object. -/
def field? (value : Json) (name : String) : Option Json :=
  match value with
  | .obj fields => fieldOf? fields name
  | _ => none

/-- The value of a field, null if there is none. -/
def field (value : Json) (name : String) : Json :=
  (value.field? name).getD .null

def string? : Json → Option String
  | .str s => some s
  | _ => none

def list? : Json → Option (List Json)
  | .list items => some items
  | _ => none

/-- The integer that a value stands for: an integer, a number without fraction, or a numeral.
Truth values stand for none. -/
def integer? : Json → Option Int
  | .int n => some n
  | .float x => x.whole?
  | .str s => Numeral.read? s
  | _ => none

/-- A value that counts as true: everything but null, false, zero and the empty text,
list and object. -/
def truthy : Json → Bool
  | .null => false
  | .bool b => b
  | .int n => n != 0
  | .float x => !x.isZero
  | .str s => !s.isEmpty
  | .list items => !items.isEmpty
  | .obj fields => !fields.isEmpty

def typeName : Json → String
  | .null => "NoneType"
  | .bool _ => "bool"
  | .int _ => "int"
  | .float _ => "float"
  | .str _ => "str"
  | .list _ => "list"
  | .obj _ => "dict"

mutual

/-- A value as it stands inside a list or an object: texts are quoted. -/
def nested : Json → String
  | .null => "None"
  | .bool b => if b then "True" else "False"
  | .int n => Numeral.write n
  | .float x => x.text
  | .str s => Text.quoted s
  | .list items => "[" ++ ", ".intercalate (nestedItems items) ++ "]"
  | .obj fields => "\x7b" ++ ", ".intercalate (nestedFields fields) ++ "\x7d"

def nestedItems : List Json → List String
  | [] => []
  | item :: rest => nested item :: nestedItems rest

def nestedFields : List (String × Json) → List String
  | [] => []
  | (name, value) :: rest => (Text.quoted name ++ ": " ++ nested value) :: nestedFields rest

end

/-- The text of a value: a text is itself, anything else as it stands inside a list. -/
def display : Json → String
  | .str s => s
  | value => nested value

def ofString? (s : Option String) : Json :=
  s.elim .null .str

def ofInt? (n : Option Int) : Json :=
  n.elim .null .int

mutual

/-- A value that can be sent: its integers have numerals within the limit, its numbers are
finite, and no text in it holds a lone surrogate. -/
def writable : Json → Bool
  | .int n => Numeral.fits n
  | .float x => x.isFinite
  | .str s => !Text.hasSurrogate s
  | .list items => itemsWritable items
  | .obj fields => fieldsWritable fields
  | _ => true

def itemsWritable : List Json → Bool
  | [] => true
  | item :: rest => writable item && itemsWritable rest

def fieldsWritable : List (String × Json) → Bool
  | [] => true
  | (name, value) :: rest =>
    !Text.hasSurrogate name && writable value && fieldsWritable rest

end

end Json

end Stepflow
