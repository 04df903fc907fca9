import Stepflow.Json

/-!
# Fields of a model

A model is read from a JSON value field by field. The rules are lax: a number may come as
text, a truth value as a number. Reading goes on behind a fault, so `Checked` collects the
faults of all fields in the order in which the fields are declared. A `Fault` is a path
into the value and a `Mismatch`.
-/

namespace Stepflow.Field

/-- A step of the path to a fault. -/
inductive Place where
  | name (field : String)
  | index (position : Nat)
deriving DecidableEq, Repr

/-- What a value is not. -/
inductive Mismatch where
  | missing
  | text
  | encoding
  | integer
  | integerText
  | integerFraction
  | integerSize
  | finite
  | boolean
  | booleanText
  | number
  | list
  | dictionary
  | model (name : String)
  | attributes
  | kind
  | json
deriving DecidableEq, Repr

def Mismatch.code : Mismatch → String
  | .missing => "missing"
  | .text => "string_type"
  | .encoding => "string_unicode"
  | .integer => "int_type"
  | .integerText => "int_parsing"
  | .integerFraction => "int_from_float"
  | .integerSize => "int_parsing_size"
  | .finite => "finite_number"
  | .boolean => "bool_type"
  | .booleanText => "bool_parsing"
  | .number => "float_type"
  | .list => "list_type"
  | .dictionary => "dict_type"
  | .model _ => "model_type"
  | .attributes => "model_attributes_type"
  | .kind => "enum"
  | .json => "json_invalid"

def Mismatch.message : Mismatch → String
  | .missing => "Field required"
  | .text => "Input should be a valid string"
  | .encoding => "Input should be a valid string, unable to parse raw data as a unicode string"
  | .integer => "Input should be a valid integer"
  | .integerText => "Input should be a valid integer, unable to parse string as an integer"
  | .integerFraction => "Input should be a valid integer, got a number with a fractional part"
  | .integerSize => "Unable to parse input string as an integer, exceeded maximum size"
  | .finite => "Input should be a finite number"
  | .boolean => "Input should be a valid boolean"
  | .booleanText => "Input should be a valid boolean, unable to interpret input"
  | .number => "Input should be a valid number"
  | .list => "Input should be a valid list"
  | .dictionary => "Input should be a valid dictionary"
  | .model name => "Input should be a valid dictionary or instance of " ++ name
  | .attributes => "Input should be a valid dictionary or object to extract fields from"
  | .kind => "Input should be 'sql', 'llm' or 'concat'"
  | .json => "JSON decode error"

structure Fault where
  path : List Place
  mismatch : Mismatch
deriving DecidableEq, Repr

def Place.toJson : Place → Json
  | .name field => .str field
  | .index position => .int position

/-- A fault with its path as a list. -/
def Fault.toJson (f : Fault) : Json :=
  .obj [("type", .str f.mismatch.code), ("loc", .list (f.path.map Place.toJson)),
    ("msg", .str f.mismatch.message)]

/-- What a refusal tells: a text, or the faults of a model. How a list of faults is put into words
is left to whoever reports them. -/
inductive Detail where
  | text (text : String)
  | faults (model : String) (faults : List Fault)
deriving DecidableEq, Repr

/-- A value, or the faults that stand in its way. -/
inductive Checked (α : Type) where
  | ok (value : α)
  | bad (faults : List Fault)
deriving DecidableEq, Repr

namespace Checked

variable {α β : Type}

/-- The faults of a checked value; none if there is a value. -/
def faults : Checked α → List Fault
  | .ok _ => []
  | .bad faults => faults

/-- Applying a checked function keeps the faults of both sides, the function's first. -/
def apply (f : Checked (α → β)) (x : Checked α) : Checked β :=
  match f, x with
  | .ok f, .ok x => .ok (f x)
  | .ok _, .bad faults => .bad faults
  | .bad faults, x => .bad (faults ++ x.faults)

def map (f : α → β) (x : Checked α) : Checked β :=
  match x with
  | .ok x => .ok (f x)
  | .bad faults => .bad faults

instance : Applicative Checked where
  pure := .ok
  map := map
  seq f x := f.apply (x ())

/-- A checked value with the faults of its parts placed below `place`. -/
def within (place : Place) (x : Checked α) : Checked α :=
  match x with
  | .ok x => .ok x
  | .bad faults => .bad (faults.map fun fault => { fault with path := place :: fault.path })

/-- Lists of checked values; `index` is the place of the first. -/
def all (index : Nat) : List (Checked α) → Checked (List α)
  | [] => .ok []
  | x :: rest => List.cons <$> x.within (.index index) <*> all (index + 1) rest

def toExcept : Checked α → Except (List Fault) α
  | .ok x => .ok x
  | .bad faults => .error faults

end Checked

/-- The part of `value` that a path leads to, or the last part on the way that is there. This
is what a fault with that path found; a field that is missing was missed in its object. -/
def found (value : Json) : List Place → Json
  | [] => value
  | .name field :: path =>
    match value.field? field with
    | some part => found part path
    | none => value
  | .index position :: path =>
    match (value.list?.getD [])[position]? with
    | some part => found part path
    | none => value

/-- A single fault at the value itself. -/
def reject {α : Type} (mismatch : Mismatch) : Checked α :=
  .bad [⟨[], mismatch⟩]

/-- A text; nothing else is taken for one. -/
def text : Json → Checked String
  | .str s => .ok s
  | _ => reject .text

/-- The integers that a machine word holds. -/
def isWord (n : Int) : Bool :=
  -0x8000000000000000 ≤ n && n < 0x8000000000000000

/-- The integer that a binary64 number without fraction is, if a word holds it. The least
word is left out: numbers below it may have been rounded to it. -/
def wordOfNumber (x : Binary64) : Except Mismatch Int :=
  if !x.isFinite then .error .finite
  else match x.whole? with
    | none => .error .integerFraction
    | some n => if isWord n && isWord (n - 1) then .ok n else .error .integerSize

/-- The integer of a numeral. -/
def integerOfText (s : String) : Checked Int :=
  if Text.hasSurrogate s then reject .encoding
  else match Numeral.readPlain s with
    | .ok n => .ok n
    | .error .malformed => reject .integerText
    | .error .tooLong => reject .integerSize

/-- An integer: also a truth value, a number without fraction that fits a word, or a
numeral. -/
def integer : Json → Checked Int
  | .int n => .ok n
  | .bool b => .ok (if b then 1 else 0)
  | .float x =>
    match wordOfNumber x with
    | .ok n => .ok n
    | .error mismatch => reject mismatch
  | .str s => integerOfText s
  | _ => reject .integer

/-- The truth value of an integer, for zero and one. -/
def booleanOfInt (n : Int) : Checked Bool :=
  if n == 0 then .ok false else if n == 1 then .ok true else reject .booleanText

/-- The truth value that a word stands for, in either case of the ASCII letters. -/
def booleanOfText (s : String) : Checked Bool :=
  let word := String.ofList (s.toList.map Char.toLower)
  if Text.hasSurrogate s then reject .encoding
  else if ["1", "true", "t", "yes", "y", "on"].contains word then .ok true
  else if ["0", "false", "f", "no", "n", "off"].contains word then .ok false
  else reject .booleanText

/-- A truth value: also zero and one as numbers, and a few words. -/
def boolean : Json → Checked Bool
  | .bool b => .ok b
  | .int n => if isWord n then booleanOfInt n else reject .boolean
  | .float x =>
    match wordOfNumber x with
    | .ok n => booleanOfInt n
    | .error _ => reject .boolean
  | .str s => booleanOfText s
  | _ => reject .boolean

/-- A value, or nothing for null. -/
def optional {α : Type} (read : Json → Checked α) : Json → Checked (Option α)
  | .null => .ok none
  | value => some <$> read value

def list {α : Type} (read : Json → Checked α) : Json → Checked (List α)
  | .list items => Checked.all 0 (items.map read)
  | _ => reject .list

/-- The fields of an object; anything else is no model of the given name. -/
def model {α : Type} (name : String) (read : List (String × Json) → Checked α) : Json → Checked α
  | .obj fields => read fields
  | _ => reject (.model name)

def required {α : Type} (fields : List (String × Json)) (name : String)
    (read : Json → Checked α) : Checked α :=
  match Json.fieldOf? fields name with
  | some value => (read value).within (.name name)
  | none => (reject .missing).within (.name name)

/-- A field that has a value of its own when it is not there. -/
def defaulted {α : Type} (fields : List (String × Json)) (name : String) (default : α)
    (read : Json → Checked α) : Checked α :=
  match Json.fieldOf? fields name with
  | some value => (read value).within (.name name)
  | none => .ok default

end Stepflow.Field
