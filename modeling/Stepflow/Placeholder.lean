import Stepflow.Numeral

/-!
# Placeholders

The content of a step may hold placeholders: a tag between two opening and two closing
braces. A tag runs up to the first pair of closing braces and does not go over a line end.
A `Reference` is what a tag refers to, as far as it refers to anything that is checked.
-/

namespace Stepflow.Placeholder

/-- The tag at the front of a text that follows opening braces: what stands before the first
two closing braces; nothing if the line ends before them. -/
def close? : List Char → Option (List Char)
  | [] => none
  | '\x7d' :: '\x7d' :: _ => some []
  | c :: rest => if c == '\n' then none else (close? rest).map (c :: ·)

/-- The tag of the placeholder at the front of a text. -/
def front? : List Char → Option (List Char)
  | '\x7b' :: '\x7b' :: rest => close? rest
  | _ => none

/-- The tags of a text from left to right, passing over the `skip` characters that are part of
a placeholder found before. -/
def tagsFrom (skip : Nat) : List Char → List (List Char)
  | [] => []
  | c :: rest =>
    match skip with
    | skip + 1 => tagsFrom skip rest
    | 0 =>
      match front? (c :: rest) with
      | some tag => tag :: tagsFrom (tag.length + 3) rest
      | none => tagsFrom 0 rest

/-- Passing over characters is the same as dropping them. -/
theorem tagsFrom_eq_drop (skip : Nat) (s : List Char) :
    tagsFrom skip s = tagsFrom 0 (s.drop skip) := by
  induction s generalizing skip with
  | nil => cases skip <;> rfl
  | cons c rest ih =>
    cases skip with
    | zero => rfl
    | succ skip => exact ih skip

def allTags (s : List Char) : List (List Char) :=
  tagsFrom 0 s

/-- The distinct tags of a text, in the order of their first occurrence. -/
def tags (content : String) : List String :=
  ((allTags content.toList).map String.ofList).eraseDups

/-- A tag as it stands in a text. -/
def write (tag : String) : String :=
  "\x7b\x7b" ++ tag ++ "\x7d\x7d"

def iterationTag : String := "iteration_value"

def stepTag (order : Int) : String :=
  "step_" ++ Numeral.write order

/-- What a tag refers to: the iteration value, or the step whose order has these digits. -/
inductive Reference where
  | iteration
  | step (digits : List Nat)
  | other
deriving DecidableEq, Repr

/-- The digits of a step tag: one or more decimal digits of any script behind `step_`. -/
def stepDigits? (tag : String) : Option (List Nat) :=
  let s := tag.toList
  if "step_".toList.isPrefixOf s then Numeral.group? (s.drop 5) else none

def Reference.ofTag (tag : String) : Reference :=
  if tag == iterationTag then .iteration
  else match stepDigits? tag with
    | some digits => .step digits
    | none => .other

structure Offer where
  label : String
  description : String
deriving DecidableEq, Repr

def catalog : List Offer :=
  [⟨write iterationTag, "Current iteration value (e.g. Consultant Name)"⟩,
   ⟨write "step_N", "Output of Step N (e.g., " ++ write "step_1" ++ ")"⟩,
   ⟨write "sequence_name", "Refer to step by name"⟩]

end Stepflow.Placeholder
