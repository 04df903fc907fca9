import Stepflow.Text.CaseTable

/-!
# Upper and lower case of a text

`upper` maps each character on its own; a mapping may be longer than one character
(`ß` becomes `SS`). `lower` has one rule that looks at the neighbours: a capital
sigma at the end of a word becomes the final form `ς`.
-/

namespace Stepflow.Text

/-- Where the runs move a character. -/
def mapped (runs : List CaseRun) (c : Char) : Char :=
  match runs.find? (·.holds c.toNat) with
  | some run => Char.ofNat (c.toNat + run.shift).toNat
  | none => c

def upperChar (c : Char) : List Char :=
  match upperExpansions.find? (·.1 == c.toNat) with
  | some (_, image) => image.map Char.ofNat
  | none => [mapped upperRuns c]

def upper (s : String) : String :=
  String.ofList (s.toList.flatMap upperChar)

/-- The next character that is not skipped by the case rules is a cased one. -/
def nextIsCased (s : List Char) : Bool :=
  match s.dropWhile (inRanges caseIgnorableRanges) with
  | c :: _ => inRanges casedRanges c
  | [] => false

/-- The lower case of one character between the reversed text `before` and the text
`after`. A capital sigma is final iff a letter comes before it and none after it,
skipping what the case rules ignore. -/
def lowerChar (before : List Char) (c : Char) (after : List Char) : List Char :=
  if c == 'Σ' then
    [if nextIsCased before && !nextIsCased after then 'ς' else 'σ']
  else if c == 'İ' then
    ['i', '\u0307']
  else
    [mapped lowerRuns c]

/-- The lower case of the text `s` that follows the reversed text `before`. -/
def lowerFrom (before : List Char) : List Char → List Char
  | [] => []
  | c :: s => lowerChar before c s ++ lowerFrom (c :: before) s

def lower (s : String) : String :=
  String.ofList (lowerFrom [] s.toList)

end Stepflow.Text
