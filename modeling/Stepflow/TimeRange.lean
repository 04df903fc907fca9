import Stepflow.Numeral

/-!
# Time ranges

A time range such as `last_7_days` names an amount and a grain. Writing takes any amount and
any grain. Reading keeps each half on its own, and a grain only if it is a known one.
-/

namespace Stepflow.TimeRange

def knownGrains : List String :=
  ["day", "month"]

/-- A range with the given texts for amount and grain. -/
def layout (amount grain : String) : String :=
  "last_" ++ amount ++ "_" ++ grain ++ "s"

def write (amount : Int) (grain : String) : String :=
  layout (Numeral.write amount) grain

/-- A grain without the plural ending. -/
def singular (grain : List Char) : List Char :=
  if grain.getLast? == some 's' then grain.dropLast else grain

/-- The amount and the grain of a range. Both are missing from a text with fewer than two
underscores; what follows a third one is not looked at. -/
def read (range : String) : Option Int × Option String :=
  match range.toList.splitOn '_' with
  | _ :: amount :: grain :: _ =>
    let grain := String.ofList (singular grain)
    (Numeral.readChars? amount, if knownGrains.contains grain then some grain else none)
  | _ => (none, none)

end Stepflow.TimeRange
