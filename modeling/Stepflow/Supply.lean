/-!
# Fresh tags and the clock

Identifiers of new nodes, edges and flows end in a tag, and a flow keeps the moments of
its creation and last change. Both come from a `Supply`: two sequences and how far they
have been used. Nothing is assumed of the sequences here; statements that need distinct
tags or a clock that moves on say so.
-/

namespace Stepflow

/-- Microseconds since the start of 1970. -/
structure Moment where
  microseconds : Nat
deriving DecidableEq, Repr

instance : LE Moment := ⟨fun a b => a.microseconds ≤ b.microseconds⟩

instance (a b : Moment) : Decidable (a ≤ b) :=
  inferInstanceAs (Decidable (a.microseconds ≤ b.microseconds))

namespace Moment

/-- The year, month and day of a day counted from the start of 1970. Years are counted from
March, so that the leap day is the last of its year; 400 of them have 146097 days. -/
def civil (days : Nat) : Nat × Nat × Nat :=
  let shifted := days + 719468
  let era := shifted / 146097
  let dayOfEra := shifted % 146097
  let yearOfEra := (dayOfEra - dayOfEra / 1460 + dayOfEra / 36524 - dayOfEra / 146096) / 365
  let dayOfYear := dayOfEra - (365 * yearOfEra + yearOfEra / 4 - yearOfEra / 100)
  let marchMonth := (5 * dayOfYear + 2) / 153
  let day := dayOfYear - (153 * marchMonth + 2) / 5 + 1
  let month := if marchMonth < 10 then marchMonth + 3 else marchMonth - 9
  (yearOfEra + era * 400 + (if month ≤ 2 then 1 else 0), month, day)

/-- A number with zeros in front of it, up to `width` digits. -/
def padded (width n : Nat) : String :=
  let digits := Nat.toDigits 10 n
  String.ofList (List.replicate (width - digits.length) '0' ++ digits)

/-- The microseconds of a moment behind its full second, if there are any. -/
def fraction (m : Moment) : String :=
  let rest := m.microseconds % 1000000
  if rest == 0 then "" else "." ++ padded 6 rest

/-- Date and time of day. -/
def text (m : Moment) : String :=
  let seconds := m.microseconds / 1000000
  let (year, month, day) := civil (seconds / 86400)
  let time := seconds % 86400
  s!"{padded 4 year}-{padded 2 month}-{padded 2 day}T" ++
    s!"{padded 2 (time / 3600)}:{padded 2 (time / 60 % 60)}:{padded 2 (time % 60)}" ++ m.fraction

end Moment

/-- Where tags and moments come from. -/
structure Supply where
  /-- The tag of each draw, counted from one. -/
  tag : Nat → String
  /-- The moment of each reading, counted from one. -/
  clock : Nat → Moment
  /-- How many tags have been drawn. -/
  drawn : Nat
  /-- How often the clock has been read. -/
  readings : Nat

namespace Supply

def draw (s : Supply) : String × Supply :=
  (s.tag (s.drawn + 1), { s with drawn := s.drawn + 1 })

def now (s : Supply) : Moment × Supply :=
  (s.clock (s.readings + 1), { s with readings := s.readings + 1 })

end Supply

end Stepflow
