import Stepflow.Text.Blank
import Stepflow.Text.DecimalDigit

/-!
# Decimal numerals

How integers are written, and the two ways they are read. The tolerant reading takes
the digits of every script, and serves documents that come from outside. The plain reading
takes ASCII digits, zeros in front and an empty fraction such as `.00`, and serves the fields
of a model. Both allow blanks around the numeral, one sign, and single underscores between
digits. No numeral of more than `maxDigits` digits is written or read.
-/

namespace Stepflow.Numeral

open Text

/-- The most digits that a numeral may have. -/
def maxDigits : Nat := 4300

/-- An integer whose numeral is within the limit. -/
def fits (n : Int) : Bool :=
  n.natAbs < Nat.pow 10 maxDigits

/-- A numeral beyond the limit: one that would be written, or one that was read and has
so many digits. -/
inductive Overlong where
  | written
  | found (digits : Nat)
deriving DecidableEq, Repr

def Overlong.message : Overlong → String
  | .written =>
    s!"Exceeds the limit ({maxDigits} digits) for integer string conversion; " ++
      "use sys.set_int_max_str_digits() to increase the limit"
  | .found digits =>
    s!"Exceeds the limit ({maxDigits} digits) for integer string conversion: " ++
      s!"value has {digits} digits; use sys.set_int_max_str_digits() to increase the limit"

def digits : Int → List Char
  | .ofNat n => Nat.toDigits 10 n
  | .negSucc n => '-' :: Nat.toDigits 10 (n + 1)

def write (n : Int) : String :=
  String.ofList (digits n)

/-- The number that a list of digit values stands for. -/
def ofDigitValues (values : List Nat) : Nat :=
  values.foldl (fun n value => 10 * n + value) 0

/-- Whether a numeral starts with a minus sign, and what follows its sign. -/
def splitSign : List Char → Bool × List Char
  | '-' :: s => (true, s)
  | '+' :: s => (false, s)
  | s => (false, s)

theorem length_splitSign_le (s : List Char) : (splitSign s).2.length ≤ s.length := by
  fun_cases splitSign s
  · exact Nat.le_succ _
  · exact Nat.le_succ _
  · exact Nat.le_refl _

def signed (negative : Bool) (magnitude : Nat) : Int :=
  if negative then -(magnitude : Int) else magnitude

/-- The digit values of a group: one or more digits and nothing else. -/
def group? (s : List Char) : Option (List Nat) :=
  if s.isEmpty then none else s.mapM digitValue?

/-- The digit values of a numeral without sign: groups joined by single underscores. -/
def digitValues? (s : List Char) : Option (List Nat) :=
  ((s.splitOn '_').mapM group?).map List.flatten

def readChars? (s : List Char) : Option Int :=
  let (negative, body) := splitSign (trimBy isBlank s)
  match digitValues? body with
  | some values =>
    if values.length ≤ maxDigits then some (signed negative (ofDigitValues values)) else none
  | none => none

/-- The tolerant reading of a numeral. -/
def read? (s : String) : Option Int :=
  readChars? s.toList

inductive PlainFault where
  | malformed
  | tooLong
deriving DecidableEq, Repr

/-- A canonical numeral: a zero, or digits that start with another one, behind a minus sign
or none. Digits in front that go beyond the limit are too long, whatever stands behind them. The
sign does not count. -/
def readCanonical (s : List Char) : Except PlainFault Int :=
  let negative := s.head? == some '-'
  let body := if negative then s.tail else s
  let front := body.takeWhile isAsciiDigit
  if front.isEmpty then .error .malformed
  else if front.head? == some '0' then
    if body == ['0'] then .ok 0 else .error .malformed
  else if front.length > maxDigits then .error .tooLong
  else if front.length != body.length then .error .malformed
  else .ok (signed negative (Nat.ofDigitChars 10 front 0))

/-- What is left of a numeral whose last character so far is the zero or underscore `last`,
when zeros are dropped from its front. They end at another digit or at a minus sign; in front
of a point and at the end of the text the last one stays. -/
def behindZeros? (last : Char) : List Char → Option (List Char)
  | [] => some [last]
  | c :: s =>
    if c == '0' || c == '_' then behindZeros? c s
    else if isAsciiDigit c || c == '-' then some (c :: s)
    else if c == '.' then some (last :: c :: s)
    else none

/-- A numeral without the zeros in front of it; none unless it starts with a digit. -/
def dropZeros? : List Char → Option (List Char)
  | [] => none
  | c :: s =>
    if c == '0' then behindZeros? c s
    else if isAsciiDigit c then some (c :: s)
    else none

/-- A text without its fraction, if the fraction is a point and one or more zeros. -/
def dropEmptyFraction (s : List Char) : List Char :=
  match s.span (· != '.') with
  | (whole, _ :: fraction) =>
    if !fraction.isEmpty && fraction.all (· == '0') then whole else s
  | (_, []) => s

/-- A text without its underscores, if they stand one by one and inside it. -/
def dropUnderscores (s : List Char) : List Char :=
  if (s.splitOn '_').all (!·.isEmpty) then s.filter (· != '_') else s

/-- The canonical numeral that a plain one is meant to be. A minus sign stays in front of the
digits, a plus sign is dropped. -/
def tidy? (s : List Char) : Option (List Char) :=
  let body :=
    match trimBy isWhiteSpace s with
    | '+' :: '-' :: _ => none
    | '+' :: body => dropZeros? body
    | '-' :: body => (dropZeros? body).map ('-' :: ·)
    | body => dropZeros? body
  body.map fun body => dropUnderscores (dropEmptyFraction body)

/-- The plain reading, on characters. Only a text that is too long as it stands is called too
long; once it has to be tidied, it is malformed. -/
def readPlainChars (s : List Char) : Except PlainFault Int :=
  match readCanonical s with
  | .ok n => .ok n
  | .error .tooLong => .error .tooLong
  | .error .malformed =>
    match (tidy? s).map readCanonical with
    | some (.ok n) => .ok n
    | _ => .error .malformed

/-- The plain reading of a numeral. -/
def readPlain (s : String) : Except PlainFault Int :=
  readPlainChars s.toList

end Stepflow.Numeral
