import Stepflow.Binary64

/-!
# The shortest decimal text of a number

The reals that round to a number form an interval around it, closed iff its significand
is even. The shortest decimal is the one with the fewest digits inside that interval, and
of those the nearest to the number. On each decimal grid only the two neighbours of the
number have to be looked at: if any grid point lies in the interval, one of them does.

`text` writes these digits: positional for exponents from -4 to 15, in scientific form
with a signed exponent of at least two digits elsewhere.
-/

namespace Stepflow.Binary64

/-- A positive decimal `coefficient · 10 ^ exponent`. -/
structure ShortDecimal where
  coefficient : Nat
  exponent : Int
deriving DecidableEq, Repr

def digitCount (n : Nat) : Nat :=
  (Nat.toDigits 10 n).length

/-- The largest `e` with `10 ^ e ≤ num / den`, for a positive quotient. -/
def decimalExponent (num den : Nat) : Int :=
  let e : Int := (digitCount num : Int) - digitCount den
  if den * Nat.pow 10 e.toNat ≤ num * Nat.pow 10 (-e).toNat then e else e - 1

/-- The interval that rounds to a number, over one denominator. -/
structure Rounding where
  low : Nat
  exact : Nat
  high : Nat
  den : Nat
  closed : Bool

/-- Four times the significand leaves room for half a unit above and, at the least
significand of a scale, a quarter of one below. -/
def rounding (x : Binary64) : Rounding :=
  let m := x.significand
  let num := Nat.pow 2 x.scale.toNat
  let below := if m == fractionSize && x.exponentField > 1 then 1 else 2
  { low := (4 * m - below) * num
    exact := 4 * m * num
    high := (4 * m + 2) * num
    den := 4 * Nat.pow 2 (-x.scale).toNat
    closed := m % 2 == 0 }

/-- Whether `num / den` rounds to the number of the interval. -/
def Rounding.holds (r : Rounding) (num den : Nat) : Bool :=
  let low := r.low * den
  let high := r.high * den
  let point := num * r.den
  if r.closed then low ≤ point && point ≤ high else low < point && point < high

/-- The nearest point of the grid `10 ^ e` in the interval; a tie goes to the even one. -/
def Rounding.onGrid? (r : Rounding) (e : Int) : Option ShortDecimal :=
  let up := Nat.pow 10 e.toNat
  let down := Nat.pow 10 (-e).toNat
  let below := r.exact * down / (r.den * up)
  let above := below + 1
  let fits (n : Nat) := r.holds (n * up) down
  let gapBelow := r.exact * down - below * up * r.den
  let gapAbove := above * up * r.den - r.exact * down
  match fits below, fits above with
  | true, true =>
    let takeBelow := gapBelow < gapAbove || (gapBelow == gapAbove && below % 2 == 0)
    some ⟨if takeBelow then below else above, e⟩
  | true, false => some ⟨below, e⟩
  | false, true => some ⟨above, e⟩
  | false, false => none

/-- The first hit on the grids of `17 - left`, …, 17 digits below the leading exponent. -/
def Rounding.search (r : Rounding) (leading : Int) : Nat → ShortDecimal
  | 0 => (r.onGrid? (leading - 16)).getD ⟨0, 0⟩
  | left + 1 =>
    match r.onGrid? (leading - (16 - (left + 1 : Nat))) with
    | some found => found
    | none => r.search leading left

/-- The shortest decimal of a positive finite number. Seventeen digits always suffice. -/
def shortest (x : Binary64) : ShortDecimal :=
  let r := rounding x
  r.search (decimalExponent r.exact r.den) 16

/-- The digits of a decimal without trailing zeros, and the exponent of the first. -/
def ShortDecimal.digits (d : ShortDecimal) : List Char × Int :=
  let all := Nat.toDigits 10 d.coefficient
  ((all.reverse.dropWhile (· == '0')).reverse, d.exponent + all.length - 1)

/-- An exponent with its sign and at least two digits. -/
def exponentText (e : Int) : List Char :=
  let all := Nat.toDigits 10 e.natAbs
  (if e < 0 then '-' else '+') :: (if all.length < 2 then '0' :: all else all)

/-- Digits with the exponent of the first, laid out. -/
def layout (digits : List Char) (e : Int) : List Char :=
  if -4 ≤ e && e < 0 then
    '0' :: '.' :: List.replicate (-e - 1).toNat '0' ++ digits
  else if 0 ≤ e && e < 16 then
    let whole := e.toNat + 1
    let padded := digits ++ List.replicate (whole - digits.length) '0'
    let fraction := padded.drop whole
    padded.take whole ++ '.' :: (if fraction.isEmpty then ['0'] else fraction)
  else
    let rest := digits.drop 1
    digits.take 1 ++ (if rest.isEmpty then [] else '.' :: rest) ++ 'e' :: exponentText e

/-- The shortest text that reads back as the number. -/
def text (x : Binary64) : String :=
  if x.isNaN then "nan"
  else
    let sign := if x.negative then ['-'] else []
    let body :=
      if !x.isFinite then ['i', 'n', 'f']
      else if x.isZero then ['0', '.', '0']
      else
        let (digits, e) := (shortest x).digits
        layout digits e
    String.ofList (sign ++ body)

end Stepflow.Binary64
