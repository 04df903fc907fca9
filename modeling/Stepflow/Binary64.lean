/-!
# Binary64 numbers

A number of the IEEE 754 binary64 format, kept as its 64-bit word. A finite number is
`± significand · 2 ^ scale`; the fields are read off the word by arithmetic on naturals,
so every fact about a number is a fact about its word.

`nearest` rounds a quotient of naturals to the closest number, and a half to the even
word. Integers and decimal texts become numbers through it.
-/

namespace Stepflow

/-- A binary64 number, by its word. -/
structure Binary64 where
  bits : BitVec 64
deriving DecidableEq, Repr

namespace Binary64

/-- What the sign bit adds to a word. -/
def signWeight : Nat := 0x8000000000000000

/-- The number of values of the fraction field, and the weight of the bit in front of it. -/
def fractionSize : Nat := 0x10000000000000

def negative (x : Binary64) : Bool :=
  signWeight ≤ x.bits.toNat

def exponentField (x : Binary64) : Nat :=
  x.bits.toNat / fractionSize % 2048

def fractionField (x : Binary64) : Nat :=
  x.bits.toNat % fractionSize

def isFinite (x : Binary64) : Bool :=
  x.exponentField != 2047

def isNaN (x : Binary64) : Bool :=
  x.exponentField == 2047 && x.fractionField != 0

/-- The integer factor of a finite number's magnitude. -/
def significand (x : Binary64) : Nat :=
  if x.exponentField = 0 then x.fractionField else x.fractionField + fractionSize

/-- The exponent of two in a finite number's magnitude. -/
def scale (x : Binary64) : Int :=
  (max x.exponentField 1 : Nat) - 1075

def isZero (x : Binary64) : Bool :=
  x.exponentField == 0 && x.fractionField == 0

/-- A magnitude below infinity as a quotient. -/
def magnitude (x : Binary64) : Nat × Nat :=
  (x.significand * Nat.pow 2 x.scale.toNat, Nat.pow 2 (-x.scale).toNat)

/-- The integer that a finite number without fraction equals. -/
def whole? (x : Binary64) : Option Int :=
  let (num, den) := x.magnitude
  if x.isFinite && num % den == 0 then
    some (if x.negative then -(num / den : Nat) else (num / den : Nat))
  else none

/-- The number of the given sign whose magnitude has the given word. -/
def ofWord (negative : Bool) (word : Nat) : Binary64 :=
  ⟨BitVec.ofNat 64 ((if negative then signWeight else 0) + word)⟩

/-- The word of infinity, and the first that is no finite magnitude. -/
def infinityWord : Nat := 2047 * fractionSize

def infinity (negative : Bool) : Binary64 :=
  ofWord negative infinityWord

def nan : Binary64 :=
  ofWord false (infinityWord + fractionSize / 2)

/-- `num / den` rounded to an integer, a half to the even one. -/
def roundHalfEven (num den : Nat) : Nat :=
  let floor := num / den
  let twice := 2 * (num % den)
  if den < twice || (den == twice && floor % 2 == 1) then floor + 1 else floor

/-- The scale at which `num / den` has a significand of 53 bits, or the least scale.
The quotient lies strictly between `2 ^ (k - 1)` and `2 ^ (k + 1)` for the difference `k`
of the two logarithms, which leaves two candidates. -/
def scaleFor (num den : Nat) : Int :=
  let k : Int := (num.log2 : Int) - den.log2
  let low := k - 53
  let up := Nat.pow 2 (53 + low).toNat
  let down := Nat.pow 2 (-(53 + low)).toNat
  max (if den * up ≤ num * down then low + 1 else low) (-1074)

/-- The number nearest to `± num / den`, infinite if the magnitude is too large. The word of
a magnitude counts the numbers below it, so a carry out of the significand is right of itself. -/
def nearest (negative : Bool) (num den : Nat) : Binary64 :=
  if num == 0 then ofWord negative 0
  else
    let scale := scaleFor num den
    let units := roundHalfEven (num * Nat.pow 2 (-scale).toNat) (den * Nat.pow 2 scale.toNat)
    ofWord negative (min ((scale + 1074).toNat * fractionSize + units) infinityWord)

/-- The number nearest to an integer, unless that is infinite. -/
def ofInt? (n : Int) : Option Binary64 :=
  let x := nearest (n < 0) n.natAbs 1
  if x.isFinite then some x else none

/-- The number nearest to `± coefficient · 10 ^ exponent`. Exponents that decide the answer
by themselves are settled before any power is taken. -/
def ofDecimal (negative : Bool) (coefficient : Nat) (exponent : Int) : Binary64 :=
  let size : Int := coefficient.log2
  if coefficient == 0 then ofWord negative 0
  else if exponent > 400 then infinity negative
  else if size + 3 * exponent < -1200 && exponent < -400 then ofWord negative 0
  else nearest negative (coefficient * Nat.pow 10 exponent.toNat) (Nat.pow 10 (-exponent).toNat)

end Binary64

end Stepflow
