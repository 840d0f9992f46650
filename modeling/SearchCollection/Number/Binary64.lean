import SearchCollection.Number.Power

/-! # Binary floating point numbers

A `Binary64` is the 64-bit pattern of an IEEE 754 double. Its finite values are
whole multiples of one unit, `2 ^ -1074`, so every conversion and comparison is
arithmetic on natural numbers: `units` is the size of a value in that unit, and
`ofRatio` rounds an exact quotient to the nearest value, a tie going to the even
mantissa. The sizes grow with the magnitude bits, and rounding is the only place
where anything is lost.
-/

namespace SearchCollection

/-- The bits of a double: a sign, eleven exponent bits and fifty-two fraction bits. -/
structure Binary64 where
  bits : UInt64
deriving DecidableEq, Inhabited

/-- The quotient rounded to the nearest whole number, a tie going to the even one. -/
def roundEven (num den : Nat) : Nat :=
  let quotient := num / den
  let rest := num % den
  if 2 * rest < den then quotient
  else if den < 2 * rest then quotient + 1
  else quotient + quotient % 2

namespace Binary64

/-- The units in one: a finite value is a whole multiple of `2 ^ -1074`. -/
def one : Nat := twoTo 1074

/-- The magnitude bits of infinity; beyond them lie the patterns that are no number. -/
def infinityBits : Nat := 2047 * twoTo 52

/-- The double with the given sign and magnitude bits. -/
def ofParts (negative : Bool) (magnitude : Nat) : Binary64 :=
  ⟨.ofNat ((if negative then twoTo 63 else 0) + magnitude)⟩

/-- The sign bit. -/
def isNegative (x : Binary64) : Bool :=
  twoTo 63 ≤ x.bits.toNat

/-- The bits below the sign. -/
def magnitude (x : Binary64) : Nat :=
  x.bits.toNat % twoTo 63

def isFinite (x : Binary64) : Bool :=
  x.magnitude < infinityBits

def isInfinite (x : Binary64) : Bool :=
  x.magnitude = infinityBits

def isNaN (x : Binary64) : Bool :=
  infinityBits < x.magnitude

def isZero (x : Binary64) : Bool :=
  x.magnitude = 0

/-- The binary places the mantissa is moved up by; zero for the subnormal numbers. -/
def scale (x : Binary64) : Nat :=
  x.magnitude / twoTo 52 - 1

/-- The mantissa, with the leading one that normal numbers leave out. -/
def mantissa (x : Binary64) : Nat :=
  x.magnitude - x.scale * twoTo 52

/-- The size of the number in units of `2 ^ -1074`. -/
def units (x : Binary64) : Nat :=
  x.mantissa * twoTo x.scale

/-- The magnitude bits of the double nearest to a size of `num / den` units. -/
def roundUnits (num den : Nat) : Nat :=
  let scale := (num / den).log2 - 52
  min infinityBits (scale * twoTo 52 + roundEven num (den * twoTo scale))

/-- The double nearest to an exact quotient, infinite when it is out of range. -/
def ofRatio (negative : Bool) (num den : Nat) : Binary64 :=
  ofParts negative (roundUnits (num * one) den)

/-- The double nearest to a whole number. -/
def ofInt (n : Int) : Binary64 :=
  ofRatio (n < 0) n.natAbs 1

/-- The double nearest to `digits * 10 ^ exponent`. -/
def ofDecimal (negative : Bool) (digits : Nat) (exponent : Int) : Binary64 :=
  let places := (Nat.toDigits 10 digits).length + exponent
  if digits = 0 || places < -400 then ofParts negative 0
  else if 400 < places then ofParts negative infinityBits
  else ofRatio negative (digits * tenTo exponent.toNat) (tenTo (-exponent).toNat)

def infinity (negative : Bool) : Binary64 :=
  ofParts negative infinityBits

/-- The pattern that stands for no number. -/
def nan (negative : Bool) : Binary64 :=
  ofParts negative (infinityBits + twoTo 51)

def zero : Binary64 :=
  ofParts false 0

/-- The same number with the other sign. -/
def neg (x : Binary64) : Binary64 :=
  ofParts (!x.isNegative) x.magnitude

/-- The product of two finite numbers, rounded once. -/
def mul (x y : Binary64) : Binary64 :=
  ofRatio (x.isNegative != y.isNegative) (x.units * y.units) (one * one)

/-- The quotient of two finite numbers, rounded once; the divisor is not zero. -/
def div (x y : Binary64) : Binary64 :=
  ofRatio (x.isNegative != y.isNegative) x.units y.units

/-- Equality of numbers: the two zeros are equal, and what is no number equals nothing. -/
def equals (x y : Binary64) : Bool :=
  !x.isNaN && !y.isNaN && (x == y || x.isZero && y.isZero)

/-- The whole part of the number, of its sign. -/
def wholePart (x : Binary64) : Int :=
  let size : Int := ↑(x.units / one)
  if x.isNegative then -size else size

/-- The whole part as a 64-bit integer: out of range it is the nearest bound, and zero for
what is no number. -/
def toInt64 (x : Binary64) : Int64 :=
  if x.isNaN then 0 else .ofIntClamp x.wholePart

end Binary64

end SearchCollection
