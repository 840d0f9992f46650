import SearchCollection.Number.Binary64

/-! # The shortest decimal of a double

`Binary64.shortest` gives the decimal with the fewest digits that reads back as
the same double, and of those the nearest one. The decimals with a given last
place form a grid; on each grid only the two neighbours of the value need a
look, because the decimals that read back fill an interval around it. The grids
are tried from the coarsest on.
-/

namespace SearchCollection

/-- The number `digits * 10 ^ exponent`. -/
structure Decimal where
  digits : Nat
  exponent : Int
deriving DecidableEq

/-- Which of two decimals that lie equally near is taken. -/
inductive Tie where
  /-- The one with the even last digit. -/
  | even
  /-- The larger one. -/
  | up
deriving DecidableEq

namespace Decimal

/-- The same number without zeros at the end of its digits. -/
def strip (d : Decimal) : Decimal :=
  if d.digits ≠ 0 ∧ d.digits % 10 = 0 then strip ⟨d.digits / 10, d.exponent + 1⟩ else d
termination_by d.digits
decreasing_by omega

end Decimal

namespace Binary64

/-- An interval of decimals around a value, as sizes over one common denominator. -/
structure Surrounding where
  low : Nat
  value : Nat
  high : Nat
  den : Nat
  /-- Whether the two ends belong to the interval. -/
  closed : Bool

/-- The decimals that read back as a finite number other than zero. The ends lie half way to
the neighbours, and belong to the interval when the mantissa is even. -/
def surrounding (x : Binary64) : Surrounding where
  low := 4 * x.units - (if x.mantissa = twoTo 52 ∧ 0 < x.scale then 1 else 2) * twoTo x.scale
  value := 4 * x.units
  high := 4 * x.units + 2 * twoTo x.scale
  den := 4 * one
  closed := x.mantissa % 2 = 0

/-- The multiple of `10 ^ exponent` nearest to the value among the two next to it that lie in
the interval. -/
def Surrounding.onGrid (s : Surrounding) (tie : Tie) (exponent : Int) : Option Nat :=
  let up := tenTo (-exponent).toNat
  let step := s.den * tenTo exponent.toNat
  let below := s.value * up / step
  let rest := s.value * up % step
  let lowFits := if s.closed then s.low * up ≤ below * step else s.low * up < below * step
  let highFits :=
    if s.closed then (below + 1) * step ≤ s.high * up else (below + 1) * step < s.high * up
  if lowFits ∧ highFits then
    some (if 2 * rest < step then below
      else if step < 2 * rest then below + 1
      else match tie with
        | .even => below + below % 2
        | .up => below + 1)
  else if lowFits then some below
  else if highFits then some (below + 1)
  else none

/-- The first hit on the grids from `exponent` on, each ten times finer than the last. -/
def Surrounding.search (s : Surrounding) (tie : Tie) : Nat → Int → Decimal
  | 0, exponent => ⟨s.value * tenTo (-exponent).toNat / (s.den * tenTo exponent.toNat), exponent⟩
  | finer + 1, exponent =>
      match s.onGrid tie exponent with
      | some digits => ⟨digits, exponent⟩
      | none => s.search tie finer (exponent - 1)

/-- The place of the leading digit of a finite number other than zero: the greatest `e` with
`10 ^ e` not above its size. -/
def leadingPlace (x : Binary64) : Int :=
  (Nat.toDigits 10 (x.units * tenTo 350 / one)).length - 351

/-- The decimal with the fewest digits that reads back as the same finite number, the nearest
one of them. Seventeen digits always suffice. -/
def shortest (tie : Tie) (x : Binary64) : Decimal :=
  if x.isZero then ⟨0, 0⟩ else (x.surrounding.search tie 17 x.leadingPlace).strip

end Binary64

end SearchCollection
