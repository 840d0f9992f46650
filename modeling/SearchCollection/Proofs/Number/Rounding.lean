import SearchCollection.Number.Binary64

/-! # Rounding and powers of two

A size rounded to the nearest double may shrink, but not below a power of two: a quotient of
at least `2 ^ (52 + s)` units rounds to a double of at least as many units, be it infinite
(`Binary64.le_roundUnits`, `Binary64.le_units`). So a whole number from such a power on is read
as a double whose whole part is no smaller than the power, however many digits it has
(`Binary64.exists_wholePart_ofDecimal`).
-/

namespace SearchCollection

theorem twoTo_add (first second : Nat) : twoTo (first + second) = twoTo first * twoTo second :=
  Nat.pow_add 2 first second

theorem twoTo_le_twoTo {first second : Nat} (le : first ≤ second) : twoTo first ≤ twoTo second :=
  Nat.pow_le_pow_right (by decide) le

theorem twoTo_pos (places : Nat) : 0 < twoTo places :=
  Nat.pow_pos (by decide)

/-- Rounding takes nothing from the quotient. -/
theorem div_le_roundEven (num den : Nat) : num / den ≤ roundEven num den := by
  unfold roundEven
  dsimp only
  split
  · exact Nat.le_refl _
  · split <;> omega

namespace Binary64

variable {negative : Bool} {magnitude num den shift : Nat} {x : Binary64}

/-! ## The parts of a double -/

theorem infinityBits_lt : infinityBits < twoTo 63 := by
  decide

/-- The bits of a double are its magnitude and, above it, its sign. -/
theorem toNat_bits_ofParts (small : magnitude < twoTo 63) :
    (ofParts negative magnitude).bits.toNat = (if negative then twoTo 63 else 0) + magnitude := by
  have half : twoTo 63 = 9223372036854775808 := rfl
  have fits : (if negative then twoTo 63 else 0) + magnitude < 2 ^ 64 := by
    split <;> omega
  exact UInt64.toNat_ofNat_of_lt' fits

/-- A double has the magnitude that it is made of. -/
theorem magnitude_ofParts (small : magnitude < twoTo 63) :
    (ofParts negative magnitude).magnitude = magnitude := by
  unfold Binary64.magnitude
  rw [toNat_bits_ofParts small]
  split
  · rw [Nat.add_mod_left, Nat.mod_eq_of_lt small]
  · rw [Nat.zero_add, Nat.mod_eq_of_lt small]

/-- A double has the sign that it is made of. -/
theorem isNegative_ofParts (small : magnitude < twoTo 63) :
    (ofParts negative magnitude).isNegative = negative := by
  unfold isNegative
  rw [toNat_bits_ofParts small]
  cases negative with
  | false => simpa using small
  | true => simp

/-- Magnitude bits from those of infinity down are a number. -/
theorem isNaN_ofParts (small : magnitude ≤ infinityBits) :
    (ofParts negative magnitude).isNaN = false := by
  unfold isNaN
  rw [magnitude_ofParts (Nat.lt_of_le_of_lt small infinityBits_lt)]
  simpa using small

/-! ## The size of a double -/

/-- Every step of the exponent doubles the size. -/
theorem le_units (large : (shift + 1) * twoTo 52 ≤ x.magnitude) : twoTo (52 + shift) ≤ x.units := by
  have exponent : shift + 1 ≤ x.magnitude / twoTo 52 :=
    (Nat.le_div_iff_mul_le (twoTo_pos 52)).mpr large
  have scale : shift ≤ x.scale := by
    unfold Binary64.scale
    omega
  have mantissa : twoTo 52 ≤ x.mantissa := by
    have bits : (x.scale + 1) * twoTo 52 ≤ x.magnitude := by
      rw [← Nat.le_div_iff_mul_le (twoTo_pos 52)]
      unfold Binary64.scale
      omega
    rw [Nat.succ_mul] at bits
    unfold Binary64.mantissa
    omega
  rw [twoTo_add]
  exact Nat.mul_le_mul mantissa (twoTo_le_twoTo scale)

theorem roundUnits_le (num den : Nat) : roundUnits num den ≤ infinityBits :=
  Nat.min_le_left ..

/-- The magnitude bits of a rounded quotient are at least those of a power of two below it. -/
theorem le_roundUnits (large : twoTo (52 + shift) ≤ num / den) (finite : shift ≤ 2046) :
    (shift + 1) * twoTo 52 ≤ roundUnits num den := by
  have some : num / den ≠ 0 := Nat.ne_of_gt (Nat.lt_of_lt_of_le (twoTo_pos _) large)
  have places : 52 + shift ≤ (num / den).log2 := (Nat.le_log2 some).mpr large
  obtain ⟨scale, log⟩ : ∃ scale, (num / den).log2 = 52 + scale :=
    ⟨(num / den).log2 - 52, by omega⟩
  have size : twoTo (52 + scale) ≤ num / den := log ▸ Nat.log2_self_le some
  have leading : twoTo 52 ≤ roundEven num (den * twoTo scale) := by
    rw [twoTo_add, ← Nat.le_div_iff_mul_le (twoTo_pos scale), Nat.div_div_eq_div_mul] at size
    exact Nat.le_trans size (div_le_roundEven num (den * twoTo scale))
  unfold roundUnits infinityBits
  rw [log, Nat.add_sub_cancel_left, Nat.le_min]
  constructor
  · have exponent : shift + 1 ≤ 2047 := by omega
    exact Nat.mul_le_mul exponent (Nat.le_refl _)
  · calc (shift + 1) * twoTo 52 ≤ (scale + 1) * twoTo 52 :=
          Nat.mul_le_mul_right (twoTo 52) (by omega)
      _ = scale * twoTo 52 + twoTo 52 := Nat.succ_mul ..
      _ ≤ scale * twoTo 52 + roundEven num (den * twoTo scale) :=
          Nat.add_le_add_left leading _

/-! ## Powers of two themselves -/

/-- The magnitude bits of a power of two. -/
def powerBits (places : Nat) : Nat := (places + 1023) * twoTo 52

theorem twoTo_mul_one (places : Nat) : twoTo (52 + (places + 1022)) = twoTo places * one := by
  have shifted : 52 + (places + 1022) = places + 1074 := by omega
  rw [shifted]
  unfold one
  apply twoTo_add

theorem one_pos : 0 < one := by
  unfold one
  apply twoTo_pos

/-- The powers of two up to the greatest have bits below those of infinity. -/
theorem powerBits_le_infinityBits {places : Nat} (small : places ≤ 1024) :
    powerBits places ≤ infinityBits := by
  unfold powerBits infinityBits
  apply Nat.mul_le_mul_right
  omega

/-- A double with at least the magnitude bits of a power of two has no smaller whole part. -/
theorem le_units_div_one {places : Nat} (large : powerBits places ≤ x.magnitude) :
    twoTo places ≤ x.units / one := by
  have size : twoTo (52 + (places + 1022)) ≤ x.units := le_units large
  rw [Nat.le_div_iff_mul_le one_pos, ← twoTo_mul_one]
  exact size

/-- A whole number from a power of two on rounds to no smaller magnitude bits. -/
theorem powerBits_le_roundUnits {places n : Nat} (large : twoTo places ≤ n)
    (small : places ≤ 1024) : powerBits places ≤ roundUnits (n * one) 1 := by
  have size : twoTo (52 + (places + 1022)) ≤ n * one / 1 := by
    rw [Nat.div_one, twoTo_mul_one]
    exact Nat.mul_le_mul_right one large
  exact le_roundUnits size (by omega)

/-- A whole number from a power of two on is read as a double with at least the magnitude bits of
that power, however many digits it has. -/
theorem exists_ofDecimal_eq_ofParts {places digits : Nat} (large : twoTo places ≤ digits)
    (small : places ≤ 1024) (negative : Bool) :
    ∃ bits, ofDecimal negative digits 0 = ofParts negative bits ∧
      powerBits places ≤ bits ∧ bits ≤ infinityBits := by
  have some : digits ≠ 0 := Nat.ne_of_gt (Nat.lt_of_lt_of_le (twoTo_pos places) large)
  have notTiny : ¬((Nat.toDigits 10 digits).length + 0 : Int) < -400 := by omega
  unfold ofDecimal
  simp only [some, notTiny, decide_false, Bool.or_false, Bool.false_eq_true, ↓reduceIte]
  split
  · exact ⟨infinityBits, rfl, powerBits_le_infinityBits small, Nat.le_refl _⟩
  · have whole : ofRatio negative (digits * tenTo (Int.toNat 0)) (tenTo (Int.toNat (-0))) =
        ofParts negative (roundUnits (digits * one) 1) := by
      simp only [ofRatio, Int.toNat_zero, Int.neg_zero, tenTo, Nat.pow_eq, Nat.pow_zero,
        Nat.mul_one]
    exact ⟨_, whole, powerBits_le_roundUnits large small, roundUnits_le _ _⟩

/-- So its whole part is of at least that size; that of infinity is, too. -/
theorem exists_wholePart_ofDecimal {places digits : Nat} (large : twoTo places ≤ digits)
    (small : places ≤ 1024) (negative : Bool) :
    (ofDecimal negative digits 0).isNaN = false ∧
      ∃ size : Nat, twoTo places ≤ size ∧
        (ofDecimal negative digits 0).wholePart = if negative then -(size : Int) else size := by
  obtain ⟨bits, parts, above, below⟩ := exists_ofDecimal_eq_ofParts large small negative
  have small : bits < twoTo 63 := Nat.lt_of_le_of_lt below infinityBits_lt
  rw [parts]
  refine ⟨isNaN_ofParts below, (ofParts negative bits).units / one, ?_, ?_⟩
  · apply le_units_div_one
    rwa [magnitude_ofParts small]
  · unfold wholePart
    rw [isNegative_ofParts small]

end Binary64

end SearchCollection
