import SearchCollection.Proofs.Number.Rounding

/-! # The nearest double

A whole number is rounded to the double nearest to it, and of two that are as near to the one
whose mantissa is even (`Binary64.isNearest_ofInt`). Sizes are compared in units. The doubles
around a size are multiples of a power of two, and `roundEven` finds the nearest multiple
(`gap_roundEven_le`); doubles with fewer places lie below all of these.
-/

namespace SearchCollection

/-- How far two numbers are apart. -/
def gap (first second : Int) : Nat :=
  (first - second).natAbs

variable {size den : Nat}

theorem gap_natAbs_le (first second : Int) :
    gap first.natAbs second.natAbs ≤ gap first second := by
  unfold gap
  omega

/-- Numbers of one sign are as far apart as their sizes. -/
theorem gap_natAbs_eq {first second : Int}
    (agree : 0 ≤ first ∧ 0 ≤ second ∨ first ≤ 0 ∧ second ≤ 0) :
    gap first.natAbs second.natAbs = gap first second := by
  unfold gap
  omega

theorem gap_lt_gap {low middle : Nat} (first : low < middle) (second : middle ≤ size) :
    gap size middle < gap size low := by
  unfold gap
  omega

theorem roundEven_le (size den : Nat) : roundEven size den ≤ size / den + 1 := by
  unfold roundEven
  dsimp only
  split
  · omega
  · split <;> omega

/-- No multiple of the denominator is nearer than the rounded one, and one that is as near is the
odd one of two. -/
theorem gap_roundEven_le (size : Nat) (some : 0 < den) (k : Nat) :
    gap size (roundEven size den * den : Nat) ≤ gap size (k * den : Nat) ∧
      (gap size (k * den : Nat) = gap size (roundEven size den * den : Nat) →
        k = roundEven size den ∨ roundEven size den % 2 = 0) := by
  have whole := Nat.div_add_mod' size den
  have rest := Nat.mod_lt size some
  have next : (size / den + 1) * den = size / den * den + den := Nat.succ_mul ..
  have apart : k = size / den ∨ k = size / den + 1 ∨ k * den + den ≤ size / den * den ∨
      size / den * den + 2 * den ≤ k * den := by
    rcases Nat.lt_trichotomy k (size / den) with below | same | above
    · have multiple := Nat.mul_le_mul_right den (Nat.succ_le_of_lt below)
      rw [Nat.succ_mul] at multiple
      exact .inr (.inr (.inl multiple))
    · exact .inl same
    · by_cases adjacent : k = size / den + 1
      · exact .inr (.inl adjacent)
      · have beyond : size / den + 2 ≤ k := by omega
        have multiple := Nat.mul_le_mul_right den beyond
        rw [Nat.add_mul] at multiple
        exact .inr (.inr (.inr multiple))
  unfold roundEven gap
  dsimp only
  by_cases low : 2 * (size % den) < den
  · rw [if_pos low]
    rcases apart with rfl | rfl | below | above <;> omega
  · rw [if_neg low]
    by_cases high : den < 2 * (size % den)
    · rw [if_pos high]
      rcases apart with rfl | rfl | below | above <;> omega
    · rw [if_neg high]
      rcases Nat.mod_two_eq_zero_or_one (size / den) with even | odd
      · rw [even, Nat.add_zero]
        rcases apart with rfl | rfl | below | above <;> omega
      · rw [odd]
        rcases apart with rfl | rfl | below | above <;> omega

namespace Binary64

variable {x : Binary64} {shift places mantissa : Nat}

/-! ## Doubles as multiples of powers of two -/

/-- A mantissa has fifty-three bits. -/
theorem mantissa_lt (x : Binary64) : x.mantissa < twoTo 53 := by
  have half : twoTo 53 = 2 * twoTo 52 := rfl
  have whole := Nat.div_add_mod' x.magnitude (twoTo 52)
  have rest := Nat.mod_lt x.magnitude (twoTo_pos 52)
  unfold Binary64.mantissa Binary64.scale
  rcases Nat.eq_zero_or_pos (x.magnitude / twoTo 52) with zero | positive
  · rw [zero, Nat.zero_mul] at whole
    omega
  · have below := Nat.sub_add_cancel positive
    have step : (x.magnitude / twoTo 52 - 1 + 1) * twoTo 52 =
        (x.magnitude / twoTo 52 - 1) * twoTo 52 + twoTo 52 := Nat.succ_mul ..
    rw [below] at step
    omega

/-- Magnitude bits that are given by a number of places and a mantissa, which may also be the next
power of two. -/
theorem units_of_magnitude (bits : x.magnitude = shift * twoTo 52 + mantissa)
    (leading : 0 < shift → twoTo 52 ≤ mantissa) (small : mantissa ≤ twoTo 53) :
    x.units = mantissa * twoTo shift ∧ x.mantissa % 2 = mantissa % 2 := by
  have half : twoTo 53 = 2 * twoTo 52 := rfl
  have positive := twoTo_pos 52
  -- The exponent bits count the places from one on, and from zero for the subnormal numbers.
  by_cases normal : twoTo 52 ≤ mantissa
  · by_cases within : mantissa < twoTo 53
    · have exponent : x.magnitude / twoTo 52 = shift + 1 := by
        rw [bits, Nat.mul_comm, Nat.mul_add_div positive]
        have one : mantissa / twoTo 52 = 1 := Nat.div_eq_of_lt_le (by omega) (by omega)
        rw [one]
      have scale : x.scale = shift := by
        rw [Binary64.scale, exponent, Nat.add_sub_cancel]
      have same : x.mantissa = mantissa := by
        rw [Binary64.mantissa, scale, bits, Nat.add_sub_cancel_left]
      rw [units, same, scale]
      exact ⟨rfl, rfl⟩
    · have power : mantissa = twoTo 53 := by omega
      have exact : x.magnitude = (shift + 2) * twoTo 52 := by
        rw [bits, power, half, Nat.add_mul]
      have exponent : x.magnitude / twoTo 52 = shift + 2 := by
        rw [exact, Nat.mul_div_cancel _ positive]
      have scale : x.scale = shift + 1 := by
        rw [Binary64.scale, exponent]
        rfl
      have leadingOne : x.mantissa = twoTo 52 := by
        have one : shift + 2 - (shift + 1) = 1 := by omega
        rw [Binary64.mantissa, scale, exact, ← Nat.sub_mul, one, Nat.one_mul]
      rw [units, leadingOne, scale, power, ← twoTo_add, ← twoTo_add]
      exact ⟨congrArg twoTo (by omega), rfl⟩
  · have none : shift = 0 := by omega
    subst none
    have exponent : x.magnitude / twoTo 52 = 0 := Nat.div_eq_of_lt (by omega)
    have scale : x.scale = 0 := by rw [Binary64.scale, exponent]
    have same : x.mantissa = mantissa := by
      rw [Binary64.mantissa, scale, bits]
      omega
    rw [units, same, scale]
    exact ⟨rfl, rfl⟩

/-! ## Rounding a size -/

/-- A size scaled down keeps fifty-three bits at most. -/
theorem lt_twoTo_log2 (size : Nat) : size < twoTo (53 + (size.log2 - 52)) := by
  have below : size < twoTo (size.log2 + 1) := Nat.lt_log2_self
  exact Nat.lt_of_lt_of_le below (twoTo_le_twoTo (by omega))

/-- A size that is scaled down at all keeps fifty-three bits. -/
theorem twoTo_log2_le (large : 0 < size.log2 - 52) : twoTo (52 + (size.log2 - 52)) ≤ size := by
  have some : size ≠ 0 := by
    rintro rfl
    cases large
  have places : 52 + (size.log2 - 52) = size.log2 := by omega
  rw [places]
  exact Nat.log2_self_le some

/-- A rounded size fits a mantissa or is the least that does not. -/
theorem roundEven_le_twoTo (size : Nat) : roundEven size (twoTo (size.log2 - 52)) ≤ twoTo 53 := by
  have below := lt_twoTo_log2 size
  rw [twoTo_add, ← Nat.div_lt_iff_lt_mul (twoTo_pos _)] at below
  exact Nat.le_trans (roundEven_le size _) below

/-- A size that is scaled down is rounded to a mantissa with its leading bit. -/
theorem twoTo_le_roundEven (large : 0 < size.log2 - 52) :
    twoTo 52 ≤ roundEven size (twoTo (size.log2 - 52)) := by
  have above := twoTo_log2_le large
  rw [twoTo_add, ← Nat.le_div_iff_mul_le (twoTo_pos _)] at above
  exact Nat.le_trans above (div_le_roundEven size _)

/-- A whole number of units becomes its scale and its rounded mantissa, or infinity. -/
theorem roundUnits_one (size : Nat) :
    roundUnits size 1 = min infinityBits
      ((size.log2 - 52) * twoTo 52 + roundEven size (twoTo (size.log2 - 52))) := by
  unfold roundUnits
  dsimp only
  rw [Nat.div_one, Nat.one_mul]

/-- A rounded size is a multiple of the power of two that its leading digit asks for. -/
theorem units_of_roundUnits (rounded : x.magnitude = roundUnits size 1)
    (finite : x.magnitude < infinityBits) :
    x.units = roundEven size (twoTo (size.log2 - 52)) * twoTo (size.log2 - 52) ∧
      x.mantissa % 2 = roundEven size (twoTo (size.log2 - 52)) % 2 := by
  have bits : x.magnitude =
      (size.log2 - 52) * twoTo 52 + roundEven size (twoTo (size.log2 - 52)) := by
    rw [roundUnits_one] at rounded
    omega
  exact units_of_magnitude bits twoTo_le_roundEven (roundEven_le_twoTo size)

/-- No double is nearer to a size than the one that it is rounded to. -/
theorem gap_units_le (rounded : x.magnitude = roundUnits size 1)
    (finite : x.magnitude < infinityBits) (other : Binary64) :
    gap size x.units ≤ gap size other.units ∧
      (gap size other.units = gap size x.units → other.units = x.units ∨ x.mantissa % 2 = 0) := by
  obtain ⟨size_eq, parity⟩ := units_of_roundUnits rounded finite
  rw [size_eq, parity]
  generalize places : size.log2 - 52 = shift
  by_cases same : shift ≤ other.scale
  · -- The other double is a multiple of the same power of two.
    have multiple : other.units = other.mantissa * twoTo (other.scale - shift) * twoTo shift := by
      rw [units, Nat.mul_assoc, ← twoTo_add, Nat.sub_add_cancel same]
    rw [multiple]
    obtain ⟨least, even⟩ := gap_roundEven_le size (twoTo_pos shift)
      (other.mantissa * twoTo (other.scale - shift))
    refine ⟨least, fun tie => ?_⟩
    rcases even tie with equal | even
    · exact .inl (by rw [equal])
    · exact .inr even
  · -- The other double has fewer places, and lies below the least multiple that has them all.
    have large : 0 < size.log2 - 52 := by omega
    have power : other.units < twoTo 52 * twoTo shift := by
      have step : twoTo 52 * twoTo shift = twoTo 53 * twoTo (shift - 1) := by
        rw [← twoTo_add, ← twoTo_add]
        exact congrArg twoTo (by omega)
      rw [step, units]
      have mantissa := Nat.mul_lt_mul_of_pos_right other.mantissa_lt (twoTo_pos other.scale)
      have scale := Nat.mul_le_mul_left (twoTo 53)
        (twoTo_le_twoTo (show other.scale ≤ shift - 1 by omega))
      exact Nat.lt_of_lt_of_le mantissa scale
    have below := twoTo_log2_le large
    rw [twoTo_add, places] at below
    have least := (gap_roundEven_le size (twoTo_pos shift) (twoTo 52)).1
    have farther := Nat.lt_of_le_of_lt least (gap_lt_gap power below)
    exact ⟨Nat.le_of_lt farther, fun tie => (Nat.ne_of_gt farther tie).elim⟩

/-! ## Rounding a whole number -/

/-- The number in units, with its sign. -/
def signedUnits (x : Binary64) : Int :=
  if x.isNegative then -(x.units : Int) else x.units

/-- A finite double that no other one is nearer to a whole number than. If one is as near, then the
mantissa is even. -/
structure IsNearest (n : Int) (x : Binary64) : Prop where
  finite : x.isFinite
  gap_le : ∀ other : Binary64, other.isFinite →
    gap (n * one) x.signedUnits ≤ gap (n * one) other.signedUnits
  even_of_tie : ∀ other : Binary64, other.isFinite →
      gap (n * one) other.signedUnits = gap (n * one) x.signedUnits →
      other.units = x.units ∨ x.mantissa % 2 = 0

theorem natAbs_signedUnits (x : Binary64) : x.signedUnits.natAbs = x.units := by
  unfold signedUnits
  split <;> omega

/-- A size within range is rounded to a finite number. -/
theorem roundUnits_lt_infinityBits (small : size < twoTo (52 + shift)) (finite : shift ≤ 2045) :
    roundUnits size 1 < infinityBits := by
  have scale : size.log2 - 52 ≤ 2044 := by
    by_cases zero : size = 0
    · subst zero
      exact Nat.zero_le 2044
    · have below := (Nat.log2_lt zero).mpr small
      omega
  have shifted := Nat.mul_le_mul_right (twoTo 52) scale
  have leading := roundEven_le_twoTo size
  have room : 2044 * twoTo 52 + twoTo 53 < infinityBits := by decide
  rw [roundUnits_one]
  omega

/-- A whole number in range is made a finite double with its sign. -/
theorem magnitude_ofInt {n : Int} (inRange : n.natAbs < twoTo places) (small : places ≤ 1023) :
    (ofInt n).magnitude = roundUnits (n.natAbs * one) 1 ∧ (ofInt n).magnitude < infinityBits ∧
      (ofInt n).isNegative = decide (n < 0) := by
  have scaled : n.natAbs * one < twoTo (52 + (places + 1022)) := by
    rw [twoTo_mul_one]
    exact Nat.mul_lt_mul_of_pos_right inRange one_pos
  have finite := roundUnits_lt_infinityBits scaled (by omega)
  have bits : roundUnits (n.natAbs * one) 1 < twoTo 63 := Nat.lt_trans finite infinityBits_lt
  have rounded : (ofInt n).magnitude = roundUnits (n.natAbs * one) 1 := magnitude_ofParts bits
  exact ⟨rounded, rounded ▸ finite, isNegative_ofParts bits⟩

/-- **A whole number becomes the nearest double**, as long as it is in range. -/
theorem isNearest_ofInt {n : Int} (inRange : n.natAbs < twoTo places) (small : places ≤ 1023) :
    (ofInt n).IsNearest n := by
  obtain ⟨rounded, finite, sign⟩ := magnitude_ofInt inRange small
  have nearest := gap_units_le rounded finite
  have sizes (other : Binary64) :
      gap (n.natAbs * one : Nat) other.units ≤ gap (n * one) other.signedUnits := by
    have apart := gap_natAbs_le (n * one) other.signedUnits
    rwa [natAbs_signedUnits, Int.natAbs_mul, Int.natAbs_natCast] at apart
  have same : gap (n * one) (ofInt n).signedUnits = gap (n.natAbs * one : Nat) (ofInt n).units := by
    have agree : 0 ≤ n * one ∧ 0 ≤ (ofInt n).signedUnits ∨
        n * one ≤ 0 ∧ (ofInt n).signedUnits ≤ 0 := by
      unfold signedUnits
      rw [sign]
      by_cases negative : n < 0
      · refine .inr ⟨Int.mul_nonpos_of_nonpos_of_nonneg (by omega) (by omega), ?_⟩
        rw [if_pos (decide_eq_true negative)]
        omega
      · refine .inl ⟨Int.mul_nonneg (by omega) (by omega), ?_⟩
        rw [if_neg (by simpa using negative)]
        omega
    rw [← gap_natAbs_eq agree, natAbs_signedUnits, Int.natAbs_mul, Int.natAbs_natCast]
  refine ⟨decide_eq_true finite, ?_, ?_⟩
  · intro other _
    rw [same]
    exact Nat.le_trans (nearest other).1 (sizes other)
  · intro other _ tie
    rw [same] at tie
    apply (nearest other).2
    apply Nat.le_antisymm
    · rw [← tie]
      exact sizes other
    · exact (nearest other).1

end Binary64

end SearchCollection
