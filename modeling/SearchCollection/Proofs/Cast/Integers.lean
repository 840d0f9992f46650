import SearchCollection.Proofs.Cast.Width
import SearchCollection.Proofs.Number.Numerals
import SearchCollection.Proofs.Number.Rounding

/-! # Texts cast to integers

A text that holds a whole number in decimal digits, blanks around it or not, is cast to the
integer nearest to that number (`Denotes.exists_cast_eq`). What does not fit 64 bits is read as
a double, which is rounded, but not back below the bound that the number is beyond
(`clampInt64_whole_ofDecimal`).
-/

namespace SearchCollection

/-- A text is a numeral between blanks, and the number is what the numeral stands for. -/
inductive Denotes : String → Int → Prop where
  | padded {before after : List Char} (numeral : Numeral)
      (start : ∀ c ∈ before, Text.isBlank c) (last : ∀ c ∈ after, Text.isBlank c) :
      Denotes (.ofList (before ++ numeral.chars ++ after)) numeral.value

namespace Numeral

variable (numeral : Numeral)

/-- A numeral has no blanks. -/
theorem isBlank_of_mem_chars {c : Char} (member : c ∈ numeral.chars) :
    Text.isBlank c = false := by
  rcases List.mem_append.mp member with sign | digit
  · cases kind : numeral.sign with
    | absent =>
        rw [kind] at sign
        cases sign
    | plus =>
        rw [kind] at sign
        rw [List.mem_singleton.mp sign]
        decide
    | minus =>
        rw [kind] at sign
        rw [List.mem_singleton.mp sign]
        decide
  · exact Text.isBlank_of_isDigit (numeral.isDigit_of_mem c digit)

/-- A numeral is read as the number it stands for when that fits 64 bits, and not at all
otherwise. -/
theorem readInt64_chars :
    readInt64 numeral.chars =
      if Int64.minValue.toInt ≤ numeral.value ∧ numeral.value ≤ Int64.maxValue.toInt then
        some (.ofInt numeral.value)
      else none := by
  simp only [readInt64, numeral.readInt_chars]

end Numeral

/-- A whole number beyond 64 bits and the double that it is read as are beyond the same bound. -/
theorem clampInt64_whole_ofDecimal {size : Nat} (large : twoTo 63 ≤ size) (negative : Bool) :
    clampInt64 (Binary64.ofDecimal negative size 0).whole =
      clampInt64 (if negative then -(size : Int) else size) := by
  obtain ⟨number, rounded, above, whole⟩ :=
    Binary64.exists_wholePart_ofDecimal large (by decide) negative
  have bound : twoTo 63 = 2 ^ 63 := rfl
  unfold Binary64.whole clampInt64
  rw [number, whole]
  cases negative with
  | false =>
      simp only [Bool.false_eq_true, ↓reduceIte]
      omega
  | true =>
      simp only [Bool.false_eq_true, ↓reduceIte]
      omega

namespace Denotes

variable {text first second : String} {n m : Int}

/-- A text that denotes a number counts for it, as far as 64 bits reach. -/
theorem clampInt64_wholeOfText (denotes : Denotes text n) :
    clampInt64 (Value.wholeOfText text) = clampInt64 n := by
  cases denotes with
  | padded numeral start last =>
      have trimmed := Text.trimChars_append_append start
        (fun c member => numeral.isBlank_of_mem_chars member) last
      unfold Value.wholeOfText
      rw [String.toList_ofList, trimmed]
      dsimp only
      rw [numeral.readInt64_chars, toInt_minValue, toInt_maxValue]
      by_cases fits : -2 ^ 63 ≤ numeral.value ∧ numeral.value ≤ 2 ^ 63 - 1
      · rw [if_pos fits]
        dsimp only
        rw [Int64.toInt_ofInt_of_le fits.1 (by omega)]
      · have large : twoTo 63 ≤ numeral.size := by
          have bound : twoTo 63 = 2 ^ 63 := rfl
          unfold Numeral.value at fits
          split at fits <;> omega
        rw [if_neg fits, numeral.readFloat_chars]
        exact clampInt64_whole_ofDecimal large numeral.sign.isNegative

/-- The cast integer is the one in 64 bits that is nearest to the number. -/
theorem exists_cast_eq {type : FieldType} (integer : type = .int32 ∨ type = .int64)
    (denotes : Denotes text n) :
    ∃ i : Int64, type.cast (.text text) = .int i ∧ i.toInt = clampInt64 n := by
  refine ⟨Value.intOfText text, ?_, ?_⟩
  · rcases integer with rfl | rfl <;> rfl
  · rw [Value.toInt_intOfText, denotes.clampInt64_wholeOfText]

/-- An integer's own text. -/
theorem toString_toInt (n : Int) : Denotes (toString n) n := by
  have padded := @Denotes.padded [] [] (Numeral.ofInt n) nofun nofun
  rw [List.nil_append, List.append_nil, Numeral.chars_ofInt, String.ofList_toList,
    Numeral.value_ofInt] at padded
  exact padded

end Denotes

namespace FieldType

/-- **Whole numbers in texts.** To an integer type, a text with a whole number is cast exactly if
the number fits 64 bits, else to the bound that it is beyond. So a text with a number no smaller
is cast to an integer no smaller, and the text of an integer to the integer. -/
theorem cast_numeral {type : FieldType} (integer : type = .int32 ∨ type = .int64) :
    (∀ text n, Denotes text n →
      (∀ i : Int64, i.toInt = n → type.cast (.text text) = .int i) ∧
      (Int64.maxValue.toInt < n → type.cast (.text text) = .int .maxValue) ∧
      (n < Int64.minValue.toInt → type.cast (.text text) = .int .minValue)) ∧
    (∀ first second n m, Denotes first n → Denotes second m → n ≤ m →
      ∃ a b : Int64, type.cast (.text first) = .int a ∧ type.cast (.text second) = .int b ∧
        a ≤ b) ∧
    ∀ i : Int64, type.cast (FieldType.string.cast (.int i)) = .int i := by
  have settled (text : String) (n : Int) (denotes : Denotes text n) (i : Int64)
      (nearest : clampInt64 n = i.toInt) : type.cast (.text text) = .int i := by
    obtain ⟨result, cast, toInt⟩ := denotes.exists_cast_eq integer
    rw [cast, Int64.toInt_inj.mp (toInt.trans nearest)]
  refine ⟨?_, ?_, ?_⟩
  · intro text n denotes
    refine ⟨?_, ?_, ?_⟩
    · intro i fits
      apply settled text n denotes
      rw [← fits, clampInt64_toInt]
    · intro beyond
      apply settled text n denotes
      rw [toInt_maxValue] at beyond ⊢
      unfold clampInt64
      omega
    · intro beyond
      apply settled text n denotes
      rw [toInt_minValue] at beyond ⊢
      unfold clampInt64
      omega
  · intro first second n m denotes other le
    obtain ⟨a, cast, toInt⟩ := denotes.exists_cast_eq integer
    obtain ⟨b, castOther, toIntOther⟩ := other.exists_cast_eq integer
    refine ⟨a, b, cast, castOther, ?_⟩
    rw [Int64.le_iff_toInt_le, toInt, toIntOther]
    unfold clampInt64
    omega
  · intro i
    exact settled (toString i.toInt) i.toInt (Denotes.toString_toInt i.toInt) i
      (clampInt64_toInt i)

/-- One beyond either bound, between blanks and with zeros in front. -/
theorem cast_numeral_bounds :
    int64.cast (.text " +0009223372036854775808") = .int .maxValue ∧
    int64.cast (.text "-9223372036854775809\u00a0\n") = .int .minValue ∧
    int64.cast (.text "\t0042 ") = .int 42 := by
  have above : Denotes " +0009223372036854775808" 9223372036854775808 :=
    @Denotes.padded [' '] [] ⟨.plus, "0009223372036854775808".toList, by decide,
      List.all_eq_true.mp rfl⟩ (List.all_eq_true.mp rfl) nofun
  have below : Denotes "-9223372036854775809\u00a0\n" (-9223372036854775809) :=
    @Denotes.padded [] ['\u00a0', '\n'] ⟨.minus, "9223372036854775809".toList, by decide,
      List.all_eq_true.mp rfl⟩ nofun (List.all_eq_true.mp rfl)
  have within : Denotes "\t0042 " 42 :=
    @Denotes.padded ['\t'] [' '] ⟨.absent, "0042".toList, by decide, List.all_eq_true.mp rfl⟩
      (List.all_eq_true.mp rfl) (List.all_eq_true.mp rfl)
  obtain ⟨cast, -, -⟩ := @cast_numeral .int64 (.inr rfl)
  refine ⟨?_, ?_, ?_⟩
  · exact (cast _ _ above).2.1 (by decide)
  · exact (cast _ _ below).2.2 (by decide)
  · exact (cast _ _ within).1 42 (by decide)

end FieldType

end SearchCollection
