import Mathlib.Data.List.TakeDrop
import SearchCollection.Number.Reading

/-! # Whole numbers in decimal digits

A `Numeral` is a sign, which may be left out, and one or more decimal digits, zeros in front
among them. The readers of texts take it for the number it stands for (`readInt_chars`), one
of integers only if it fits 64 bits, and one of doubles rounded (`readFloat_chars`). Every
integer is written as a numeral (`Numeral.chars_ofInt`).
-/

namespace SearchCollection

/-- The sign in front of the digits of a number. -/
inductive NumeralSign where
  | absent
  | plus
  | minus

namespace NumeralSign

def chars : NumeralSign → List Char
  | .absent => []
  | .plus => ['+']
  | .minus => ['-']

def isNegative : NumeralSign → Bool
  | .minus => true
  | .absent | .plus => false

end NumeralSign

/-- A whole number as it is written. -/
structure Numeral where
  sign : NumeralSign
  digits : List Char
  digits_ne_nil : digits ≠ []
  isDigit_of_mem : ∀ c ∈ digits, c.isDigit

theorem toLower_of_isDigit {c : Char} (digit : c.isDigit) : c.toLower = c := by
  simp only [Char.isDigit, Bool.and_eq_true, decide_eq_true_eq] at digit
  have small : ¬(c.val ≥ 'A'.val ∧ c.val ≤ 'Z'.val) := by
    intro upper
    have wrong : 'A'.val ≤ '9'.val := UInt32.le_trans upper.1 digit.2
    revert wrong
    decide
  unfold Char.toLower
  rw [dif_neg small]

/-- Digits are read as in the library. -/
theorem digitsValue_eq_ofDigitChars (digits : List Char) :
    digitsValue digits = Nat.ofDigitChars 10 digits 0 := by
  have step (sofar : Nat) (c : Char) :
      sofar * 10 + (c.toNat - '0'.toNat) = 10 * sofar + (c.toNat - '0'.toNat) := by
    rw [Nat.mul_comm]
  simp only [digitsValue, Nat.ofDigitChars, step]

namespace Numeral

def chars (numeral : Numeral) : List Char :=
  numeral.sign.chars ++ numeral.digits

/-- The number that the digits stand for. -/
def size (numeral : Numeral) : Nat :=
  Nat.ofDigitChars 10 numeral.digits 0

/-- The number that the numeral stands for. -/
def value (numeral : Numeral) : Int :=
  if numeral.sign.isNegative then -(numeral.size : Int) else numeral.size

/-- An integer in as few digits as possible. -/
def ofInt (n : Int) : Numeral where
  sign := if n < 0 then .minus else .absent
  digits := Nat.toDigits 10 n.natAbs
  digits_ne_nil := Nat.toDigits_ne_nil
  isDigit_of_mem _ member := Nat.isDigit_of_mem_toDigits (by decide) (by decide) member

theorem chars_ofInt (n : Int) : (ofInt n).chars = (toString n).toList := by
  change (ofInt n).chars = n.repr.toList
  rw [Int.repr_eq_if]
  by_cases negative : n < 0
  · have size : n.natAbs = (-n).toNat := by omega
    rw [if_neg (by omega)]
    simp [chars, ofInt, negative, NumeralSign.chars, size]
  · have size : n.natAbs = n.toNat := by omega
    rw [if_pos (by omega)]
    simp [chars, ofInt, negative, NumeralSign.chars, size]

theorem value_ofInt (n : Int) : (ofInt n).value = n := by
  unfold value size ofInt
  rw [Nat.ofDigitChars_ten_toDigits]
  by_cases negative : n < 0
  · simp only [negative, ↓reduceIte, NumeralSign.isNegative]
    omega
  · simp only [negative, ↓reduceIte, NumeralSign.isNegative, Bool.false_eq_true]
    omega

variable (numeral : Numeral)

/-- The digits of a numeral are read as its size. -/
theorem digitsValue_digits : digitsValue numeral.digits = numeral.size :=
  digitsValue_eq_ofDigitChars numeral.digits

/-- The first digit of a numeral and those behind it. -/
theorem exists_digits_eq_cons : ∃ c rest, numeral.digits = c :: rest ∧ c.isDigit := by
  cases digits : numeral.digits with
  | nil => exact (numeral.digits_ne_nil digits).elim
  | cons c rest =>
      refine ⟨c, rest, rfl, numeral.isDigit_of_mem c ?_⟩
      rw [digits]
      exact List.mem_cons_self

/-- The sign of a numeral is told from its digits. -/
theorem spanSign_chars : spanSign numeral.chars = (numeral.sign.isNegative, numeral.digits) := by
  obtain ⟨c, rest, digits, digit⟩ := numeral.exists_digits_eq_cons
  unfold chars
  cases numeral.sign with
  | plus => rfl
  | minus => rfl
  | absent =>
      have notMinus : c ≠ '-' := by
        rintro rfl
        cases digit
      have notPlus : c ≠ '+' := by
        rintro rfl
        cases digit
      rw [digits]
      simp [NumeralSign.chars, NumeralSign.isNegative, spanSign, notMinus, notPlus]

/-- A numeral is read as the number it stands for. -/
theorem readInt_chars : readInt numeral.chars = some numeral.value := by
  have some : numeral.digits.isEmpty = false := by
    simpa using numeral.digits_ne_nil
  have decimal : numeral.digits.all Char.isDigit = true :=
    List.all_eq_true.mpr numeral.isDigit_of_mem
  simp only [readInt, numeral.spanSign_chars, some, decimal, numeral.digitsValue_digits,
    Bool.not_true, Bool.or_self, Bool.false_eq_true, ↓reduceIte, value]

/-- The words for infinity and for no number do not start like the digits of a numeral. -/
theorem toLower_digits_ne {c : Char} (letter : c.isDigit = false) (rest : List Char) :
    String.ofList (numeral.digits.map Char.toLower) ≠ String.ofList (c :: rest) := by
  obtain ⟨first, others, digits, digit⟩ := numeral.exists_digits_eq_cons
  intro same
  rw [digits, List.map_cons, String.ofList_inj, List.cons.injEq, toLower_of_isDigit digit] at same
  rw [same.1, letter] at digit
  cases digit

theorem spanDigits_digits : spanDigits numeral.digits = (numeral.digits, []) := by
  have all : (numeral.digits ++ []).takeWhile Char.isDigit = numeral.digits ++ [] :=
    List.takeWhile_append_of_pos numeral.isDigit_of_mem
  have none : (numeral.digits ++ []).dropWhile Char.isDigit = [] :=
    List.dropWhile_append_of_pos numeral.isDigit_of_mem
  rw [List.append_nil] at all none
  unfold spanDigits
  rw [List.span_eq_takeWhile_dropWhile, all, none]

/-- The digits of a numeral are read as a decimal without a fraction. -/
theorem readDecimal_digits (negative : Bool) :
    readDecimal negative numeral.digits = some (.ofDecimal negative numeral.size 0) := by
  have some : numeral.digits.isEmpty = false := by
    simpa using numeral.digits_ne_nil
  unfold readDecimal
  simp only [numeral.spanDigits_digits, some, Bool.false_and, Bool.false_eq_true, ↓reduceIte,
    List.append_nil, numeral.digitsValue_digits, readExponent]
  rfl

/-- A numeral is read as the double nearest to it. -/
theorem readFloat_chars :
    readFloat numeral.chars = some (.ofDecimal numeral.sign.isNegative numeral.size 0) := by
  have notShort := numeral.toLower_digits_ne (c := 'i') (by decide) ['n', 'f']
  have notInfinity :=
    numeral.toLower_digits_ne (c := 'i') (by decide) ['n', 'f', 'i', 'n', 'i', 't', 'y']
  have notNaN := numeral.toLower_digits_ne (c := 'n') (by decide) ['a', 'n']
  unfold readFloat
  simp only [numeral.spanSign_chars]
  rw [if_neg, if_neg, numeral.readDecimal_digits]
  · exact notNaN
  · simp only [Bool.or_eq_true, decide_eq_true_eq, not_or]
    exact ⟨notShort, notInfinity⟩

end Numeral

end SearchCollection
