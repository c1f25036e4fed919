import Mathlib.Data.List.TakeWhile
import Mathlib.Tactic.Common

/-!
# Numbers as decimal text

Writing integers in base ten, with or without leading zeros, and the reading of the C library,
which takes as much of the text as is a number.
-/

namespace GradidoNode

namespace Library

namespace DecimalText

/-- `isspace`. -/
def isSpace (character : Char) : Bool :=
  character = ' ' || ('\t' ≤ character && character ≤ '\r')

/-- The value of the digits at the start of a text. -/
def readDigits (text : List Char) : Nat :=
  Nat.ofDigitChars 10 (text.takeWhile Char.isDigit) 0

/-- White space, a sign, digits; the rest is not looked at. -/
def readInteger (text : List Char) : Int :=
  match text.dropWhile isSpace with
  | '-' :: digits => -(readDigits digits : Int)
  | '+' :: digits => readDigits digits
  | digits => readDigits digits

/-- Base ten, with a minus sign for negative numbers. -/
def ofInt (number : Int) : List Char :=
  if number < 0 then '-' :: Nat.toDigits 10 number.natAbs else Nat.toDigits 10 number.natAbs

/-- Base ten, with zeros in front up to a width. -/
def padded (width number : Nat) : List Char :=
  List.replicate (width - (Nat.toDigits 10 number).length) '0' ++ Nat.toDigits 10 number

/-- A padded number is written with digits only. -/
theorem isDigit_of_mem_padded {width number : Nat} {character : Char}
    (member : character ∈ padded width number) : character.isDigit = true := by
  rcases List.mem_append.mp member with zero | digit
  · rw [List.eq_of_mem_replicate zero]
    rfl
  · exact Nat.isDigit_of_mem_toDigits (by decide) (by decide) digit

/-- Digits are read to their end. -/
theorem readDigits_of_digits {text : List Char}
    (digits : ∀ character ∈ text, character.isDigit = true) :
    readDigits text = Nat.ofDigitChars 10 text 0 := by
  unfold readDigits
  rw [List.takeWhile_eq_self_iff.mpr digits]

/-- The digits of a number are read as the number. -/
theorem readDigits_toDigits (number : Nat) : readDigits (Nat.toDigits 10 number) = number := by
  rw [readDigits_of_digits fun _ member =>
    Nat.isDigit_of_mem_toDigits (by decide) (by decide) member]
  exact Nat.ofDigitChars_ten_toDigits

/-- So is a padded number. -/
theorem readDigits_padded (width number : Nat) : readDigits (padded width number) = number := by
  rw [readDigits_of_digits fun _ member => isDigit_of_mem_padded member, padded,
    Nat.ofDigitChars_append, Nat.ofDigitChars_replicate_zero, Nat.mul_zero]
  exact Nat.ofDigitChars_ten_toDigits

/-- A digit is no space. -/
theorem isSpace_of_digit {character : Char} (digit : character.isDigit = true) :
    isSpace character = false := by
  have above : '0' ≤ character := by
    simp only [Char.isDigit, Bool.and_eq_true, decide_eq_true_eq] at digit
    exact digit.1
  have notBlank : character ≠ ' ' := by
    rintro rfl
    exact absurd digit (by decide)
  have notControl : ¬ character ≤ '\r' := by
    intro below
    exact absurd (Char.le_trans above below) (by decide)
  simp [isSpace, notBlank, notControl]

/-- A text of digits has neither white space nor a sign in front. -/
theorem readInteger_of_digits {text : List Char}
    (digits : ∀ character ∈ text, character.isDigit = true) :
    readInteger text = readDigits text := by
  cases text with
  | nil => rfl
  | cons character rest =>
      have digit := digits character (List.mem_cons_self ..)
      unfold readInteger
      rw [List.dropWhile_cons_of_neg (by simp [isSpace_of_digit digit])]
      split
      · rename_i same
        cases same
        exact absurd digit (by decide)
      · rename_i same
        cases same
        exact absurd digit (by decide)
      · rfl

/-- A padded number is read back. -/
theorem readInteger_padded (width number : Nat) : readInteger (padded width number) = number := by
  rw [readInteger_of_digits fun _ member => isDigit_of_mem_padded member, readDigits_padded]

/-- A number written in decimal is read back. -/
theorem readInteger_ofInt (number : Int) : readInteger (ofInt number) = number := by
  unfold ofInt
  split
  · rename_i negative
    have read : readInteger ('-' :: Nat.toDigits 10 number.natAbs) =
        -(readDigits (Nat.toDigits 10 number.natAbs) : Int) := rfl
    rw [read, readDigits_toDigits]
    omega
  · rename_i notNegative
    rw [readInteger_of_digits fun _ member =>
      Nat.isDigit_of_mem_toDigits (by decide) (by decide) member, readDigits_toDigits]
    omega

/-- A dot is no part of a number. -/
theorem ne_of_isDigit {character other : Char} (digit : character.isDigit = true)
    (notDigit : other.isDigit = false) : character ≠ other := by
  rintro rfl
  exact absurd digit (by simp [notDigit])

/-- A decimal text holds nothing but digits and a sign. -/
theorem notMem_ofInt {other : Char} (notDigit : other.isDigit = false) (notSign : other ≠ '-')
    (number : Int) : other ∉ ofInt number := by
  have notDigits : other ∉ Nat.toDigits 10 number.natAbs := fun member =>
    ne_of_isDigit (Nat.isDigit_of_mem_toDigits (by decide) (by decide) member) notDigit rfl
  unfold ofInt
  split
  · exact List.not_mem_cons_of_ne_of_not_mem notSign notDigits
  · exact notDigits

end DecimalText

end Library

end GradidoNode
