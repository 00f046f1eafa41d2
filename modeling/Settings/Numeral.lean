/-!
# Decimal numerals

Reading and writing of 64-bit signed integers in decimal. A numeral that is read is an optional sign
and at least one digit and lies in the range; a numeral that is written has no superfluous zero.
-/
namespace Settings.Numeral

def minimum : Int := -9223372036854775808
def maximum : Int := 9223372036854775807

/-- One past the largest position in a list. -/
def positionBound : Nat := 18446744073709551616

def InRange (n : Int) : Prop := minimum ≤ n ∧ n ≤ maximum

instance (n : Int) : Decidable (InRange n) :=
  inferInstanceAs (Decidable (minimum ≤ n ∧ n ≤ maximum))

/-- The nearest number within the range. -/
def saturate (n : Int) : Int := max minimum (min n maximum)

/-- The number that a non-empty run of digits stands for. -/
def digits? (cs : List Char) : Option Nat :=
  if cs.isEmpty || !cs.all Char.isDigit then none else some (Nat.ofDigitChars 10 cs 0)

/-- An optional sign before the digits; the number has to lie in the range. -/
def read? (cs : List Char) : Option Int :=
  let number : Option Int := match cs with
    | '-' :: ds => (digits? ds).map fun n => -(n : Int)
    | '+' :: ds => (digits? ds).map Int.ofNat
    | ds => (digits? ds).map Int.ofNat
  number.filter fun n => decide (InRange n)

/-- A position: digits behind an optional plus sign. -/
def position? (cs : List Char) : Option Nat :=
  let number := match cs with
    | '+' :: ds => digits? ds
    | ds => digits? ds
  number.filter (· < positionBound)

def digits (n : Nat) : List Char := Nat.toDigits 10 n

def chars (n : Int) : List Char :=
  if n < 0 then '-' :: digits n.natAbs else digits n.natAbs

def text (n : Int) : String := String.ofList (chars n)

/-- The decimal width of the magnitude. -/
def width (n : Int) : Nat := (digits n.natAbs).length

/-- Zeros between sign and digits fill the text up to `columns`; the sign takes one column. -/
def padded (columns : Nat) (n : Int) : List Char :=
  if n < 0 then
    '-' :: (List.replicate (columns - 1 - width n) '0' ++ digits n.natAbs)
  else
    List.replicate (columns - width n) '0' ++ digits n.natAbs

theorem digits_ne_nil (n : Nat) : digits n ≠ [] := Nat.toDigits_ne_nil

theorem digits?_digits (n : Nat) : digits? (digits n) = some n := by
  have hall : (digits n).all Char.isDigit = true := by
    simp only [List.all_eq_true]
    intro c hc
    exact Nat.isDigit_of_mem_toDigits (by decide) (by decide) hc
  have hne : (digits n).isEmpty = false := by simp [digits_ne_nil]
  have hval : Nat.ofDigitChars 10 (digits n) 0 = n :=
    Nat.ofDigitChars_toDigits (by decide) (by decide)
  simp [digits?, hall, hne, hval]

end Settings.Numeral
