import Settings.Decimal.Shortest

/-!
# Layout of real numbers

Two written forms of a double: the shortest one, with at least one digit on each side of the point
or with an exponent behind its sign, and the one with a fixed number of places.
-/
namespace Settings.Decimal

/-- Where numbers are written without an exponent. -/
structure Positional where
  /-- More than this many zeros behind the point call for an exponent. -/
  leadingZeros : Nat
  /-- More digits than this before the point call for an exponent. -/
  wholeDigits : Nat
  deriving DecidableEq, Repr

/-- Up to four zeros behind the point and up to sixteen digits before it. -/
def valueLayout : Positional := ⟨4, 16⟩

/-- The digits with a point `point` places from their start. -/
def layOut (layout : Positional) (d : Digits) : List Char :=
  let ds := Numeral.digits d.digits
  let size := ds.length
  let point := (size : Int) + d.exponent
  if 0 ≤ d.exponent ∧ point ≤ layout.wholeDigits then
    ds ++ List.replicate d.exponent.toNat '0' ++ ['.', '0']
  else if 0 < point ∧ point ≤ layout.wholeDigits then
    ds.take point.toNat ++ '.' :: ds.drop point.toNat
  else if -(layout.leadingZeros : Int) ≤ point ∧ point ≤ 0 then
    '0' :: '.' :: (List.replicate (-point).toNat '0' ++ ds)
  else
    let fraction := if size = 1 then ds else ds.take 1 ++ '.' :: ds.drop 1
    fraction ++ 'e' :: (if point < 1 then '-' else '+') :: Numeral.digits (point - 1).natAbs

/-- The shortest text of a double; `null` where there is no number. -/
def shortestChars (d : Double) : List Char :=
  if !d.isFinite then ['n', 'u', 'l', 'l']
  else
    let sign := if d.isNegative then ['-'] else []
    if d.isZero then sign ++ ['0', '.', '0'] else sign ++ layOut valueLayout (shortest d)

/-- The quotient rounded to a whole number; a half goes to the even neighbour. -/
def roundHalfEven (numerator denominator : Nat) : Nat :=
  let q := numerator / denominator
  let r := numerator % denominator
  if 2 * r < denominator then q
  else if denominator < 2 * r then q + 1
  else if q % 2 = 0 then q else q + 1

/-- A double with `places` digits behind the point. -/
def fixedChars (places : Nat) (d : Double) : List Char :=
  let sign := if d.isNegative then ['-'] else []
  if d.isFinite then
    let one := Nat.pow 10 places
    let units :=
      roundHalfEven (d.mantissa * Nat.pow 2 d.scale.toNat * one) (Nat.pow 2 (-d.scale).toNat)
    let whole := Numeral.digits (units / one)
    let fraction := Numeral.digits (units % one)
    sign ++ whole ++ '.' :: (List.replicate (places - fraction.length) '0' ++ fraction)
  else if d.fractionField = 0 then sign ++ ['i', 'n', 'f']
  else ['N', 'a', 'N']

end Settings.Decimal
