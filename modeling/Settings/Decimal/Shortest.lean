import Settings.Decimal.Double
import Settings.Numeral

/-!
# Shortest decimal of a double

The text of a double has the fewest digits that read back as it, and of those digits the nearest
ones. A point of the grid of multiples of `10 ^ k` reads back as a double if it lies between the
midpoints to the neighbours of the double, midpoints included if the mantissa is even; the coarsest
grid with such a point gives the digits.

All comparisons are exact. The double and its midpoints are counted in quarters of its last binary
place, `2 ^ (scale - 2)`.
-/
namespace Settings.Decimal

/-- `digits * 10 ^ exponent`. -/
structure Digits where
  digits : Nat
  exponent : Int
  deriving DecidableEq, Repr

/-- The double in quarters of its last place. -/
def quarters (d : Double) : Nat := 4 * d.mantissa

/-- The midpoint to the next smaller double, which lies closer at a power of two. -/
def lowerMidpoint (d : Double) : Nat :=
  if d.fractionField = 0 ∧ 1 < d.exponentField then quarters d - 1 else quarters d - 2

/-- The midpoint to the next larger double. -/
def upperMidpoint (d : Double) : Nat := quarters d + 2

/-- A common measure for quarters and for multiples of `10 ^ k`: what one quarter and what one such
multiple count in it. -/
def measures (d : Double) (k : Int) : Nat × Nat :=
  let place := d.scale - 2
  (Nat.pow 2 place.toNat * Nat.pow 10 (-k).toNat, Nat.pow 2 (-place).toNat * Nat.pow 10 k.toNat)

/-- `point` multiples of `10 ^ k` read back as `d`. -/
def readsBack (d : Double) (k : Int) (point : Nat) : Bool :=
  let (quarter, step) := measures d k
  let low := lowerMidpoint d * quarter
  let high := upperMidpoint d * quarter
  if d.mantissa % 2 = 0 then low ≤ point * step && point * step ≤ high
  else low < point * step && point * step < high

/-- The point of the grid of `10 ^ k` nearest to `d` among those that read back. -/
def gridPoint? (d : Double) (k : Int) : Option Nat :=
  let (quarter, step) := measures d k
  let value := quarters d * quarter
  let below := value / step
  let fromBelow := value - below * step
  let toAbove := (below + 1) * step - value
  let hitsBelow := 0 < below && readsBack d k below
  let hitsAbove := readsBack d k (below + 1)
  if hitsBelow && hitsAbove then
    if fromBelow < toAbove || (fromBelow = toAbove && below % 2 = 0) then some below
    else some (below + 1)
  else if hitsBelow then some below
  else if hitsAbove then some (below + 1)
  else none

/-- Tries the grids from `10 ^ k` down. -/
def searchGrids (d : Double) : (grids : Nat) → (k : Int) → Digits
  | 0, k => ⟨0, k⟩
  | grids + 1, k =>
    match gridPoint? d k with
    | some point => ⟨point, k⟩
    | none => searchGrids d grids (k - 1)

/-- A power of ten that no double with this scale reaches. -/
def coarsest (d : Double) : Int := (d.scale + 53) * 30103 / 100000 + 1

/-- The shortest digits of a double that is finite and not zero. -/
def shortest (d : Double) : Digits :=
  searchGrids d 400 (coarsest d)

end Settings.Decimal
