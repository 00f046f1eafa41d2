/-!
# Doubles

Floating-point numbers of 64 bits, held by their bits, so that equality and order of text are exact.
A finite double is its sign and `mantissa * 2 ^ scale`.
-/
namespace Settings

structure Double where
  bits : UInt64
  deriving DecidableEq, Repr

namespace Double

def ofFloat (x : Float) : Double := ⟨x.toBits⟩

def isNegative (d : Double) : Bool := d.bits >>> 63 == 1

def exponentField (d : Double) : Nat := ((d.bits >>> 52) &&& 0x7FF).toNat

def fractionField (d : Double) : Nat := (d.bits &&& 0xFFFFFFFFFFFFF).toNat

def isFinite (d : Double) : Bool := d.exponentField != 0x7FF

/-- The whole number that the scale applies to; the leading bit is implied unless the exponent is
the least one. -/
def mantissa (d : Double) : Nat :=
  if d.exponentField = 0 then d.fractionField else 0x10000000000000 + d.fractionField

/-- The power of two that the mantissa counts. -/
def scale (d : Double) : Int :=
  if d.exponentField = 0 then -1074 else (d.exponentField : Int) - 1075

/-- Zero of either sign. -/
def isZero (d : Double) : Bool := d.exponentField == 0 && d.fractionField == 0

/-- Equality of the numbers: both zeros are the same number, and what is no number equals
nothing. -/
def same (a b : Double) : Bool :=
  (a.isZero && b.isZero) || (a == b && (a.isFinite || a.fractionField == 0))

end Double

end Settings
