import Settings.Calendar.Date
import Settings.Editor.Bounds
import Settings.Error
import Settings.Text.Blank
import Settings.Text.Split

/-!
# Sequences of number fields

One bounded number per field: addresses, dates, times of day, PINs and plain integers. Values outside
the bounds are clamped, never refused. Each field is as wide as its upper bound has digits.

A sequence is edited in one of three styles, see the modules beside this one.
-/
namespace Settings

/-- Whether clocks show twelve or twenty-four hours. All clocks follow the mode that the host is in,
so it is an argument of what depends on it. -/
inductive HourMode where
  | twelve | twentyFour
  deriving DecidableEq, Repr

/-- How the fields are edited. -/
inductive EditStyle where
  /-- The cursor stands on one digit. -/
  | positional
  /-- The cursor stands on the field `marked`. If `overwrite`, the next digit replaces the field
  and does not extend it. If `autoJump`, a digit that the field cannot take goes to the next one. -/
  | block (marked : Nat) (overwrite autoJump : Bool)
  /-- Hour and minute of a day. -/
  | clock
  deriving DecidableEq, Repr

structure Sequence where
  separator : Char
  limits : List Bounds
  value : List Int
  default : List Int
  /-- A column of the digits without the separators. -/
  cursor : Nat
  /-- Stands for every digit while the sequence is not selected. -/
  censor : Option Char
  hidden : Bool
  /-- The one field is handed to the host as a number. -/
  scalar : Bool
  style : EditStyle
  deriving DecidableEq, Repr

namespace Sequence

/-- As many fields as there are bounds, each within its own: fields that are missing get the lower
bound, surplus ones are dropped. -/
def fit : List Bounds → List Int → List Int
  | [], _ => []
  | b :: bs, [] => b.low :: fit bs []
  | b :: bs, v :: vs => b.clamp v :: fit bs vs

/-- Clamps every field. -/
def clampFields (limits : List Bounds) (fields : List Int) : List Int :=
  List.zipWith Bounds.clamp limits fields

/-- A positional sequence over ordered bounds, at least one. -/
def ofLimits (separator : Char) (limits : List Bounds) (default : List Int) : Sequence :=
  let fields := fit limits default
  ⟨separator, limits, fields, fields, 0, none, false, false, .positional⟩

/-- Checks the bounds first. -/
def make (separator : Char) (limits : List Bounds) (default : List Int) :
    Except Violation Sequence :=
  if limits.isEmpty then .error .noLimits
  else if limits.all fun b => decide b.Ordered then .ok (ofLimits separator limits default)
  else .error .disorderedLimits

/-- Shows `censor` for every digit while not selected. -/
def censored (censor : Char) (s : Sequence) : Sequence :=
  { s with censor := some censor, hidden := true }

/-- Edited field by field. -/
def inBlocks (autoJump : Bool) (s : Sequence) : Sequence :=
  { s with style := .block 0 true autoJump }

def asScalar (s : Sequence) : Sequence := { s with scalar := true }

def ipLimits : List Bounds := List.replicate 4 ⟨0, 255⟩
def cecLimits : List Bounds := List.replicate 4 ⟨0, 15⟩
def macLimits : List Bounds := List.replicate 6 ⟨1, 255⟩
def dateLimits : List Bounds := [⟨1, 31⟩, ⟨1, 12⟩, ⟨1970, 2050⟩]
def clockLimits : List Bounds := [⟨0, 23⟩, ⟨0, 59⟩]

/-- The bounds of a plain integer that gives none. -/
def integerBounds : Bounds := ⟨0, 9999999999⟩

/-- An Internet address. -/
def ip (default : List Int) (autoJump : Bool) : Sequence :=
  (ofLimits '.' ipLimits default).inBlocks autoJump

/-- A physical address on the control bus of a television. -/
def cecAddress (default : List Int) (autoJump : Bool) : Sequence :=
  (ofLimits '.' cecLimits default).inBlocks autoJump

/-- A hardware address with decimal octets. -/
def mac (default : List Int) : Sequence :=
  (ofLimits ':' macLimits default).inBlocks false

def date (day month year : Int) : Sequence :=
  ofLimits '.' dateLimits [day, month, year]

/-- The day of a timestamp; the first day of all if it lies too far away. -/
def dateOfTimestamp (timestamp : Int) : Sequence :=
  match Calendar.Moment.ofTimestamp? timestamp with
  | some m => date m.date.day m.date.month m.date.year
  | none => date 1 1 1970

def clock (hour minute : Int) : Sequence :=
  { ofLimits ':' clockLimits [hour, minute] with style := .clock }

def clockOfTimestamp (timestamp : Int) : Sequence :=
  match Calendar.Moment.ofTimestamp? timestamp with
  | some m => clock m.hour m.minute
  | none => clock 0 0

/-- A number with a fraction: the second field counts steps of one more than its upper bound. -/
def fixedPoint (default : List Int) (whole steps : Bounds) : Except Violation Sequence :=
  make '.' [whole, steps] default

def integer (default : Int) (bounds : Option Bounds) : Except Violation Sequence :=
  (make ':' [bounds.getD integerBounds] [default]).map asScalar

/-- A number of up to `length` digits, hidden behind `censor`. -/
def pin (default : Int) (length : Nat) (censor : Char) : Except Violation Sequence :=
  if 1 ≤ length ∧ length ≤ 18 then
    .ok ((ofLimits ':' [⟨0, (Nat.pow 10 length : Int) - 1⟩] [default]).censored censor).asScalar
  else .error (.pinLength length)

/-- Coordinates from zero up to given bounds. -/
def position (default highs : List Int) : Except Violation Sequence :=
  make ',' (highs.map fun high => ⟨0, high⟩) default

/-- The field that a block editor stands on. -/
def markedBlock? (s : Sequence) : Option Nat :=
  match s.style with
  | .block marked _ _ => some marked
  | _ => none

def isClock (s : Sequence) : Bool := s.style == .clock

/-- The columns that parts of given widths take together. -/
def columns (widths : List Nat) : Nat := widths.foldr (· + ·) 0

/-- The digits of each field. -/
def widths (s : Sequence) : List Nat := s.limits.map fun b => Numeral.width b.high

def totalWidth (s : Sequence) : Nat := columns s.widths

def setFields (fields : List Int) (s : Sequence) : Sequence :=
  { s with value := fit s.limits fields }

/-- The steps that one whole is worth: one more than the upper bound of the second field. -/
def steps? (s : Sequence) : Option Int := s.limits[1]?.map fun b => b.high + 1

def steps (s : Sequence) : Int := s.steps?.getD 1

def field (s : Sequence) (i : Nat) : Int := s.value.getD i 0

/-- A sequence of two fields as one count of steps. -/
def stepCount (s : Sequence) : Int := s.field 0 * s.steps + s.field 1

/-- Sets two fields from one count of steps; the fraction has the sign of the count. -/
def setStepCount (n : Int) (s : Sequence) : Except Violation Sequence :=
  match s.steps? with
  | none => .error .singleField
  | some steps =>
    if steps = 0 then .error .noSteps else .ok (s.setFields [n.tdiv steps, n.tmod steps])

/-- The reading of a sequence of two fields as a number with a fraction. -/
def reading (s : Sequence) : Double :=
  let float (n : Int) : Float := (Int64.ofInt n).toFloat
  .ofFloat (float (s.field 0) + float (s.field 1) / float s.steps)

/-- The numerals of the fields with the separator between them. -/
def joinFields (separator : Char) : List Int → List Char
  | [] => []
  | [v] => Numeral.chars v
  | v :: rest => Numeral.chars v ++ separator :: joinFields separator rest

def plainChars (s : Sequence) : List Char := joinFields s.separator s.value

def encode (s : Sequence) : String := String.ofList s.plainChars

def encodeDefault (s : Sequence) : String := String.ofList (joinFields s.separator s.default)

def isDefault (s : Sequence) : Bool := s.value == s.default

/-- The numbers of the parts; a part that is no numeral counts as the default field. -/
def readFields : (default : List Int) → List (List Char) → List Int
  | d :: ds, part :: parts =>
    (Numeral.read? (Text.trimChars part)).getD d :: readFields ds parts
  | _, _ => []

def decode (text : String) (s : Sequence) : Sequence :=
  s.setFields (readFields s.default (Text.splitAt s.separator text.toList))

def reset (s : Sequence) : Sequence := { s with value := s.default }

def select (s : Sequence) : Sequence := { s with hidden := false }

def deselect (s : Sequence) : Sequence := { s with hidden := s.censor.isSome }

def toValue (s : Sequence) : Value :=
  if s.scalar then .int (s.field 0) else .ofInts s.value

/-- The numbers of a list of values; the first value that is none otherwise. -/
def numberItems : List Value → Except Value (List Int)
  | [] => .ok []
  | v :: rest =>
    match v.int64? with
    | none => .error v
    | some n => (numberItems rest).map (n :: ·)

def assign (v : Value) (s : Sequence) : Except Error Sequence :=
  match v with
  | .list items =>
    match numberItems items with
    | .ok fields => .ok (s.setFields fields)
    | .error item => .error (.mismatch .integerField item)
  | .text t => .ok (s.decode t)
  | .int _ | .real _ =>
    if s.scalar then
      match v.int64? with
      | some n => .ok (s.setFields [n])
      | none => .error (.mismatch .integer v)
    else .error (.mismatch .integerFields v)
  | v => .error (.mismatch .integerFields v)

end Sequence

end Settings
