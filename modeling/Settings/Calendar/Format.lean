import Settings.Calendar.Date
import Settings.Calendar.Pattern
import Settings.Numeral

/-!
# Writing moments

The text of a moment after a date pattern, in English and universal time. Moments are whole seconds,
so fractions are zero.
-/
namespace Settings.Calendar

def monthNames : List String :=
  ["January", "February", "March", "April", "May", "June", "July", "August", "September",
    "October", "November", "December"]

def weekdayNames : List String :=
  ["Sunday", "Monday", "Tuesday", "Wednesday", "Thursday", "Friday", "Saturday"]

/-- The first three letters. -/
def shortName (name : String) : List Char := name.toList.take 3

/-- Fills up to `columns` in front. -/
def padded (padding : Padding) (columns : Nat) (n : Int) : List Char :=
  match padding with
  | .none => Numeral.chars n
  | .zero => Numeral.padded columns n
  | .space =>
    let cs := Numeral.chars n
    List.replicate (columns - cs.length) ' ' ++ cs

/-- Two places for a number below 256. Tens above nine are written as the characters that follow
the digits. -/
def twoPlaces (padding : Padding) (n : Nat) : List Char :=
  let ones := Char.ofNat ('0'.toNat + n % 10)
  let tens := n / 10
  if tens = 0 ∧ padding = .none then [ones]
  else if tens = 0 ∧ padding = .space then [' ', ones]
  else [Char.ofNat ('0'.toNat + tens), ones]

/-- Four places, more for later years; a year outside of them has its sign in front. -/
def yearChars (padding : Padding) (year : Int) : List Char :=
  if 0 ≤ year ∧ year < 10000 then padded padding 4 year
  else if year < 0 then padded padding 5 year
  else
    let digits := '+' :: Numeral.chars year
    match padding with
    | .none => digits
    | .zero => '+' :: padded .zero 4 year
    | .space => List.replicate (5 - digits.length) ' ' ++ digits

def numberChars (m : Moment) (padding : Padding) : NumberPart → List Char
  | .year => yearChars padding m.date.year
  | .century => twoPlaces padding ((m.date.year / 100) % 256).toNat
  | .yearOfCentury => twoPlaces padding (m.date.year % 100).toNat
  | .weekYear => yearChars padding m.weekYear
  | .weekYearOfCentury => twoPlaces padding (m.weekYear % 100).toNat
  | .quarter => Numeral.digits m.quarter
  | .month => twoPlaces padding m.date.month
  | .day => twoPlaces padding m.date.day
  | .dayOfYear => padded padding 3 (m.dayOfYear + 1 : Nat)
  | .weekFromSunday => twoPlaces padding m.weekFromSunday
  | .weekFromMonday => twoPlaces padding m.weekFromMonday
  | .weekOfYear => twoPlaces padding m.weekOfYear
  | .weekdayFromSunday => Numeral.digits m.weekday
  | .weekdayFromMonday => Numeral.digits (m.weekdayFromMonday + 1)
  | .hour => twoPlaces padding m.hour
  | .hourTwelve => twoPlaces padding m.hourTwelve
  | .minute => twoPlaces padding m.minute
  | .second => twoPlaces padding m.second
  | .nanosecond => padded padding 9 0
  | .timestamp => padded padding 9 m.timestamp

def nameChars (m : Moment) : NamePart → List Char
  | .monthShort => shortName (monthNames.getD (m.date.month - 1) "")
  | .monthLong => (monthNames.getD (m.date.month - 1) "").toList
  | .weekdayShort => shortName (weekdayNames.getD m.weekday "")
  | .weekdayLong => (weekdayNames.getD m.weekday "").toList
  | .halfUpper => if m.hour < 12 then ['A', 'M'] else ['P', 'M']
  | .halfLower => if m.hour < 12 then ['a', 'm'] else ['p', 'm']

/-- Year, month and day, the time of day and the offset. -/
def internetChars (m : Moment) : List Char :=
  yearChars .zero m.date.year ++ '-' :: twoPlaces .zero m.date.month ++
    '-' :: twoPlaces .zero m.date.day ++ 'T' :: twoPlaces .zero m.hour ++
    ':' :: twoPlaces .zero m.minute ++ ':' :: twoPlaces .zero m.second ++
    ['+', '0', '0', ':', '0', '0']

def pieceChars (m : Moment) : Piece → List Char
  | .literal text => text
  | .number part padding => numberChars m padding part
  | .name part => nameChars m part
  | .fraction places point =>
    if point then '.' :: List.replicate places '0' else List.replicate places '0'
  | .shortFraction => []
  | .offset text => text
  | .internet => internetChars m

/-- The moment of a timestamp after a pattern; `none` if there is no such pattern or moment. -/
def format? (pattern : String) (timestamp : Int) : Option String := do
  let m ← Moment.ofTimestamp? timestamp
  let pieces ← readPattern? pattern
  return String.ofList (pieces.flatMap (pieceChars m))

end Settings.Calendar
