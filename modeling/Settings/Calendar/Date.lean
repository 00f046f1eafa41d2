/-!
# Dates

Days and timestamps in the Gregorian calendar, extended to all years, with a year zero before year
one. Days are counted from the first of January 1970, seconds from its start.
-/
namespace Settings.Calendar

structure Date where
  year : Int
  month : Nat
  day : Nat
  deriving DecidableEq, Repr

/-- The length of four hundred years. -/
def daysPerEra : Nat := 146097

/-- Days from the first of March of year zero to the first of January 1970. -/
def epochOffset : Int := 719468

/-- The date of a day. Within an era the years are taken to begin in March, so that the leap day
comes last and the lengths of the months repeat every five months. -/
def Date.ofDay (day : Int) : Date :=
  let shifted := day + epochOffset
  let era := shifted / daysPerEra
  let dayOfEra := (shifted % daysPerEra).toNat
  let yearOfEra := (dayOfEra - dayOfEra / 1460 + dayOfEra / 36524 - dayOfEra / 146096) / 365
  let dayOfYear := dayOfEra - (365 * yearOfEra + yearOfEra / 4 - yearOfEra / 100)
  let monthFromMarch := (5 * dayOfYear + 2) / 153
  let dayOfMonth := dayOfYear - (153 * monthFromMarch + 2) / 5 + 1
  let month := if monthFromMarch < 10 then monthFromMarch + 3 else monthFromMarch - 9
  let year := (yearOfEra : Int) + era * 400
  ⟨if month ≤ 2 then year + 1 else year, month, dayOfMonth⟩

/-- The day on which a year begins. -/
def firstDay (year : Int) : Int :=
  let before := year - 1
  365 * before + before / 4 - before / 100 + before / 400 - 719162

/-- A second of a day. -/
structure Moment where
  /-- The day, counted from the first of January 1970. -/
  dayNumber : Int
  date : Date
  hour : Nat
  minute : Nat
  second : Nat
  deriving DecidableEq, Repr

namespace Moment

/-- The first and last seconds of the years that dates are given for. -/
def earliest : Int := -8334601228800
def latest : Int := 8210266876799

/-- The moment of a timestamp, unless it lies too far away. -/
def ofTimestamp? (timestamp : Int) : Option Moment :=
  if earliest ≤ timestamp ∧ timestamp ≤ latest then
    let day := timestamp / 86400
    let seconds := (timestamp % 86400).toNat
    some ⟨day, Date.ofDay day, seconds / 3600, seconds / 60 % 60, seconds % 60⟩
  else none

def timestamp (m : Moment) : Int :=
  m.dayNumber * 86400 + m.hour * 3600 + m.minute * 60 + m.second

/-- Days since Sunday. -/
def weekday (m : Moment) : Nat := ((m.dayNumber + 4) % 7).toNat

/-- Days since Monday. -/
def weekdayFromMonday (m : Moment) : Nat := ((m.dayNumber + 3) % 7).toNat

/-- Days since the first of January. -/
def dayOfYear (m : Moment) : Nat := (m.dayNumber - firstDay m.date.year).toNat

/-- The number of the week of the year if weeks begin on Sunday; the days before the first Sunday
are in week zero. -/
def weekFromSunday (m : Moment) : Nat := (m.dayOfYear + 7 - m.weekday) / 7

def weekFromMonday (m : Moment) : Nat := (m.dayOfYear + 7 - m.weekdayFromMonday) / 7

/-- The Thursday of the week that begins on Monday; its year is the year of the week. -/
def weekThursday (m : Moment) : Int := m.dayNumber - m.weekdayFromMonday + 3

def weekYear (m : Moment) : Int := (Date.ofDay m.weekThursday).year

def weekOfYear (m : Moment) : Nat := ((m.weekThursday - firstDay m.weekYear) / 7).toNat + 1

def quarter (m : Moment) : Nat := (m.date.month + 2) / 3

/-- The hour on a twelve-hour face. -/
def hourTwelve (m : Moment) : Nat := if m.hour % 12 = 0 then 12 else m.hour % 12

end Moment

end Settings.Calendar
