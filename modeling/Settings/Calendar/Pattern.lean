/-!
# Date patterns

Patterns in the manner of `strftime`. A specifier is a percent sign, possibly a padding flag, and a
letter; all other characters stand for themselves. A pattern with an unknown specifier is none.
-/
namespace Settings.Calendar

inductive Padding where
  | none | zero | space
  deriving DecidableEq, Repr

/-- Parts of a moment that are numbers. -/
inductive NumberPart where
  | year | century | yearOfCentury
  | weekYear | weekYearOfCentury
  | quarter | month | day | dayOfYear
  | weekFromSunday | weekFromMonday | weekOfYear
  | weekdayFromSunday | weekdayFromMonday
  | hour | hourTwelve | minute | second | nanosecond | timestamp
  deriving DecidableEq, Repr

/-- Parts of a moment with a text of their own. -/
inductive NamePart where
  | monthShort | monthLong | weekdayShort | weekdayLong
  | halfUpper | halfLower
  deriving DecidableEq, Repr

/-- A piece of a pattern. -/
inductive Piece where
  | literal (text : List Char)
  | number (part : NumberPart) (padding : Padding)
  | name (part : NamePart)
  /-- Fractions of a second, with or without a point. -/
  | fraction (places : Nat) (point : Bool)
  /-- A fraction with as many digits as it needs; nothing if it is zero. -/
  | shortFraction
  /-- The distance from universal time, which is always zero. -/
  | offset (text : List Char)
  /-- Date, time and offset in one. -/
  | internet
  deriving DecidableEq, Repr

namespace Piece

def zeroed (part : NumberPart) : Piece := .number part .zero

def spaced (part : NumberPart) : Piece := .number part .space

def char (c : Char) : Piece := .literal [c]

/-- Hours, minutes and seconds between colons. -/
def timeOfDay (hour : Piece) : List Piece :=
  [hour, char ':', zeroed .minute, char ':', zeroed .second]

/-- Month, day and year between slashes. -/
def slashDate : List Piece :=
  [zeroed .month, char '/', zeroed .day, char '/', zeroed .yearOfCentury]

/-- What one letter behind the percent sign stands for. -/
def ofLetter? : Char → Option (List Piece)
  | 'A' => some [.name .weekdayLong]
  | 'B' => some [.name .monthLong]
  | 'C' => some [zeroed .century]
  | 'D' => some slashDate
  | 'F' => some [zeroed .year, char '-', zeroed .month, char '-', zeroed .day]
  | 'G' => some [zeroed .weekYear]
  | 'H' => some [zeroed .hour]
  | 'I' => some [zeroed .hourTwelve]
  | 'M' => some [zeroed .minute]
  | 'P' => some [.name .halfLower]
  | 'R' => some [zeroed .hour, char ':', zeroed .minute]
  | 'S' => some [zeroed .second]
  | 'T' => some (timeOfDay (zeroed .hour))
  | 'U' => some [zeroed .weekFromSunday]
  | 'V' => some [zeroed .weekOfYear]
  | 'W' => some [zeroed .weekFromMonday]
  | 'X' => some (timeOfDay (zeroed .hour))
  | 'Y' => some [zeroed .year]
  | 'Z' => some [.offset ['+', '0', '0', ':', '0', '0']]
  | 'a' => some [.name .weekdayShort]
  | 'b' | 'h' => some [.name .monthShort]
  | 'c' => some ([.name .weekdayShort, char ' ', .name .monthShort, char ' ', spaced .day, char ' ']
      ++ timeOfDay (zeroed .hour) ++ [char ' ', zeroed .year])
  | 'd' => some [zeroed .day]
  | 'e' => some [spaced .day]
  | 'f' => some [zeroed .nanosecond]
  | 'g' => some [zeroed .weekYearOfCentury]
  | 'j' => some [zeroed .dayOfYear]
  | 'k' => some [spaced .hour]
  | 'l' => some [spaced .hourTwelve]
  | 'm' => some [zeroed .month]
  | 'n' => some [char '\n']
  | 'p' => some [.name .halfUpper]
  | 'q' => some [.number .quarter .none]
  | 'r' => some (timeOfDay (zeroed .hourTwelve) ++ [char ' ', .name .halfUpper])
  | 's' => some [.number .timestamp .none]
  | 't' => some [char '\t']
  | 'u' => some [.number .weekdayFromMonday .none]
  | 'v' => some [spaced .day, char '-', .name .monthShort, char '-', zeroed .year]
  | 'w' => some [.number .weekdayFromSunday .none]
  | 'x' => some slashDate
  | 'y' => some [zeroed .yearOfCentury]
  | 'z' => some [.offset ['+', '0', '0', '0', '0']]
  | '+' => some [.internet]
  | '%' => some [char '%']
  | _ => none

/-- A padding flag applies to a specifier for a single number. -/
def repad? (padding : Padding) : List Piece → Option (List Piece)
  | [.number part _] => some [.number part padding]
  | _ => none

/-- The pieces of the specifier in front, percent sign already taken, and how many characters it
has. -/
def ofSpecifier? : List Char → Option (List Piece × Nat)
  | '-' :: c :: _ => ((ofLetter? c).bind (repad? .none)).map fun ps => (ps, 2)
  | '0' :: c :: _ => ((ofLetter? c).bind (repad? .zero)).map fun ps => (ps, 2)
  | '_' :: c :: _ => ((ofLetter? c).bind (repad? .space)).map fun ps => (ps, 2)
  | ':' :: ':' :: ':' :: 'z' :: _ => some ([.offset ['+', '0', '0']], 4)
  | ':' :: ':' :: 'z' :: _ => some ([.offset ['+', '0', '0', ':', '0', '0', ':', '0', '0']], 3)
  | ':' :: 'z' :: _ => some ([.offset ['+', '0', '0', ':', '0', '0']], 2)
  | '.' :: 'f' :: _ => some ([.shortFraction], 2)
  | '.' :: '3' :: 'f' :: _ => some ([.fraction 3 true], 3)
  | '.' :: '6' :: 'f' :: _ => some ([.fraction 6 true], 3)
  | '.' :: '9' :: 'f' :: _ => some ([.fraction 9 true], 3)
  | '3' :: 'f' :: _ => some ([.fraction 3 false], 2)
  | '6' :: 'f' :: _ => some ([.fraction 6 false], 2)
  | '9' :: 'f' :: _ => some ([.fraction 9 false], 2)
  | c :: _ => (ofLetter? c).map fun ps => (ps, 1)
  | [] => none

/-- Reads a pattern; `skip` characters in front belong to the specifier just read. -/
def readPattern? : (skip : Nat) → List Char → Option (List Piece)
  | _, [] => some []
  | skip + 1, _ :: rest => readPattern? skip rest
  | 0, '%' :: rest =>
    match ofSpecifier? rest with
    | none => none
    | some (pieces, length) => (readPattern? length rest).map (pieces ++ ·)
  | 0, c :: rest => (readPattern? 0 rest).map (char c :: ·)

end Piece

/-- The pieces of a pattern; `none` if it holds an unknown specifier. -/
def readPattern? (pattern : String) : Option (List Piece) :=
  Piece.readPattern? 0 pattern.toList

end Settings.Calendar
