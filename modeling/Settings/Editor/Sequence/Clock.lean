import Settings.Action
import Settings.Editor.Outcome
import Settings.Editor.Sequence.Positional

/-!
# Clocks

Hour and minute, edited on the four digits that the clock shows. In the twelve-hour mode the digits
are those of the shown hour and the half of the day is kept. A digit that no time can have at its
column is ignored.
-/
namespace Settings.Sequence

def minutesPerHour : Int := 60

/-- One minute later, round the day. -/
def nextMinute (s : Sequence) : Sequence :=
  let hour := s.field 0
  let minute := s.field 1
  if minute = 59 then { s with value := [if hour < 23 then hour + 1 else 0, 0] }
  else { s with value := [hour, minute + 1] }

/-- One minute earlier, round the day. -/
def previousMinute (s : Sequence) : Sequence :=
  let hour := s.field 0
  let minute := s.field 1
  if minute = 0 then { s with value := [if 0 < hour then hour - 1 else 23, 59] }
  else { s with value := [hour, minute - 1] }

/-- Only clocks step; the answer says whether the sequence is one. -/
def increment (s : Sequence) : Sequence × Bool :=
  if s.isClock then (s.nextMinute, true) else (s, false)

def decrement (s : Sequence) : Sequence × Bool :=
  if s.isClock then (s.previousMinute, true) else (s, false)

/-- The hour on a twelve-hour face. -/
def faceHour (hour : Int) : Int := if hour % 12 = 0 then 12 else hour % 12

/-- Whether a digit can stand at a column, given the shown hour. -/
def acceptsDigit (mode : HourMode) (column digit : Nat) (shown : Int) : Bool :=
  let hourDigit := match mode with
    | .twelve =>
      !(column == 0 && 2 ≤ digit || column == 1 && 9 < shown && 3 ≤ digit ||
        column == 1 && shown < 10 && digit == 0)
    | .twentyFour => !(column == 0 && 3 ≤ digit || column == 1 && 19 < shown && 4 ≤ digit)
  hourDigit && !(column == 2 && 6 ≤ digit)

/-- The four digits of a time. -/
def timeDigits (hour minute : Int) : List Int :=
  [hour / 10, hour % 10, minute / 10, minute % 10]

/-- The hour that two entered digits mean, in the half of the day that `hour` lies in. -/
def enteredHour (mode : HourMode) (hour entered : Int) : Int :=
  match mode with
  | .twelve =>
    let inHalf := if entered = 12 then 0 else if 12 < entered then 10 else entered
    if 11 < hour then inHalf + 12 else inHalf
  | .twentyFour => if 23 < entered then 20 else entered

/-- Replaces a digit of the shown time. -/
def clockDigit (mode : HourMode) (digit : Nat) (s : Sequence) : Outcome Sequence :=
  let hour := s.field 0
  let shown := match mode with
    | .twelve => faceHour hour
    | .twentyFour => hour
  if acceptsDigit mode s.cursor digit shown then
    let digits := (timeDigits shown (s.field 1)).set s.cursor digit
    let entered := digits.getD 0 0 * 10 + digits.getD 1 0
    let minute := digits.getD 2 0 * 10 + digits.getD 3 0
    settle { s with value := [enteredHour mode hour entered, minute], cursor := s.cursor + 1 }
  else .quiet s

/-- In the twelve-hour mode delete goes to the second half of the day and backspace to the first. -/
def handleClock (mode : HourMode) (a : Action) (s : Sequence) : Outcome Sequence :=
  let hour := s.field 0
  match a with
  | .first => .quiet { s with cursor := 0 }
  | .last => .quiet { s with cursor := 3 }
  | .left =>
    if s.cursor = 0 then .hit .start s else .quiet { s with cursor := s.cursor - 1 }
  | .right =>
    if 3 ≤ s.cursor then .hit .finish s else .quiet { s with cursor := s.cursor + 1 }
  | .delete =>
    if mode = .twelve ∧ hour < 12 then .changedTo { s with value := [hour + 12, s.field 1] }
    else .quiet s
  | .backspace =>
    if mode = .twelve ∧ 12 ≤ hour then .changedTo { s with value := [hour - 12, s.field 1] }
    else .quiet s
  | a =>
    match a.digit? with
    | some d => s.clockDigit mode d
    | none => .quiet s

/-- The shown time and the column of the cursor in it; the colon is no column of its own. -/
def clockView (mode : HourMode) (s : Sequence) : List Char × Nat :=
  let hour := s.field 0
  let minute := Numeral.padded 2 (s.field 1)
  let text := match mode with
    | .twelve =>
      let half := if hour < 12 then 'A' else 'P'
      Numeral.padded 2 (faceHour hour) ++ ':' :: (minute ++ [' ', half, 'M'])
    | .twentyFour => Numeral.padded 2 hour ++ ':' :: minute
  (text, if 2 ≤ s.cursor then s.cursor + 1 else s.cursor)

end Settings.Sequence
