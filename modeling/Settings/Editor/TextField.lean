import Settings.Action
import Settings.Display
import Settings.Editor.Outcome
import Settings.Error
import Settings.Text.Blank

/-!
# Text fields

Free text, passwords and numbers typed digit by digit. The cursor stands on a character or behind the
last one; a text of fixed size keeps its length, and a window of fixed width scrolls over a text that
is longer.

What a digit key types is up to a helper of the host, which may cycle through the letters of a key.
-/
namespace Settings

/-- What one press of a digit key types. -/
structure Tap where
  char : Char
  /-- A character that was still open is settled; the cursor passes it first. -/
  advanceBefore : Bool
  /-- The character replaces the one under the cursor. -/
  replace : Bool
  /-- The character is settled at once; the cursor passes it. -/
  advanceAfter : Bool
  deriving DecidableEq, Repr

/-- The digit that a key shows; keys above nine show nine. -/
def keyDigit (key : Nat) : Char := Char.ofNat ('0'.toNat + min key 9)

/-- The key types its digit. -/
def Tap.ofKey (key : Nat) : Tap := ⟨keyDigit key, false, false, true⟩

/-- The answers that the host's helper is going to give, each to one call: what the next digit keys
type, and whether a character was open when a pause ended. After the last answer digit keys type
their digits and nothing is open. -/
structure TextInput where
  taps : List Tap
  pauses : List Bool
  deriving DecidableEq, Repr

namespace TextInput

/-- Digit keys type their digits. -/
def digits : TextInput := ⟨[], []⟩

def tap (key : Nat) (input : TextInput) : Tap × TextInput :=
  match input.taps with
  | t :: rest => (t, { input with taps := rest })
  | [] => (.ofKey key, input)

/-- Settles an open character; the answer says whether there was one. -/
def settle (input : TextInput) : Bool × TextInput :=
  match input.pauses with
  | p :: rest => (p, { input with pauses := rest })
  | [] => (false, input)

end TextInput

structure TextField where
  chars : List Char
  default : String
  cursor : Nat
  /-- All of the text is marked; the next character replaces it. -/
  allMarked : Bool
  fixedSize : Bool
  /-- The width of the window; `none` shows everything. -/
  visibleWidth : Option Nat
  /-- The first column in the window. -/
  offset : Nat
  overwrite : Bool
  /-- Stands for every character while the text is hidden. -/
  censor : Option Char
  hidden : Bool
  /-- The text is a numeral. -/
  isNumber : Bool
  input : TextInput
  deriving DecidableEq, Repr

namespace TextField

def make (default : String) : TextField :=
  ⟨default.toList, default, 0, !default.isEmpty, false, none, 0, false, none, false, false, .digits⟩

/-- What hides a password. -/
def bullet : Char := '\u2022'

def withCensor (censor : Option Char) (t : TextField) : TextField :=
  { t with censor := censor, hidden := censor.isSome }

def password (default : String) : TextField := (make default).withCensor (some bullet)

def number (default : Int) : TextField := { make (Numeral.text default) with isNumber := true }

/-- A text of fixed size starts out overwriting. -/
def withFixedSize (fixed : Bool) (t : TextField) : TextField :=
  { t with fixedSize := fixed, overwrite := fixed }

def withVisibleWidth (width : Nat) (t : TextField) : TextField :=
  { t with visibleWidth := if width = 0 then none else some width }

def withInput (input : TextInput) (t : TextField) : TextField := { t with input := input }

def text (t : TextField) : String := String.ofList t.chars

/-- The number that the text stands for. -/
def number? (t : TextField) : Option Int := Numeral.read? (Text.trimChars t.chars)

/-- The first column of a window of `width` columns that shows the cursor, as near to `offset` as
possible. The column behind the text is shown only if the cursor is on it. -/
def scroll (width length cursor offset : Nat) : Nat :=
  let offset := min cursor offset
  let offset :=
    if offset + width ≤ cursor then
      if cursor = length then cursor - width else cursor + 1 - width
    else offset
  if 0 < offset ∧ length < offset + width then length - width else offset

/-- Brings the cursor back into the text and the window back to the cursor. -/
def settleCursor (t : TextField) : TextField :=
  let length := t.chars.length
  let cursor := min t.cursor (if t.fixedSize then length - 1 else length)
  { t with
    cursor := cursor
    offset := match t.visibleWidth with
      | some width => scroll width length cursor t.offset
      | none => t.offset }

/-- Drops leading zeros, down to a single digit. -/
def stripZeros (cs : List Char) : List Char :=
  match cs.dropWhile (· = '0') with
  | [] => ['0']
  | cs => cs

/-- Strips zeros; the cursor keeps its distance from the end. -/
def settleNumber (t : TextField) : TextField :=
  let fromEnd := t.chars.length - t.cursor
  let chars := stripZeros t.chars
  { t with chars := chars, cursor := chars.length - fromEnd }

def settle (t : TextField) : TextField :=
  if t.isNumber then t.settleNumber else t.settleCursor

def setText (text : String) (t : TextField) : TextField :=
  { t with chars := text.toList }.settle

/-- Passes a character that is still open. -/
def commit (t : TextField) : TextField :=
  let (open?, input) := t.input.settle
  { t with input := input, cursor := if open? then t.cursor + 1 else t.cursor }

/-- Writes a character at the cursor, over the one there or before it. In a text of fixed size the
last character makes room. -/
def insertChar (c : Char) (replace : Bool) (t : TextField) : TextField :=
  let pos := min t.cursor t.chars.length
  let chars :=
    if replace || t.overwrite then t.chars.take pos ++ c :: t.chars.drop (pos + 1)
    else
      let longer := t.chars.take pos ++ c :: t.chars.drop pos
      if t.fixedSize && !t.chars.isEmpty then longer.dropLast else longer
  { t with chars := chars }

/-- Deletes the character at a position. In a text of fixed size a space takes its place or fills up
the end. -/
def deleteChar (pos : Nat) (t : TextField) : TextField :=
  if t.chars.length ≤ pos then t
  else
    let chars :=
      if !t.fixedSize then t.chars.eraseIdx pos
      else if t.overwrite then t.chars.set pos ' '
      else t.chars.eraseIdx pos ++ [' ']
    { t with chars := chars }

def deleteAll (t : TextField) : TextField :=
  { t with
    chars := if t.fixedSize then t.chars.map fun _ => ' ' else []
    cursor := 0 }

/-- Deletes a text that is marked as a whole. -/
def clearMarked (t : TextField) : TextField :=
  if t.allMarked then { t.deleteAll with allMarked := false } else t

def advance (t : TextField) : TextField := { t with cursor := t.cursor + 1 }

/-- Types a character at the cursor and passes it. -/
def typeChar (c : Char) (t : TextField) : TextField :=
  (t.clearMarked.insertChar c false).advance

/-- Types what the helper makes of a digit key. -/
def typeKey (key : Nat) (t : TextField) : TextField :=
  let (tap, input) := t.input.tap key
  let t := { t with input := input }
  let t := if tap.advanceBefore then t.advance.settle else t
  let t := t.clearMarked.insertChar tap.char tap.replace
  if tap.advanceAfter then t.advance else t

/-- Deletes the character before the cursor, or all of a marked text. -/
def backspace (t : TextField) : TextField :=
  if t.allMarked then t.clearMarked
  else if t.cursor = 0 then t
  else
    let shorter := t.deleteChar (t.cursor - 1)
    { shorter with
      offset := if t.fixedSize then t.offset else t.offset - 1
      cursor := t.cursor - 1 }

/-- Deletes the character at the cursor, or all of a marked text. An overwriting cursor in a text of
fixed size passes the space. -/
def delete (t : TextField) : TextField :=
  if t.allMarked then t.clearMarked
  else
    let shorter := t.deleteChar t.cursor
    if t.fixedSize && t.overwrite then shorter.advance else shorter

/-- What an action does before the cursor is settled; `none` if the action is ignored. -/
def act? (a : Action) (t : TextField) : Option TextField :=
  match a with
  | .first => some { t.commit with allMarked := false, cursor := 0 }
  | .last => some { t.commit with allMarked := false, cursor := t.chars.length }
  | .left =>
    let t := t.commit
    some (if t.allMarked then { t with cursor := t.chars.length, allMarked := false }
      else { t with cursor := t.cursor - 1 })
  | .right =>
    let t := t.commit
    some (if t.allMarked then { t with cursor := 0, allMarked := false } else t.advance)
  | .backspace => some t.commit.backspace
  | .delete => some t.commit.delete
  | .erase => some t.commit.deleteAll
  | .toggle => some { t.commit with overwrite := !t.overwrite }
  | .character c => some (t.commit.typeChar c)
  | .digit key => some (t.typeKey key)
  | .timeout => some t.commit
  | .select => none

/-- The digit that an action types into a number: `none` if it is no typing at all, `some none` if
it types something else. -/
def numberKey? : Action → Option (Option Char)
  | .digit key => some (some (keyDigit key))
  | .character c => some (if c.isDigit then some c else none)
  | _ => none

def handle (a : Action) (t : TextField) : Outcome TextField :=
  match if t.isNumber then numberKey? a else none with
  | some (some c) =>
    let typed := (t.typeChar c).settleNumber
    .changedIf (typed.chars != t.chars) typed
  | some none => .quiet t
  | none =>
    match t.act? a with
    | some acted => .changedIf (acted.settle.chars != t.chars) acted.settle
    | none => .quiet t

/-- A number that is none stands for its default. -/
def encode (t : TextField) : String :=
  if t.isNumber then (t.number?.map Numeral.text).getD t.default else t.text

def encodeDefault (t : TextField) : String := t.default

def isDefault (t : TextField) : Bool := t.encode == t.default

def decode (text : String) (t : TextField) : Except Error TextField :=
  if t.isNumber then
    match Numeral.read? (Text.trimChars text.toList) with
    | some n => .ok (t.setText (Numeral.text n))
    | none => .error (.undecodable text .integer)
  else .ok (t.setText text)

def reset (t : TextField) : TextField := t.setText t.default

def select (t : TextField) : TextField :=
  { t with
    allMarked := !t.chars.isEmpty
    hidden := if t.censor.isSome then false else t.hidden }

def deselect (t : TextField) : TextField :=
  { t.commit with
    cursor := 0
    offset := 0
    hidden := if t.censor.isSome then true else t.hidden }

/-- The columns that are shown. -/
def window (t : TextField) : Nat × Nat :=
  let length := t.chars.length
  match t.visibleWidth with
  | some width => (min t.offset length, min (t.offset + width) length)
  | none => (0, length)

/-- A space behind the shown characters makes room for the cursor. -/
def display (selected : Bool) (t : TextField) : Display :=
  let (start, stop) := t.window
  let clear := (t.chars.take stop).drop start
  let shown := match t.censor with
    | some c => if t.hidden then List.replicate (stop - start) c else clear
    | none => clear
  let mark : Mark := if t.allMarked then .range 0 (stop - start) else .cursor (t.cursor - start)
  .marked (String.ofList (shown ++ [' '])) mark selected

def toValue (t : TextField) : Value :=
  if t.isNumber then (t.number?.map Value.int).getD .null else .text t.text

/-- What the field is called in mismatches. -/
def expectation (t : TextField) : Expectation := if t.isNumber then .number else .text

def assign (v : Value) (t : TextField) : Except Error TextField :=
  match v with
  | .text s => t.decode s
  | .int _ | .real _ =>
    if t.isNumber then
      match v.int64? with
      | some n => .ok (t.setText (Numeral.text n))
      | none => .error (.mismatch .integer v)
    else .error (.mismatch .text v)
  | v => .error (.mismatch t.expectation v)

end TextField

end Settings
