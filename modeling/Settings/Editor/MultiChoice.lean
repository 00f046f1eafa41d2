import Settings.Action
import Settings.Blob.Decode
import Settings.Blob.Encode
import Settings.Display
import Settings.Editor.Outcome
import Settings.Error

/-!
# Multiple choices

A set of texts, kept in order and without repetition, and a cursor over the texts that can be chosen.
The set may hold texts that are no choice (any more).
-/
namespace Settings

/-- The texts in order. -/
def sortTexts (items : List String) : List String :=
  items.mergeSort fun a b => decide (a ≤ b)

/-- The different texts in order. -/
def distinctTexts (items : List String) : List String :=
  (sortTexts items).eraseReps

structure MultiChoice where
  choices : List String
  value : List String
  default : List String
  cursor : Nat
  deriving DecidableEq, Repr

namespace MultiChoice

def make (choices default : List String) : MultiChoice :=
  ⟨sortTexts choices, distinctTexts default, distinctTexts default, 0⟩

def contains (item : String) (m : MultiChoice) : Bool := m.value.contains item

def setItems (items : List String) (m : MultiChoice) : MultiChoice :=
  { m with value := distinctTexts items }

/-- Takes a text out if it is in, and puts it in otherwise. -/
def toggle (item : String) (m : MultiChoice) : MultiChoice :=
  { m with
    value := if m.contains item then m.value.erase item else sortTexts (m.value ++ [item]) }

def encodeItems (items : List String) : String := Blob.encode (Term.ofStrings items)

def encode (m : MultiChoice) : String := encodeItems m.value

def encodeDefault (m : MultiChoice) : String := encodeItems m.default

def isDefault (m : MultiChoice) : Bool := m.value == m.default

def decode (text : String) (m : MultiChoice) : Except Error MultiChoice :=
  match Blob.decode text with
  | .error e => .error e
  | .ok t =>
    match t.strings? with
    | none => .error (.undecodable text .stringList)
    | some items => .ok (m.setItems items)

def reset (m : MultiChoice) : MultiChoice := { m with value := m.default }

/-- Toggles the choice under the cursor. -/
def toggleMarked (m : MultiChoice) : Outcome MultiChoice :=
  match m.choices[m.cursor]? with
  | some item => .changedTo (m.toggle item)
  | none => .quiet m

/-- The cursor goes round. -/
def handle (a : Action) (m : MultiChoice) : Outcome MultiChoice :=
  let size := m.choices.length
  if size = 0 then .quiet m
  else match a with
    | .toggle | .select | .delete | .backspace | .digit _ => m.toggleMarked
    | .left => .quiet { m with cursor := if 0 < m.cursor then m.cursor - 1 else size - 1 }
    | .right => .quiet { m with cursor := if m.cursor + 1 < size then m.cursor + 1 else 0 }
    | .first => .quiet { m with cursor := 0 }
    | .last => .quiet { m with cursor := size - 1 }
    | _ => .quiet m

/-- Chosen texts stand between blanks, the others between parentheses. -/
def shownChoice (m : MultiChoice) (item : String) : List Char :=
  if m.contains item then ' ' :: (item.toList ++ [' ']) else '(' :: (item.toList ++ [')'])

def display (selected : Bool) (m : MultiChoice) : Display :=
  if selected then
    let shown := m.choices.map m.shownChoice
    let start := (shown.take m.cursor).flatten.length
    let mark : Mark := match shown[m.cursor]? with
      | some part => .range start (start + part.length)
      | none => .range 0 0
    .marked (String.ofList shown.flatten) mark true
  else .plain (" ".intercalate m.value)

/-- The texts of a list of values; the first value that is no text otherwise. -/
def textItems : List Value → Except Value (List String)
  | [] => .ok []
  | v :: rest =>
    match v.text? with
    | none => .error v
    | some s => (textItems rest).map (s :: ·)

def assign (v : Value) (m : MultiChoice) : Except Error MultiChoice :=
  match v with
  | .list items =>
    match textItems items with
    | .ok texts => .ok (m.setItems texts)
    | .error item => .error (.mismatch .string item)
  | .text s => m.decode s
  | v => .error (.mismatch .stringArray v)

end MultiChoice

end Settings
