import Settings.Action
import Settings.Display
import Settings.Editor.Outcome
import Settings.Error

/-!
# Selections

One value out of a list of choices. Choices are told apart by their string forms, since that is what
is persisted; the first choice with a string form stands for it.
-/
namespace Settings

structure Choice where
  value : Value
  description : Option String
  deriving DecidableEq, Repr

/-- The string form of a choice. -/
def Choice.key (c : Choice) : String := c.value.stringForm

structure Selection where
  choices : List Choice
  value : Value
  default : Value
  wraparound : Bool
  deriving DecidableEq, Repr

namespace Selection

/-- The first choice with a string form. -/
def findChoice? (choices : List Choice) (key : String) : Option Choice :=
  choices.find? fun c => c.key == key

/-- The first choice; the empty text if there is none. -/
def firstValue (choices : List Choice) : Value :=
  match choices with
  | c :: _ => c.value
  | [] => .text ""

/-- The choice that a wanted default means; the first one if it means none. -/
def resolveDefault (choices : List Choice) : Option Value → Value
  | none => firstValue choices
  | some wanted =>
    match findChoice? choices wanted.stringForm with
    | some c => c.value
    | none => firstValue choices

def ofChoices (choices : List Choice) (default : Option Value) : Selection :=
  let value := resolveDefault choices default
  ⟨choices, value, value, true⟩

/-- Choices by their keys, in key order. -/
def ofMap (choices : List (String × String)) (default : Option String) : Selection :=
  ofChoices (choices.map fun p => ⟨.text p.1, some p.2⟩) (default.map .text)

def withWraparound (wraparound : Bool) (s : Selection) : Selection :=
  { s with wraparound := wraparound }

/-- The numbers from `low` to `high` that lie a multiple of `step` above `low`. -/
def progression (low high step : Int) : List Int :=
  if high < low then []
  else (List.range (((high - low) / step).toNat + 1)).map fun (i : Nat) => low + step * i

def ofRange (low high step : Int) (default : Option Int) (wraparound : Bool) :
    Except Violation Selection :=
  if step ≤ 0 then .error .rangeStep
  else
    let choices := (progression low high step).map fun n => Choice.mk (.int n) none
    .ok ((ofChoices choices (default.map .int)).withWraparound wraparound)

/-- A placeholder with a single empty choice. -/
def nothing : Selection := ofChoices [⟨.text "", some ""⟩] none

/-- The position of the current choice. -/
def index (s : Selection) : Nat :=
  (s.choices.findIdx? fun c => c.key == s.value.stringForm).getD 0

/-- Takes the choice with this string form, or the default if there is none. -/
def setByKey (key : String) (s : Selection) : Selection :=
  { s with value := ((findChoice? s.choices key).map Choice.value).getD s.default }

def setValue (v : Value) (s : Selection) : Selection := s.setByKey v.stringForm

/-- Replaces the choices. The value stays if it still is a choice and goes to the new default
otherwise; the answer says whether it changed. -/
def setChoices (choices : List Choice) (default : Option Value) (s : Selection) :
    Selection × Bool :=
  let replaced : Selection :=
    { s with choices := choices, default := resolveDefault choices default }
  let next := replaced.setValue s.value
  (next, !next.value.same s.value)

/-- Takes the choice at a position; there is nothing to take past the end. -/
def moveTo (i : Nat) (s : Selection) : Selection :=
  match s.choices[i]? with
  | some c => { s with value := c.value }
  | none => s

def selectNext (s : Selection) : Selection :=
  s.moveTo ((s.index + 1) % s.choices.length)

/-- The description of a value; its string form if it has none. -/
def description (v : Value) (s : Selection) : String :=
  ((findChoice? s.choices v.stringForm).bind Choice.description).getD v.stringForm

def text (s : Selection) : String := s.description s.value

def encode (s : Selection) : String := s.value.stringForm

def encodeDefault (s : Selection) : String := s.default.stringForm

def isDefault (s : Selection) : Bool := s.encode == s.encodeDefault

def decode (text : String) (s : Selection) : Selection := s.setByKey text

def reset (s : Selection) : Selection := { s with value := s.default }

/-- The position that an action leads to among `size` choices; `none` if it leads nowhere. -/
def target? (wraparound : Bool) (size i : Nat) : Action → Option Nat
  | .left => if !wraparound && i == 0 then none else some ((i + size - 1) % size)
  | .right => if !wraparound && i + 1 == size then none else some ((i + 1) % size)
  | .first => some 0
  | .last => some (size - 1)
  | _ => none

def handle (a : Action) (s : Selection) : Outcome Selection :=
  if s.choices.length < 2 then .quiet s
  else match target? s.wraparound s.choices.length s.index a with
    | some i => .changedTo (s.moveTo i)
    | none => .quiet s

def display (s : Selection) : Display := .plain s.text

end Selection

end Settings
