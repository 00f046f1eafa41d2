import Settings.Action
import Settings.Display
import Settings.Editor.Outcome
import Settings.Error
import Settings.Text.Blank
import Settings.Text.LowerCase

/-!
# Switches

Two-state values. A switch is shown as a picture, or by the label of its state.
-/
namespace Settings

structure Switch where
  value : Bool
  default : Bool
  offLabel : String
  onLabel : String
  /-- Shown as a picture. -/
  pictured : Bool
  deriving DecidableEq, Repr

namespace Switch

def labelled (default : Bool) (off on : String) : Switch := ⟨default, default, off, on, true⟩

def plain (default : Bool) : Switch := labelled default "False" "True"
def enableDisable (default : Bool) : Switch := labelled default "Disable" "Enable"
def onOff (default : Bool) : Switch := labelled default "Off" "On"
def yesNo (default : Bool) : Switch := labelled default "No" "Yes"

/-- Shown by its label. -/
def textOnly (s : Switch) : Switch := { s with pictured := false }

def text (s : Switch) : String := if s.value then s.onLabel else s.offLabel

/-- The words that switch on, in any case and with blanks around them; all else switches off. -/
def onWords : List String := ["1", "enable", "on", "true", "yes"]

def readState (text : String) : Bool :=
  onWords.contains (Text.toLowerCase (Text.trim text))

def stateName (b : Bool) : String := if b then "True" else "False"

def encode (s : Switch) : String := stateName s.value

def encodeDefault (s : Switch) : String := stateName s.default

def isDefault (s : Switch) : Bool := s.value == s.default

def decode (text : String) (s : Switch) : Switch := { s with value := readState text }

def reset (s : Switch) : Switch := { s with value := s.default }

/-- Going to the state that a switch has already still counts as a change. -/
def handle (a : Action) (s : Switch) : Outcome Switch :=
  match a with
  | .toggle | .select | .left | .right => .changedTo { s with value := !s.value }
  | .first => .changedTo { s with value := false }
  | .last => .changedTo { s with value := true }
  | _ => .quiet s

def display (s : Switch) : Display :=
  if s.pictured then .picture (if s.value then "menu_on" else "menu_off") else .plain s.text

/-- Of all numbers only the whole number one switches on. -/
def assign (v : Value) (s : Switch) : Except Error Switch :=
  match v with
  | .bool b => .ok { s with value := b }
  | .text t => .ok (s.decode t)
  | .int n => .ok { s with value := n == 1 }
  | .real _ => .ok { s with value := false }
  | v => .error (.mismatch .boolean v)

end Switch

end Settings
