import Settings.Action
import Settings.Display
import Settings.Editor.Bounds
import Settings.Editor.Outcome
import Settings.Error
import Settings.Text.Blank

/-!
# Sliders

A slider is a number between bounds that moves by a fixed increment.
-/
namespace Settings

structure Slider where
  value : Int
  default : Int
  increment : Int
  bounds : Bounds
  deriving DecidableEq, Repr

namespace Slider

def make (default increment : Int) (bounds : Bounds) : Except Violation Slider :=
  if bounds.Ordered then .ok ⟨bounds.clamp default, bounds.clamp default, increment, bounds⟩
  else .error .disorderedSlider

def setValue (n : Int) (s : Slider) : Slider := { s with value := s.bounds.clamp n }

def text (s : Slider) : String := Numeral.text s.value ++ " / " ++ Numeral.text s.bounds.high

def encode (s : Slider) : String := Numeral.text s.value

def encodeDefault (s : Slider) : String := Numeral.text s.default

def isDefault (s : Slider) : Bool := s.value == s.default

def decode (text : String) (s : Slider) : Except Error Slider :=
  match Numeral.read? (Text.trimChars text.toList) with
  | some n => .ok (s.setValue n)
  | none => .error (.undecodable text .integer)

def reset (s : Slider) : Slider := { s with value := s.default }

/-- Where an action leads before the bounds apply. -/
def target? (s : Slider) : Action → Option Int
  | .left => some (Numeral.saturate (s.value - s.increment))
  | .right => some (Numeral.saturate (s.value + s.increment))
  | .first => some s.bounds.low
  | .last => some s.bounds.high
  | _ => none

def handle (a : Action) (s : Slider) : Outcome Slider :=
  match s.target? a with
  | some n => .changedIf ((s.setValue n).value != s.value) (s.setValue n)
  | none => .quiet s

def display (s : Slider) : Display := .bar s.value s.bounds.high

def assign (v : Value) (s : Slider) : Except Error Slider :=
  match v.int64? with
  | some n => .ok (s.setValue n)
  | none => .error (.mismatch .integer v)

end Slider

end Settings
