import Settings.Action
import Settings.Calendar.Format
import Settings.Display
import Settings.Editor.Outcome
import Settings.Error
import Settings.Text.Blank

/-!
# Timestamps

Seconds since the start of 1970 that move by a fixed increment and are shown after a date pattern.
-/
namespace Settings

structure Timestamp where
  value : Int
  default : Int
  increment : Int
  pattern : String
  deriving DecidableEq, Repr

namespace Timestamp

/-- One day, the usual increment. -/
def day : Int := 86400

def make (default : Int) (pattern : String) (increment : Int) : Timestamp :=
  ⟨default, default, increment, pattern⟩

def daily (default : Int) (pattern : String) : Timestamp := make default pattern day

def setValue (n : Int) (t : Timestamp) : Timestamp := { t with value := n }

/-- The formatted time; the number itself if the time or the pattern has no text. -/
def text (t : Timestamp) : String :=
  (Calendar.format? t.pattern t.value).getD (Numeral.text t.value)

def encode (t : Timestamp) : String := Numeral.text t.value

def encodeDefault (t : Timestamp) : String := Numeral.text t.default

def isDefault (t : Timestamp) : Bool := t.value == t.default

def decode (text : String) (t : Timestamp) : Except Error Timestamp :=
  match Numeral.read? (Text.trimChars text.toList) with
  | some n => .ok (t.setValue n)
  | none => .error (.undecodable text .timestamp)

def reset (t : Timestamp) : Timestamp := { t with value := t.default }

def target? (t : Timestamp) : Action → Option Int
  | .left => some (Numeral.saturate (t.value - t.increment))
  | .right => some (Numeral.saturate (t.value + t.increment))
  | .first | .last => some t.default
  | _ => none

def handle (a : Action) (t : Timestamp) : Outcome Timestamp :=
  match t.target? a with
  | some n => .changedIf (n != t.value) (t.setValue n)
  | none => .quiet t

def display (t : Timestamp) : Display := .plain t.text

def assign (v : Value) (t : Timestamp) : Except Error Timestamp :=
  match v.int64? with
  | some n => .ok (t.setValue n)
  | none => .error (.mismatch .timestamp v)

end Timestamp

end Settings
