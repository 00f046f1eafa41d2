import Settings.Editor.MultiChoice
import Settings.Editor.OptionTable
import Settings.Editor.Selection
import Settings.Editor.Sequence.View
import Settings.Editor.Slider
import Settings.Editor.Switch
import Settings.Editor.TextField
import Settings.Editor.Timestamp

/-!
# Kinds of elements

The value of an element together with its editor. What all kinds have in common is said here once, by
cases.
-/
namespace Settings

inductive Kind where
  | switch (s : Switch)
  | selection (s : Selection)
  | sequence (s : Sequence)
  | multiChoice (m : MultiChoice)
  | slider (s : Slider)
  | textField (t : TextField)
  | timestamp (t : Timestamp)
  | optionTable (t : OptionTable)
  deriving DecidableEq, Repr

namespace Kind

def typeName : Kind → String
  | .switch _ => "boolean"
  | .selection _ => "selection"
  | .sequence _ => "sequence"
  | .multiChoice _ => "set"
  | .slider _ => "slider"
  | .textField t => t.expectation.describe
  | .timestamp _ => "datetime"
  | .optionTable _ => "dictionary set"

/-- The string form of the value, which is what is persisted. -/
def encode : Kind → String
  | .switch s => s.encode
  | .selection s => s.encode
  | .sequence s => s.encode
  | .multiChoice m => m.encode
  | .slider s => s.encode
  | .textField t => t.encode
  | .timestamp t => t.encode
  | .optionTable t => t.encode

/-- The string form of the default. -/
def encodeDefault : Kind → String
  | .switch s => s.encodeDefault
  | .selection s => s.encodeDefault
  | .sequence s => s.encodeDefault
  | .multiChoice m => m.encodeDefault
  | .slider s => s.encodeDefault
  | .textField t => t.encodeDefault
  | .timestamp t => t.encodeDefault
  | .optionTable t => t.encodeDefault

def isDefault : Kind → Bool
  | .switch s => s.isDefault
  | .selection s => s.isDefault
  | .sequence s => s.isDefault
  | .multiChoice m => m.isDefault
  | .slider s => s.isDefault
  | .textField t => t.isDefault
  | .timestamp t => t.isDefault
  | .optionTable t => t.isDefault

/-- Takes the value that a string form stands for. -/
def decode (text : String) : Kind → Except Error Kind
  | .switch s => .ok (.switch (s.decode text))
  | .selection s => .ok (.selection (s.decode text))
  | .sequence s => .ok (.sequence (s.decode text))
  | .multiChoice m => (m.decode text).map .multiChoice
  | .slider s => (s.decode text).map .slider
  | .textField t => (t.decode text).map .textField
  | .timestamp t => (t.decode text).map .timestamp
  | .optionTable t => (t.decode text).map .optionTable

/-- Goes back to the default. -/
def reset : Kind → Kind
  | .switch s => .switch s.reset
  | .selection s => .selection s.reset
  | .sequence s => .sequence s.reset
  | .multiChoice m => .multiChoice m.reset
  | .slider s => .slider s.reset
  | .textField t => .textField t.reset
  | .timestamp t => .timestamp t.reset
  | .optionTable t => .optionTable t.reset

/-- One edit action. Option tables have no editor of their own. -/
def handle (mode : HourMode) (a : Action) : Kind → Outcome Kind
  | .switch s => (s.handle a).map .switch
  | .selection s => (s.handle a).map .selection
  | .sequence s => (s.handle mode a).map .sequence
  | .multiChoice m => (m.handle a).map .multiChoice
  | .slider s => (s.handle a).map .slider
  | .textField t => (t.handle a).map .textField
  | .timestamp t => (t.handle a).map .timestamp
  | .optionTable t => .quiet (.optionTable t)

def display (mode : HourMode) (selected enabled : Bool) : Kind → Display
  | .switch s => s.display
  | .selection s => s.display
  | .sequence s => s.display mode selected enabled
  | .multiChoice m => m.display selected
  | .slider s => s.display
  | .textField t => t.display selected
  | .timestamp t => t.display
  | .optionTable t => t.display

/-- The value as the host sees it. -/
def toValue : Kind → Value
  | .switch s => .bool s.value
  | .selection s => s.value
  | .sequence s => s.toValue
  | .multiChoice m => .ofStrings m.value
  | .slider s => .int s.value
  | .textField t => t.toValue
  | .timestamp t => .int t.value
  | .optionTable t => t.toValue

/-- Takes a value from the host. -/
def assign (v : Value) : Kind → Except Error Kind
  | .switch s => (s.assign v).map .switch
  | .selection s => .ok (.selection (s.setValue v))
  | .sequence s => (s.assign v).map .sequence
  | .multiChoice m => (m.assign v).map .multiChoice
  | .slider s => (s.assign v).map .slider
  | .textField t => (t.assign v).map .textField
  | .timestamp t => (t.assign v).map .timestamp
  | .optionTable t => (t.assign v).map .optionTable

/-- The element gains focus. -/
def select : Kind → Kind
  | .sequence s => .sequence s.select
  | .textField t => .textField t.select
  | k => k

/-- The element loses focus. -/
def deselect : Kind → Kind
  | .sequence s => .sequence s.deselect
  | .textField t => .textField t.deselect
  | k => k

/-- Tidies the value up before it is persisted. -/
def prepareSave : Kind → Kind
  | .optionTable t => .optionTable t.prune
  | k => k

/-- Whether tidying up changes anything. -/
def needsPreparing : Kind → Bool
  | .optionTable t => t.prune.value.length != t.value.length
  | _ => false

/-- Steps a clock; the answer says whether there is one. -/
def increment : Kind → Kind × Bool
  | .sequence s => (.sequence s.increment.1, s.increment.2)
  | k => (k, false)

def decrement : Kind → Kind × Bool
  | .sequence s => (.sequence s.decrement.1, s.decrement.2)
  | k => (k, false)

end Kind

end Settings
