import Settings.Element.Kind

/-!
# Direct edits

What a host does to the value of an element past the edit actions. An edit that is made for another
kind of element changes nothing.
-/
namespace Settings

inductive ValueEdit where
  /-- Selects the choice with the string form of a value. -/
  | selectValue (v : Value)
  /-- Selects the next choice, round the end. -/
  | selectNext
  | setChoices (choices : List Choice) (default : Option Value)
  | setText (text : String)
  /-- Moves a slider or a timestamp. -/
  | setNumber (n : Int)
  | setFields (fields : List Int)
  | setStepCount (n : Int)
  /-- One minute later. -/
  | increment
  /-- One minute earlier. -/
  | decrement
  /-- Puts a text into a set or takes it out. -/
  | toggle (item : String)
  | setOption (name key value : String)
  | removeOption (name key : String)
  deriving DecidableEq, Repr

/-- Applies a direct edit; the flag is the answer of those that have one. -/
def Kind.apply : ValueEdit → Kind → Except Violation (Kind × Option Bool)
  | .selectValue v, .selection s => .ok (.selection (s.setValue v), none)
  | .selectNext, .selection s => .ok (.selection s.selectNext, none)
  | .setChoices choices default, .selection s =>
    let (s, changed) := s.setChoices choices default
    .ok (.selection s, some changed)
  | .setText text, .textField t => .ok (.textField (t.setText text), none)
  | .setNumber n, .slider s => .ok (.slider (s.setValue n), none)
  | .setNumber n, .timestamp t => .ok (.timestamp (t.setValue n), none)
  | .setFields fields, .sequence s => .ok (.sequence (s.setFields fields), none)
  | .setStepCount n, .sequence s => (s.setStepCount n).map fun s => (.sequence s, none)
  | .increment, .sequence s => .ok (.sequence s.increment.1, some s.increment.2)
  | .decrement, .sequence s => .ok (.sequence s.decrement.1, some s.decrement.2)
  | .toggle item, .multiChoice m => .ok (.multiChoice (m.toggle item), none)
  | .setOption name key value, .optionTable t => .ok (.optionTable (t.set name key value), none)
  | .removeOption name key, .optionTable t =>
    let (t, found) := t.remove name key
    .ok (.optionTable t, some found)
  | _, k => .ok (k, none)

end Settings
