import Settings.Display
import Settings.Editor.Sequence.Block
import Settings.Editor.Sequence.Clock
import Settings.Editor.Sequence.Positional

/-!
# Editing and showing sequences

What actions do to a sequence and how it is shown, by its style.
-/
namespace Settings.Sequence

def handle (mode : HourMode) (a : Action) (s : Sequence) : Outcome Sequence :=
  match s.style with
  | .positional => s.handlePositional a
  | .block marked overwrite autoJump => s.handleBlock marked overwrite autoJump a
  | .clock => s.handleClock mode a

/-- The shown text and its mark. -/
def view (mode : HourMode) (s : Sequence) : String × Mark :=
  match s.style with
  | .positional =>
    let (text, column) := s.paddedView
    (String.ofList text, .cursor column)
  | .block marked _ _ =>
    let (start, stop) := s.blockSpan marked
    (s.encode, .range start stop)
  | .clock =>
    let (text, column) := s.clockView mode
    (String.ofList text, .cursor column)

def text (mode : HourMode) (s : Sequence) : String := (s.view mode).1

/-- A disabled sequence shows no mark. -/
def display (mode : HourMode) (selected enabled : Bool) (s : Sequence) : Display :=
  let (text, mark) := s.view mode
  if enabled then .marked text mark selected else .plain text

end Settings.Sequence
