/-!
# Displays

What an element asks the screen to show.
-/
namespace Settings

/-- The emphasised part of a shown text. -/
inductive Mark where
  | cursor (column : Nat)
  /-- The columns from `start` up to but not including `stop`. -/
  | range (start stop : Nat)
  deriving DecidableEq, Repr

inductive Display where
  | plain (text : String)
  /-- The mark is drawn only if `selected`. -/
  | marked (text : String) (mark : Mark) (selected : Bool)
  /-- A named picture. -/
  | picture (name : String)
  /-- A bar filled up to `value` of `maximum`. -/
  | bar (value maximum : Int)
  deriving DecidableEq, Repr

namespace Display

def text? : Display → Option String
  | .plain text => some text
  | .marked text _ _ => some text
  | .picture _ | .bar _ _ => none

end Display

end Settings
