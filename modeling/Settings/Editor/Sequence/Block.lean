import Settings.Action
import Settings.Editor.Outcome
import Settings.Editor.Sequence.Basic

/-!
# Sequences edited field by field

The cursor stands on a whole field. The first digit after a move replaces the field, further digits
extend it; a field that has all its digits passes the cursor on to the next one.
-/
namespace Settings.Sequence

/-- The columns of a field in the numerals with separators between them. -/
def blockSpan (s : Sequence) (block : Nat) : Nat × Nat :=
  let lengths := s.value.map fun v => (Numeral.chars v).length
  let start := columns (lengths.take block) + block
  (start, start + lengths.getD block 0)

/-- Keeps the cursor column on the start of the marked field. -/
def syncCursor (s : Sequence) : Sequence :=
  { s with cursor := (s.blockSpan (s.markedBlock?.getD 0)).1 }

def setBlock (marked : Nat) (overwrite autoJump : Bool) (s : Sequence) : Sequence :=
  { s with style := .block marked overwrite autoJump }

/-- Where a digit goes and what it makes of that field, before the bounds apply. -/
def digitTarget (s : Sequence) (marked : Nat) (overwrite autoJump : Bool) (digit : Nat) :
    Nat × Int :=
  if overwrite then (marked, digit)
  else
    let longer := s.field marked * 10 + digit
    let high := (s.limits[marked]?.map Bounds.high).getD 0
    if autoJump && high < longer && marked + 1 < s.limits.length then (marked + 1, digit)
    else (marked, longer)

/-- Writes a number into a field. If it has as many digits as the field is wide, the cursor goes to
the next field; behind the last one it stays and reports the edge. -/
def writeBlock (s : Sequence) (block : Nat) (n : Int) (autoJump : Bool) : Outcome Sequence :=
  let full := s.widths.getD block 0 ≤ Numeral.width n
  let isLast := block + 1 == s.limits.length
  let written := { s with value := clampFields s.limits (s.value.set block n) }
  let next :=
    if full then
      if isLast then written.setBlock block true autoJump
      else written.setBlock (block + 1) true autoJump
    else written.setBlock block false autoJump
  ⟨next.syncCursor, true, if full && isLast then some .finish else none⟩

def handleBlock (marked : Nat) (overwrite autoJump : Bool) (a : Action) (s : Sequence) :
    Outcome Sequence :=
  let last := s.limits.length - 1
  match a with
  | .left =>
    let moved := (s.setBlock (marked - 1) true autoJump).syncCursor
    if marked = 0 then .hit .start moved else .quiet moved
  | .right =>
    let moved := (s.setBlock (min (marked + 1) last) true autoJump).syncCursor
    if marked = last then .hit .finish moved else .quiet moved
  | .first => .quiet (s.setBlock 0 true autoJump).syncCursor
  | .last => .quiet (s.setBlock last true autoJump).syncCursor
  | .digit _ | .character _ =>
    match a.digit? with
    | none => .quiet s
    | some d =>
      let (block, n) := s.digitTarget marked overwrite autoJump d
      s.writeBlock block n autoJump
  | _ => .quiet s.syncCursor

end Settings.Sequence
