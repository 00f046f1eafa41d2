import Settings.Action
import Settings.Editor.Outcome
import Settings.Editor.Sequence.Basic

/-!
# Sequences edited digit by digit

The cursor stands on a digit of the fields written with leading zeros. A digit key replaces that digit
and moves on; the fields are clamped after each digit.
-/
namespace Settings.Sequence

/-- The field that a column lies in, and the column within that field. -/
def locate : (widths : List Nat) → (column : Nat) → Nat × Nat
  | [], column => (0, column)
  | w :: ws, column =>
    if column < w then (0, column)
    else
      let (field, inner) := locate ws (column - w)
      (field + 1, inner)

/-- Replaces one digit of the magnitude of `old`, written with `width` digits. -/
def replaceDigit (width column digit : Nat) (old : Int) : Int :=
  let place := Nat.pow 10 (width - column - 1)
  let magnitude := old.natAbs
  ((magnitude - magnitude / place % 10 * place + digit * place : Nat) : Int)

/-- Clamps the fields and the cursor; a cursor behind the last column goes back to it and reports
the edge. -/
def settle (s : Sequence) : Outcome Sequence :=
  let s := { s with value := clampFields s.limits s.value }
  if s.cursor < s.totalWidth then .changedTo s
  else ⟨{ s with cursor := s.totalWidth - 1 }, true, some .finish⟩

/-- Replaces the digit under the cursor and moves on. -/
def enterDigit (digit : Nat) (s : Sequence) : Outcome Sequence :=
  let (field, column) := locate s.widths s.cursor
  let width := s.widths.getD field 0
  settle { s with
    value := s.value.set field (replaceDigit width column digit (s.field field)),
    cursor := s.cursor + 1 }

def handlePositional (a : Action) (s : Sequence) : Outcome Sequence :=
  let last := s.totalWidth - 1
  match a with
  | .first => .quiet { s with cursor := 0 }
  | .last => .quiet { s with cursor := last }
  | .left =>
    if s.cursor = 0 then .hit .start s else .quiet { s with cursor := s.cursor - 1 }
  | .right =>
    if last ≤ s.cursor then .hit .finish { s with cursor := last }
    else .quiet { s with cursor := s.cursor + 1 }
  | a =>
    match a.digit? with
    | some d => s.enterDigit d
    | none => .quiet s

/-- Appends the fields to a text. Behind each separator the cursor shifts by one if it is not before
that separator. -/
def paddedFrom (s : Sequence) : List Char → Nat → List (Int × Nat) → List Char × Nat
  | text, column, [] => (text, column)
  | text, column, (v, width) :: rest =>
    let (text, column) :=
      if text.isEmpty then (text, column)
      else
        let text := text ++ [s.separator]
        (text, if text.length - 1 ≤ column then column + 1 else column)
    let digits := match s.censor with
      | some c => if s.hidden then List.replicate width c else Numeral.padded width v
      | none => Numeral.padded width v
    paddedFrom s (text ++ digits) column rest

/-- The fields with leading zeros and separators, and the column of the cursor in them. -/
def paddedView (s : Sequence) : List Char × Nat :=
  paddedFrom s [] s.cursor (s.value.zip s.widths)

end Settings.Sequence
