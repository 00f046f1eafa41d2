import Settings.Proofs.Editor.TextCursor

/-!
# What the censor leaves of a text

A hidden text shows the censor once for each column of its window, and the place of its mark is that of
the cursor in the window. Of the characters only their number counts for either.

* `Veiled.display`: what is shown of a hidden text.
* `Alike.display_eq`: hidden texts that are alike look the same.
-/
namespace Settings.TextField

variable {t a b : TextField} {c : Char}

/-- Hidden behind a censor. -/
structure Veiled (c : Char) (t : TextField) : Prop where
  censor : t.censor = some c
  hidden : t.hidden = true

/-- Alike but for the characters, of which there are as many. What never shows may differ as well. -/
structure Alike (a b : TextField) : Prop where
  length : a.chars.length = b.chars.length
  cursor : a.cursor = b.cursor
  allMarked : a.allMarked = b.allMarked
  visibleWidth : a.visibleWidth = b.visibleWidth
  offset : a.offset = b.offset
  censor : a.censor = b.censor

/-- A censor for each column of the window, and a space for the cursor. -/
def veil (c : Char) (t : TextField) : String :=
  String.ofList (List.replicate (t.window.2 - t.window.1) c ++ [' '])

/-- All of the window is marked, or the column of the cursor in it. -/
def windowMark (t : TextField) : Mark :=
  if t.allMarked then .range 0 (t.window.2 - t.window.1) else .cursor (t.cursor - t.window.1)

theorem Veiled.display (veiled : t.Veiled c) (selected : Bool) :
    t.display selected = .marked (t.veil c) t.windowMark selected := by
  simp only [TextField.display, veiled.censor, veiled.hidden, if_true]
  rfl

namespace Alike

theorem window_eq (alike : a.Alike b) : a.window = b.window := by
  rw [window, window, alike.visibleWidth, alike.offset, alike.length]

theorem veil_eq (alike : a.Alike b) : a.veil c = b.veil c := by
  rw [veil, veil, alike.window_eq]

theorem windowMark_eq (alike : a.Alike b) : a.windowMark = b.windowMark := by
  rw [windowMark, windowMark, alike.allMarked, alike.cursor, alike.window_eq]

theorem display_eq (alike : a.Alike b) (va : a.Veiled c) (vb : b.Veiled c) (selected : Bool) :
    a.display selected = b.display selected := by
  rw [va.display, vb.display, alike.veil_eq, alike.windowMark_eq]

end Alike

/-- A text that was made with a censor is hidden behind it, and one without a censor is not hidden. -/
theorem Made.hidden_eq (made : t.Made) : t.hidden = t.censor.isSome := by
  induction made with
  | withFixedSize fixed t made same => exact same
  | withVisibleWidth width t made same => exact same
  | withInput input t made same => exact same
  | _ => rfl

end Settings.TextField
