import Settings.Proofs.Editor.TextDisplay
import Settings.Proofs.Element.NumberField

/-!
# Marks after every run

Whatever is done to a text or a password, its mark lies in what is shown. The one exception is a number
behind a window: its cursor leaves the window, which does not follow.

* `markInside_run_iff`: the mark after any run.
* `cursor_leaves_window`: a number that is wider than its window.
-/
namespace Settings.Element

variable {t : TextField}

/-- The mark of a text that a host made lies in what is shown, unless it is the cursor of a number and
right of the window. -/
theorem markInside_run_iff (made : t.Made) (ops : List Operation) (mode : HourMode) (selected : Bool) :
    ∃ t', (run ops (ofKind (.textField t))).result.kind = .textField t' ∧
      t'.isNumber = t.isNumber ∧ t'.visibleWidth = t.visibleWidth ∧
      (((run ops (ofKind (.textField t))).result.display mode selected).MarkInside ↔
        (t.isNumber = true → t'.allMarked = false →
          ∀ width ∈ t.visibleWidth, t'.cursor ≤ width)) := by
  cases kind : t.isNumber with
  | false =>
    obtain ⟨t', reached, same, inView⟩ := framed_run made.fresh.inView kind ops
    refine ⟨t', reached, (TextField.isNumber_of_frame same).trans kind,
      TextField.visibleWidth_of_frame same, ?_⟩
    rw [display, reached]
    exact iff_of_true (inView.markInside_display selected) fun isNumber => nomatch isNumber
  | true =>
    obtain ⟨t', reached, same, anchored⟩ := anchored_run made kind ops
    refine ⟨t', reached, (TextField.isNumber_of_frame same).trans kind,
      TextField.visibleWidth_of_frame same, ?_⟩
    rw [display, reached, ← TextField.visibleWidth_of_frame same]
    exact (anchored.markInside_display_iff selected).trans ⟨fun inside _ => inside,
      fun inside => inside rfl⟩

/-- A number of five digits behind a window of three columns. -/
def wideNumber : TextField := (TextField.number 12345).withVisibleWidth 3

theorem made_wideNumber : wideNumber.Made := .withVisibleWidth 3 _ (.number 12345 (by decide))

/-- Goes behind the columns that the window shows, and no further. -/
def edgeOps : List Operation :=
  [.select, .act .twelve .right, .act .twelve .right, .act .twelve .right, .act .twelve .right]

theorem markInside_run_edge :
    ((run edgeOps (ofKind (.textField wideNumber))).result.display .twelve true).MarkInside := by
  obtain ⟨t', reached, _, _, inside⟩ := markInside_run_iff made_wideNumber edgeOps .twelve true
  have place : (run edgeOps (ofKind (.textField wideNumber))).result.kind =
      .textField { wideNumber with allMarked := false, cursor := 3 } := by decide +kernel
  rw [reached] at place
  cases place
  exact inside.mpr fun _ _ width shown => Nat.le_of_eq (Option.some.inj shown)

/-- At the end of its digits the cursor of a number is right of a window that is narrower. -/
theorem cursor_leaves_window :
    ¬ ∀ (t : TextField) (ops : List Operation) (mode : HourMode) (selected : Bool), t.Made →
      ((run ops (ofKind (.textField t))).result.display mode selected).MarkInside := by
  intro inside
  have shown : (run [.act .twelve .last] (ofKind (.textField wideNumber))).result.display .twelve true =
      .marked "123 " (.cursor 5) true := by decide +kernel
  have last := inside wideNumber [.act .twelve .last] .twelve true made_wideNumber
  rw [shown] at last
  exact absurd last (by decide)

end Settings.Element
