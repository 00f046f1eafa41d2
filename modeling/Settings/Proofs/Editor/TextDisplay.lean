import Settings.Proofs.Editor.NumberField

/-!
# The mark on a shown text

A text is shown from the first column of its window to the last, with a space behind it for the cursor.
The window of a text follows the cursor, so the mark is on what is shown. That of a number stays on the
first columns, so its mark is only as long as the cursor does not pass the window.

* `markInside_display_iff`: the mark of any text.
* `InView.markInside_display`, `Anchored.markInside_display_iff`: of texts and of numbers, as edits
  leave them.
-/
namespace Settings

namespace Display

/-- The mark lies in the shown text: a cursor stands on one of its characters, a range ends within
them. -/
def MarkInside : Display → Prop
  | .marked text (.cursor column) _ => column < text.length
  | .marked text (.range start stop) _ => start ≤ stop ∧ stop ≤ text.length
  | .plain _ | .picture _ | .bar _ _ => True

instance (d : Display) : Decidable d.MarkInside :=
  match d with
  | .marked text (.cursor column) _ => inferInstanceAs (Decidable (column < text.length))
  | .marked text (.range start stop) _ =>
    inferInstanceAs (Decidable (start ≤ stop ∧ stop ≤ text.length))
  | .plain _ | .picture _ | .bar _ _ => .isTrue trivial

end Display

namespace TextField

variable {t : TextField}

theorem window_ordered (t : TextField) :
    t.window.1 ≤ t.window.2 ∧ t.window.2 ≤ t.chars.length := by
  unfold window
  cases t.visibleWidth with
  | none => exact ⟨Nat.zero_le _, Nat.le_refl _⟩
  | some width =>
    dsimp only
    omega

/-- Hidden or not, the window is shown with a space behind it. -/
theorem exists_display (selected : Bool) (t : TextField) :
    ∃ shown : String, shown.length = t.window.2 - t.window.1 + 1 ∧
      t.display selected = .marked shown
        (if t.allMarked then .range 0 (t.window.2 - t.window.1)
          else .cursor (t.cursor - t.window.1)) selected := by
  obtain ⟨_, stop⟩ := window_ordered t
  have clear : ((t.chars.take t.window.2).drop t.window.1).length = t.window.2 - t.window.1 := by
    rw [List.length_drop, List.length_take, Nat.min_eq_left stop]
  refine ⟨_, ?_, rfl⟩
  rw [String.length_ofList, List.length_append, List.length_singleton]
  congr 1
  split
  · split
    · exact List.length_replicate
    · exact clear
  · exact clear

/-- A marked text is marked as far as it is shown; a cursor is on what is shown unless it is right of
the window. -/
theorem markInside_display_iff (selected : Bool) :
    (t.display selected).MarkInside ↔ (t.allMarked = false → t.cursor ≤ t.window.2) := by
  obtain ⟨start, _⟩ := window_ordered t
  obtain ⟨shown, length, displayed⟩ := exists_display selected t
  rw [displayed]
  cases marked : t.allMarked with
  | true =>
    have inside : 0 ≤ t.window.2 - t.window.1 ∧ t.window.2 - t.window.1 ≤ shown.length := by omega
    exact iff_of_true inside fun unmarked => nomatch unmarked
  | false =>
    have column : t.cursor - t.window.1 < shown.length ↔ t.cursor ≤ t.window.2 := by omega
    exact column.trans ⟨fun inside _ => inside, fun inside => inside rfl⟩

/-- The window of a text shows its cursor. -/
theorem InView.markInside_display (inView : t.InView) (selected : Bool) :
    (t.display selected).MarkInside := by
  refine (markInside_display_iff selected).mpr fun _ => ?_
  have inside := inView.inside
  unfold TextField.window
  cases shown : t.visibleWidth with
  | none => exact inside
  | some width => exact Nat.le_min.mpr ⟨(inView.window width shown).stop, inside⟩

/-- The window of a number shows its cursor as long as that is within the first columns. -/
theorem Anchored.markInside_display_iff (anchored : t.Anchored) (selected : Bool) :
    (t.display selected).MarkInside ↔
      (t.allMarked = false → ∀ width ∈ t.visibleWidth, t.cursor ≤ width) := by
  have inside := anchored.inside
  rw [TextField.markInside_display_iff]
  refine imp_congr_right fun _ => ?_
  unfold window
  cases shown : t.visibleWidth with
  | none => exact iff_of_true inside fun _ none => nomatch none
  | some width =>
    simp only [anchored.offset, Nat.zero_add, Nat.le_min, Option.mem_some_iff, forall_eq']
    exact and_iff_left inside

end TextField

end Settings
