import Settings.Proofs.Editor.TextField
import Settings.Proofs.Element.Kind

/-!
# Reported changes

Each kind decides for itself what it reports as a change. It may report one where nothing changed, but
whenever its string form is another one than before, it reports a change.

* `Kind.candid_handle`: edit actions.
* `Kind.encode_select`, `Kind.encode_deselect`, `Kind.prepareSave_eq_self`: what is not reported does not
  change the string form.
-/
namespace Settings

namespace Outcome

variable {α β : Type} {shown : α → String} {before : α} {o : Outcome α}

/-- A change of what is shown is reported. -/
def Candid (shown : α → String) (before : α) (o : Outcome α) : Prop :=
  shown o.state ≠ shown before → o.changed = true

theorem candid_of_same (same : shown o.state = shown before) : o.Candid shown before :=
  fun differs => absurd same differs

theorem candid_of_changed (changed : o.changed = true) : o.Candid shown before := fun _ => changed

theorem Candid.map (candid : o.Candid shown before) {make : α → β} {shown' : β → String}
    (same : ∀ x, shown' (make x) = shown x) : (o.map make).Candid shown' (make before) := by
  intro differs
  rw [same] at differs
  exact candid fun equal => differs ((same o.state).trans equal)

end Outcome

open Outcome

theorem Switch.candid_handle (a : Action) (s : Switch) : (s.handle a).Candid encode s := by
  cases a with
  | toggle | select | left | right | first | last => exact candid_of_changed rfl
  | _ => exact candid_of_same rfl

theorem Selection.candid_handle (a : Action) (s : Selection) : (s.handle a).Candid encode s := by
  unfold handle
  split
  · exact candid_of_same rfl
  · split
    · exact candid_of_changed rfl
    · exact candid_of_same rfl

theorem MultiChoice.candid_handle (a : Action) (m : MultiChoice) : (m.handle a).Candid encode m := by
  have toggled : m.toggleMarked.Candid encode m := by
    unfold toggleMarked
    split
    · exact candid_of_changed rfl
    · exact candid_of_same rfl
  unfold handle
  dsimp only
  split
  · exact candid_of_same rfl
  · cases a with
    | toggle | select | delete | backspace | digit => exact toggled
    | _ => exact candid_of_same rfl

theorem Slider.candid_handle (a : Action) (s : Slider) : (s.handle a).Candid encode s := by
  unfold handle
  split
  · next n target =>
    intro differs
    exact bne_iff_ne.mpr fun same => differs (congrArg Numeral.text same)
  · exact candid_of_same rfl

theorem Timestamp.candid_handle (a : Action) (t : Timestamp) : (t.handle a).Candid encode t := by
  unfold handle
  split
  · next n target =>
    intro differs
    exact bne_iff_ne.mpr fun same => differs (congrArg Numeral.text same)
  · exact candid_of_same rfl

namespace TextField

/-- A change is reported if the characters are others. -/
theorem changed_handle (a : Action) (t : TextField) :
    (t.handle a).changed = ((t.handle a).state.chars != t.chars) := by
  unfold handle
  split
  · rfl
  · exact (bne_self_eq_false t.chars).symm
  · split
    · rfl
    · exact (bne_self_eq_false t.chars).symm

theorem candid_handle (a : Action) (t : TextField) : (t.handle a).Candid encode t := by
  intro differs
  rw [changed_handle, bne_iff_ne]
  exact fun same => differs (encode_congr (setup_handle t a) same)

end TextField

namespace Sequence

theorem changed_settle (s : Sequence) : s.settle.changed = true := by
  unfold settle
  dsimp only
  split <;> rfl

theorem candid_handlePositional (a : Action) (s : Sequence) :
    (s.handlePositional a).Candid encode s := by
  unfold handlePositional
  dsimp only
  cases a with
  | first | last => exact candid_of_same rfl
  | left | right =>
    dsimp only
    split <;> exact candid_of_same rfl
  | _ =>
    dsimp only
    split
    · exact candid_of_changed (changed_settle _)
    · exact candid_of_same rfl

theorem candid_handleBlock (marked : Nat) (overwrite autoJump : Bool) (a : Action) (s : Sequence) :
    (s.handleBlock marked overwrite autoJump a).Candid encode s := by
  unfold handleBlock
  dsimp only
  cases a with
  | left | right =>
    dsimp only
    split <;> exact candid_of_same rfl
  | digit | character =>
    dsimp only
    split
    · exact candid_of_same rfl
    · exact candid_of_changed rfl
  | _ => exact candid_of_same rfl

theorem candid_clockDigit (mode : HourMode) (digit : Nat) (s : Sequence) :
    (s.clockDigit mode digit).Candid encode s := by
  unfold clockDigit
  cases mode with
  | twelve | twentyFour =>
    dsimp only
    split
    · exact candid_of_changed (changed_settle _)
    · exact candid_of_same rfl

theorem candid_handleClock (mode : HourMode) (a : Action) (s : Sequence) :
    (s.handleClock mode a).Candid encode s := by
  unfold handleClock
  dsimp only
  cases a with
  | first | last => exact candid_of_same rfl
  | left | right =>
    dsimp only
    split <;> exact candid_of_same rfl
  | delete | backspace =>
    dsimp only
    split
    · exact candid_of_changed rfl
    · exact candid_of_same rfl
  | _ =>
    dsimp only
    split
    · exact candid_clockDigit mode _ s
    · exact candid_of_same rfl

theorem candid_handle (mode : HourMode) (a : Action) (s : Sequence) :
    (s.handle mode a).Candid encode s := by
  unfold handle
  split
  · exact candid_handlePositional a s
  · exact candid_handleBlock _ _ _ a s
  · exact candid_handleClock mode a s

end Sequence

namespace Kind

/-- An edit action that changes the string form reports a change. -/
theorem candid_handle (mode : HourMode) (a : Action) (k : Kind) : (k.handle mode a).Candid encode k := by
  cases k with
  | switch s => exact (s.candid_handle a).map fun _ => rfl
  | selection s => exact (s.candid_handle a).map fun _ => rfl
  | sequence s => exact (s.candid_handle mode a).map fun _ => rfl
  | multiChoice m => exact (m.candid_handle a).map fun _ => rfl
  | slider s => exact (s.candid_handle a).map fun _ => rfl
  | textField t => exact (t.candid_handle a).map fun _ => rfl
  | timestamp t => exact (t.candid_handle a).map fun _ => rfl
  | optionTable t => exact candid_of_same rfl

theorem encode_select (k : Kind) : k.select.encode = k.encode := by cases k <;> rfl

theorem encode_deselect (k : Kind) : k.deselect.encode = k.encode := by cases k <;> rfl

/-- Nothing is tidied up unannounced. -/
theorem prepareSave_eq_self {k : Kind} (quiet : k.needsPreparing = false) : k.prepareSave = k := by
  cases k with
  | optionTable t =>
    have kept : t.prune.value.length = t.value.length := by simpa [needsPreparing] using quiet
    have all := List.filter_eq_self.mpr (List.length_filter_eq_length_iff.mp kept)
    rw [prepareSave, OptionTable.prune, all]
  | _ => rfl

end Kind

end Settings
