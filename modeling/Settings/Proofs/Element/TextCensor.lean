import Settings.Proofs.Editor.TextCensor
import Settings.Proofs.Element.Censor
import Settings.Proofs.Element.TextField

/-!
# Censored texts

Whatever is done to a text with a censor, it is hidden exactly as long as it is not selected: neither an
action nor another text uncovers it. While it is hidden, nobody can tell it from another text of the same
length.

* `cover_perform`, `cover_run`: the cover after an operation and after a run.
* `display_eq_of_censoredText`: what two censored texts show.
-/
namespace Settings

variable {t t' a b : TextField} {e f : Element} {focused : Bool}

/-- What became of a text still has its censor, and is hidden behind it without the focus. -/
structure TextField.Covered (t : TextField) (focused : Bool) (t' : TextField) : Prop where
  frame : t'.frame = t.frame
  hidden : t'.hidden = (t.censor.isSome && !focused)

namespace TextField

theorem censor_of_frame (same : t'.frame = t.frame) : t'.censor = t.censor := by
  have blank : t'.frame.censor = t.frame.censor := congrArg censor same
  exact blank

/-- What is done to a text while the focus does not change neither covers nor uncovers it. -/
theorem Edited.backdrop (edited : t.Edited t') : t'.backdrop = t.backdrop := by
  cases edited with
  | same => rfl
  | handle a => exact t.backdrop_handle a
  | setText text => exact t.backdrop_setText text

/-- Selecting uncovers a text. -/
theorem Covered.select (covered : t.Covered focused t') : t.Covered true t'.select := by
  refine ⟨covered.frame, ?_⟩
  have hidden := covered.hidden
  rw [TextField.select, censor_of_frame covered.frame]
  cases censored : t.censor.isSome with
  | true => rfl
  | false =>
    rw [censored] at hidden
    exact hidden

/-- Leaving it covers it again. -/
theorem Covered.deselect (covered : t.Covered focused t') : t.Covered false t'.deselect := by
  refine ⟨covered.frame, ?_⟩
  have hidden := covered.hidden
  rw [TextField.deselect, censor_of_frame covered.frame]
  cases censored : t.censor.isSome with
  | true => rfl
  | false =>
    rw [censored] at hidden
    exact hidden

end TextField

namespace Element

theorem cover_perform (op : Operation) (kind : e.kind = .textField t')
    (covered : t.Covered focused t') :
    ∃ t'', (e.perform op).1.result.kind = .textField t'' ∧
      t.Covered (op.focus?.getD focused) t'' := by
  cases focus : op.focus? with
  | none =>
    have edited := edited_perform op.within_true focus e
    rw [kind] at edited
    obtain ⟨t'', same, edited⟩ := edited.textField
    have backdrop := edited.backdrop
    exact ⟨t'', same, (TextField.frame_of_backdrop backdrop).trans covered.frame,
      (TextField.hidden_of_backdrop backdrop).trans covered.hidden⟩
  | some now =>
    cases op with
    | select =>
      cases focus
      exact ⟨t'.select, congrArg Kind.select kind, covered.select⟩
    | deselect =>
      cases focus
      exact ⟨t'.deselect, e.kind_deselect.trans (congrArg Kind.deselect kind), covered.deselect⟩
    | _ => cases focus

theorem cover_run (ops : List Operation) (kind : e.kind = .textField t')
    (covered : t.Covered focused t') :
    ∃ t'', (run ops e).result.kind = .textField t'' ∧ t.Covered (focusAfter ops focused) t'' := by
  induction ops generalizing e t' focused with
  | nil => exact ⟨t', kind, covered⟩
  | cons op rest ih =>
    obtain ⟨next, same, step⟩ := cover_perform op kind covered
    exact ih same step

/-- The element has a censored text in the state `a` and is not selected: a host made the text with a
censor, and since then it was not selected or was left again. -/
def CensoredText (e : Element) (a : TextField) : Prop :=
  ∃ t ops, t.Made ∧ t.censor.isSome = true ∧ focusAfter ops false = false ∧
    (run ops (ofKind (.textField t))).result = e ∧ e.kind = .textField a

theorem CensoredText.veiled (censored : e.CensoredText a) : ∃ c, a.Veiled c := by
  obtain ⟨t, ops, made, censor, left, rfl, kind⟩ := censored
  have start : t.Covered false t := ⟨rfl, made.hidden_eq.trans (Bool.and_true _).symm⟩
  obtain ⟨a', same, frame, hidden⟩ := cover_run ops (e := ofKind (.textField t)) rfl start
  obtain rfl : a' = a := Kind.textField.inj (same.symm.trans kind)
  rw [left, censor] at hidden
  obtain ⟨c, shown⟩ := Option.isSome_iff_exists.mp censor
  exact ⟨c, (TextField.censor_of_frame frame).trans shown, hidden⟩

/-- Two censored texts of one length that are not selected and agree in all that shows but the characters
show the same: the censor as often as there are columns in the window. -/
theorem display_eq_of_censoredText (first : e.CensoredText a) (second : f.CensoredText b)
    (alike : a.Alike b) (mode : HourMode) (selected : Bool) :
    e.display mode selected = f.display mode selected ∧
      ∀ c ∈ a.censor, (e.display mode selected).text? = some (a.veil c) := by
  obtain ⟨c, va⟩ := first.veiled
  obtain ⟨d, vb⟩ := second.veiled
  obtain rfl : d = c := Option.some.inj (vb.censor.symm.trans (alike.censor.symm.trans va.censor))
  obtain ⟨_, _, _, _, _, _, ka⟩ := first
  obtain ⟨_, _, _, _, _, _, kb⟩ := second
  rw [display, display, ka, kb]
  refine ⟨alike.display_eq va vb selected, fun c own => ?_⟩
  obtain rfl : d = c := Option.some.inj (va.censor.symm.trans own)
  exact congrArg Display.text? (va.display selected)

/-- Types an exclamation mark behind the text and leaves it. -/
def emphasised : List Operation := [.select, .act .twelve .last, .act .twelve (.character '!'), .deselect]

/-- Looks at the text and leaves it. -/
def glanced : List Operation := [.select, .act .twelve .left, .deselect]

/-- A password that was typed cannot be told from one that was there all along. -/
theorem display_eq_of_passwords :
    (run emphasised (ofKind (.textField (.password "sesame")))).result.valueString = "sesame!" ∧
      (run glanced (ofKind (.textField (.password "letmein")))).result.display .twelve true =
        (run emphasised (ofKind (.textField (.password "sesame")))).result.display .twelve true := by
  let left (chars : List Char) (default : String) : TextField :=
    { TextField.password default with chars := chars, allMarked := false }
  have typed : CensoredText (run emphasised (ofKind (.textField (.password "sesame")))).result
      (left "sesame!".toList "sesame") :=
    ⟨_, emphasised, .password "sesame", rfl, rfl, rfl, by decide +kernel⟩
  have kept : CensoredText (run glanced (ofKind (.textField (.password "letmein")))).result
      (left "letmein".toList "letmein") :=
    ⟨_, glanced, .password "letmein", rfl, rfl, rfl, by decide +kernel⟩
  have alike : TextField.Alike (left "letmein".toList "letmein") (left "sesame!".toList "sesame") :=
    ⟨by decide, rfl, rfl, rfl, rfl, rfl⟩
  exact ⟨by decide +kernel, (display_eq_of_censoredText kept typed alike .twelve true).1⟩

end Element

end Settings
