import Settings.Proofs.Editor.Censor
import Settings.Proofs.Element.Bounds

/-!
# Censored elements

Whatever is done to a sequence with a censor, it is hidden exactly as long as it is not selected. Two
such elements that differ only in their fields cannot be told apart if they are edited digit by digit.
If they are edited in blocks or are clocks, they can, since these styles show the fields in any case.

* `covered_perform`: what one operation does to the cover.
* `covered_run`: and what a run does.
* `display_eq_iff_of_censored`: when two censored elements look the same.
-/
namespace Settings

variable {s s' a b : Sequence} {e f : Element} {focused : Bool}

/-- What became of a sequence still has its censor, and is hidden behind it without the focus. -/
structure Sequence.Covered (s : Sequence) (focused : Bool) (s' : Sequence) : Prop where
  moves : s.Moves s'
  censor : s'.censor = s.censor
  hidden : s'.hidden = (s.censor.isSome && !focused)

namespace Element

/-- Whether an element has the focus after operations, if it had it before them or not. -/
def focusAfter (ops : List Operation) (focused : Bool) : Bool :=
  ops.foldl (fun focused op => op.focus?.getD focused) focused

/-- Selecting uncovers the sequence, leaving it covers it again, and nothing else does either. -/
theorem covered_perform (op : Operation) (kind : e.kind = .sequence s')
    (covered : s.Covered focused s') :
    ∃ s'', (e.perform op).1.result.kind = .sequence s'' ∧
      s.Covered (op.focus?.getD focused) s'' := by
  obtain ⟨moves, censor, hidden⟩ := covered
  cases focus : op.focus? with
  | none =>
    have edited := edited_perform op.within_true focus e
    rw [kind] at edited
    obtain ⟨s'', same, next, frame⟩ := edited.sequence
    obtain ⟨censor', hidden', _⟩ := Sequence.looks_of_frame frame
    exact ⟨s'', same, moves.trans next, censor'.trans censor, hidden'.trans hidden⟩
  | some now =>
    cases op with
    | select =>
      cases focus
      refine ⟨s'.select, congrArg Kind.select kind, moves.trans s'.moves_select, censor, ?_⟩
      exact (Bool.and_false _).symm
    | deselect =>
      cases focus
      refine ⟨s'.deselect, ?_, moves.trans s'.moves_deselect, censor, ?_⟩
      · exact e.kind_deselect.trans (congrArg Kind.deselect kind)
      · rw [← censor]
        exact (Bool.and_true _).symm
    | _ => cases focus

theorem covered_run (ops : List Operation) (kind : e.kind = .sequence s')
    (covered : s.Covered focused s') :
    ∃ s'', (run ops e).result.kind = .sequence s'' ∧ s.Covered (focusAfter ops focused) s'' := by
  induction ops generalizing e s' focused with
  | nil => exact ⟨s', kind, covered⟩
  | cons op rest ih =>
    obtain ⟨next, same, step⟩ := covered_perform op kind covered
    exact ih same step

/-- The element has a censored sequence in the state `a` and is not selected: a host made the sequence
with a censor, and since then it was not selected or was left again. -/
def Censored (e : Element) (a : Sequence) : Prop :=
  ∃ s ops, s.Made ∧ s.censor.isSome = true ∧ focusAfter ops false = false ∧
    (run ops (ofKind (.sequence s))).result = e ∧ e.kind = .sequence a

theorem Censored.veiled (censored : e.Censored a) : a.Veiled := by
  obtain ⟨s, ops, made, censor, left, rfl, kind⟩ := censored
  obtain ⟨hidden, separates⟩ := made.formed.looks
  have start : s.Covered false s := ⟨.refl s, rfl, hidden.trans (Bool.and_true _).symm⟩
  obtain ⟨a', same, moves, censor', hidden'⟩ := covered_run ops (e := ofKind (.sequence s)) rfl start
  obtain rfl : a' = a := Kind.sequence.inj (same.symm.trans kind)
  rw [left] at hidden'
  refine ⟨(made.steady.moves moves).sound, by rw [censor', censor], by rw [hidden', censor]; rfl, ?_⟩
  intro style
  rw [moves.follows.setup.separator]
  exact separates fun own => style (Sequence.positional_of_manner moves.manner own)

/-- Two censored elements that are not selected and differ only in their fields show the same text, and
the same display, exactly if they are edited digit by digit or have the same fields after all. -/
theorem display_eq_iff_of_censored (first : e.Censored a) (second : f.Censored b) (alike : a.Alike b)
    (enabled : e.enabled = f.enabled) (mode : HourMode) (selected : Bool) :
    (a.text mode = b.text mode ↔ a.style = .positional ∨ a.value = b.value) ∧
      (e.display mode selected = f.display mode selected ↔
        a.style = .positional ∨ a.value = b.value) := by
  have va := first.veiled
  have vb := second.veiled
  obtain ⟨_, _, _, _, _, _, ka⟩ := first
  obtain ⟨_, _, _, _, _, _, kb⟩ := second
  constructor
  · exact alike.text_eq_iff va vb
  · rw [display, display, ka, kb, enabled]
    exact alike.display_eq_iff va vb selected f.enabled

/-- A personal number of four digits behind stars. -/
def starredPin (n : Int) : Sequence :=
  ((Sequence.ofLimits ':' [⟨0, 9999⟩] [n]).censored '*').asScalar

theorem made_starredPin (n : Int) : (starredPin n).Made := .pin n 4 '*' _ rfl

/-- Types a digit and leaves the element. -/
def visit : List Operation := [.select, .act .twelve (.digit 7), .deselect]

/-- What was typed during the visit cannot be told from what another element had all along. -/
theorem display_eq_of_starredPin :
    let e := (run visit (ofKind (.sequence (starredPin 1234)))).result
    let f := (run [.act .twelve .right] (ofKind (.sequence (starredPin 5678)))).result
    e.toValue = .int 7234 ∧ f.toValue = .int 5678 ∧ e.display .twelve true = f.display .twelve true := by
  intro e f
  have first : e.Censored { starredPin 1234 with value := [7234], cursor := 1 } :=
    ⟨_, _, made_starredPin 1234, rfl, rfl, rfl, by decide⟩
  have second : f.Censored { starredPin 5678 with cursor := 1 } :=
    ⟨_, _, made_starredPin 5678, rfl, rfl, rfl, by decide⟩
  have alike : Sequence.Alike { starredPin 1234 with value := [7234], cursor := 1 }
      { starredPin 5678 with cursor := 1 } := ⟨rfl, rfl, rfl, rfl, rfl⟩
  obtain ⟨_, displays⟩ := display_eq_iff_of_censored first second alike rfl .twelve true
  exact ⟨by decide, by decide, displays.mpr (.inl rfl)⟩

/-- A clock shows the time through its censor. -/
theorem clock_seen_through_censor :
    ¬ ∀ (e f : Element) (a b : Sequence) (mode : HourMode) (selected : Bool), e.Censored a →
      f.Censored b → a.Alike b → e.enabled = f.enabled →
      a.text mode = b.text mode ∧ e.display mode selected = f.display mode selected := by
  intro covered
  have unused (hour minute : Int) : Censored
      (ofKind (.sequence ((Sequence.clock hour minute).censored '*')))
      ((Sequence.clock hour minute).censored '*') :=
    ⟨_, [], .censored '*' _ (.clock hour minute), rfl, rfl, rfl, rfl⟩
  have alike : Sequence.Alike ((Sequence.clock 10 0).censored '*')
      ((Sequence.clock 23 59).censored '*') := ⟨rfl, rfl, rfl, rfl, rfl⟩
  have same := covered _ _ _ _ .twentyFour false (unused 10 0) (unused 23 59) alike rfl
  exact absurd same.1 (by decide)

end Element

end Settings
