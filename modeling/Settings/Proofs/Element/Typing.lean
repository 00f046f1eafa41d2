import Settings.Proofs.Editor.Typing
import Settings.Proofs.Element.TextField

/-!
# Typing after every run

Whatever was done to a text, what is typed into it stands at the cursor, and as many deletions backwards
bring back what was there.

* `run_acts`: runs of edit actions.
* `plain_run`: the plain helper stays.
* `typing_taken_back`: typing and deleting backwards.
-/
namespace Settings.Element

variable {t : TextField} {e : Element}

/-- An enabled text handles the edit actions of a run, one after the other. -/
theorem run_acts (shown : e.kind = .textField t) (enabled : e.enabled = true) (mode : HourMode)
    (actions : List Action) :
    (run (actions.map (.act mode)) e).result.kind = .textField (t.handleAll actions) ∧
      (run (actions.map (.act mode)) e).result.enabled = true := by
  induction actions generalizing e t with
  | nil => exact ⟨shown, enabled⟩
  | cons a rest ih =>
    have acted : (e.perform (.act mode a)).1.result =
        { e with kind := .textField (t.handle a).state } := by
      rw [perform, handle, if_pos enabled, shown]
      rfl
    have first : (e.perform (.act mode a)).1.result.kind = .textField (t.handle a).state := by
      rw [acted]
    have ready : (e.perform (.act mode a)).1.result.enabled = true := by
      rw [acted]
      exact enabled
    exact ih first ready

/-- Whatever is done to a text with the plain helper, it keeps that helper. -/
theorem plain_run (plain : t.input = .digits) (ops : List Operation) :
    ∃ t', (run ops (ofKind (.textField t))).result.kind = .textField t' ∧ t'.input = .digits := by
  have closed := Kind.closed_textField (P := fun t' => t'.input = .digits)
    (fun a held => TextField.input_handle held a)
    (fun {t'} text held => (t'.input_setText text).trans held)
    (fun {t'} held => t'.input_select.trans held)
    (fun held => TextField.input_deselect held)
  exact closed.run (fun op _ => op.within_true) ⟨t, rfl, plain⟩

/-- What is typed into a text after any run stands between what was before the cursor and what was behind
it, and the cursor behind what was typed. As many deletions backwards bring text and cursor back. -/
theorem typing_taken_back (made : t.Made) (isText : t.isNumber = false) (free : t.fixedSize = false)
    (plain : t.input = .digits) {ops : List Operation} {u : TextField}
    (reached : (run ops (ofKind (.textField t))).result.kind = .textField u)
    (enabled : (run ops (ofKind (.textField t))).result.enabled = true)
    (inserts : u.overwrite = false) (unmarked : u.allMarked = false) {keys : List Action}
    {w : List Char} (types : Action.Types keys w) (mode : HourMode) :
    ∃ typed back,
      (run (ops ++ keys.map (.act mode)) (ofKind (.textField t))).result.kind = .textField typed ∧
      typed.chars = u.chars.take u.cursor ++ w ++ u.chars.drop u.cursor ∧
      typed.cursor = u.cursor + w.length ∧
      (run (ops ++ (keys ++ List.replicate w.length Action.backspace).map (.act mode))
        (ofKind (.textField t))).result.kind = .textField back ∧
      back.chars = u.chars ∧ back.cursor = u.cursor := by
  obtain ⟨_, framed, same, inView⟩ := framed_run made.fresh.inView isText ops
  obtain ⟨_, helped, plain'⟩ := plain_run plain ops
  cases Kind.textField.inj (framed.symm.trans reached)
  cases Kind.textField.inj (helped.symm.trans reached)
  have size := List.length_take_of_le inView.inside
  have between := inView.between ((TextField.isNumber_of_frame same).trans isText)
    ((TextField.fixedSize_of_frame same).trans free) plain' inserts unmarked
  have typed := between.handleAll_typing types
  have back := typed.handleAll_backspace
  refine ⟨u.handleAll keys, (u.handleAll keys).handleAll (List.replicate w.length .backspace), ?_,
    typed.chars, ?_, ?_, ?_, ?_⟩
  · rw [run_append]
    exact (run_acts reached enabled mode keys).1
  · rw [typed.cursor, List.length_append, size]
  · rw [run_append, ← TextField.handleAll_append]
    exact (run_acts reached enabled mode _).1
  · rw [back.chars, List.take_append_drop]
  · rw [back.cursor, size]

/-- A window of three columns over four characters. -/
def peephole : TextField := (TextField.make "halo").withVisibleWidth 3

/-- Goes two characters back from the end. -/
def innerOps : List Operation :=
  [.act .twelve .last, .act .twelve .left, .act .twelve .left]

/-- A digit by its key, and two characters. -/
def mixedKeys : List Action := [.digit 7, .character 'w', .character '=']

theorem typing_taken_back_inner :
    ∃ typed back,
      (run (innerOps ++ mixedKeys.map (.act .twelve)) (ofKind (.textField peephole))).result.kind =
        .textField typed ∧
      typed.chars = "ha7w=lo".toList ∧ typed.cursor = 5 ∧
      (run (innerOps ++ (mixedKeys ++ List.replicate 3 Action.backspace).map (.act .twelve))
        (ofKind (.textField peephole))).result.kind = .textField back ∧
      back.chars = "halo".toList ∧ back.cursor = 2 := by
  have made : peephole.Made := .withVisibleWidth 3 _ (.make "halo")
  have reached : (run innerOps (ofKind (.textField peephole))).result.kind =
      .textField { peephole with allMarked := false, cursor := 2, offset := 1 } := by decide +kernel
  have enabled : (run innerOps (ofKind (.textField peephole))).result.enabled = true := by
    decide +kernel
  have types : Action.Types mixedKeys ['7', 'w', '='] := by decide
  exact typing_taken_back made rfl rfl rfl reached enabled rfl rfl types .twelve

end Settings.Element
