import Settings.Proofs.Editor.NumberField
import Settings.Proofs.Element.Typing

/-!
# Numbers along every run

A number that is typed shows a numeral, whatever keys it gets and whatever its helper answers, and its
string form is that numeral unless it is too large. A number that gains focus starts from zero, and from
there on digits and deletions do decimal arithmetic.

* `unreplaced_run`: what edit actions and changes of focus keep.
* `anchored_run`: window and cursor of every number after any run.
* `numeral_run`: the text and the string form of a number.
* `accumulated_run`: digits and deletions behind a selection.
-/
namespace Settings.Element

variable {t : TextField} {e : Element}

/-- What edit actions and changes of focus keep is kept as long as the text is not replaced. -/
theorem unreplaced_run {P : TextField → Prop}
    (handle : ∀ {t : TextField} (a : Action), P t → P (t.handle a).state)
    (select : ∀ {t : TextField}, P t → P t.select)
    (deselect : ∀ {t : TextField}, P t → P t.deselect)
    (shown : e.kind = .textField t) (holds : P t) {ops : List Operation}
    (keeps : ∀ op ∈ ops, op.replacesText = false) :
    ∃ t', (run ops e).result.kind = .textField t' ∧ P t' := by
  induction ops generalizing e t with
  | nil => exact ⟨t, shown, holds⟩
  | cons op rest ih =>
    obtain ⟨first, others⟩ := List.forall_mem_cons.mp keeps
    have kept : P (op.onText e.enabled t) := by
      cases op with
      | act mode a =>
        rw [Operation.onText]
        split
        · exact handle a holds
        · exact holds
      | select => exact select holds
      | deselect => exact deselect holds
      | _ => exact holds
    exact ih (kind_perform_of_unreplaced shown first) kept others

/-- Whatever is done to a number, it keeps what it was made with, its window stays on the first columns,
and its cursor in its digits. -/
theorem anchored_run (made : t.Made) (isNumber : t.isNumber = true) (ops : List Operation) :
    ∃ t', (run ops (ofKind (.textField t))).result.kind = .textField t' ∧ t'.frame = t.frame ∧
      t'.Anchored := by
  have closed := Kind.closed_textField (P := fun t' => t'.frame = t.frame ∧ t'.Anchored)
    (fun {t'} a ⟨same, held⟩ => ⟨(t'.frame_handle a).trans same, held.handle a⟩)
    (fun {t'} text ⟨same, held⟩ => ⟨(t'.frame_setText text).trans same, held.setText text⟩)
    (fun {t'} ⟨same, held⟩ => ⟨t'.frame_select.trans same, held.select⟩)
    (fun {t'} ⟨same, held⟩ => ⟨t'.frame_deselect.trans same, held.deselect⟩)
  exact closed.run (fun op _ => op.within_true) ⟨t, rfl, rfl, made.anchored isNumber⟩

section Numeral

/-- A number whose text is not replaced consists of digits without superfluous zeros, and its string form
is its text unless that is too large, and then its default. -/
theorem numeral_run (made : t.Made) (isNumber : t.isNumber = true) (free : t.fixedSize = false)
    {n : Nat} (unsigned : t.default = Numeral.text n) {ops : List Operation}
    (keeps : ∀ op ∈ ops, op.replacesText = false) :
    ∃ t', (run ops (ofKind (.textField t))).result.kind = .textField t' ∧
      t'.chars ≠ [] ∧ (∀ c ∈ t'.chars, c.isDigit = true) ∧
      (t'.chars.head? = some '0' → t'.chars = ['0']) ∧
      t'.cursor ≤ t'.chars.length ∧
      (run ops (ofKind (.textField t))).result.valueString =
        if Numeral.InRange (Nat.ofDigitChars 10 t'.chars 0 : Nat) then t'.text
        else Numeral.text n := by
  have shown : (ofKind (.textField t)).kind = .textField t := rfl
  obtain ⟨t', reached, same, numeric⟩ :=
    unreplaced_run (P := fun t' => t'.setup = t.setup ∧ t'.Numeric)
      (fun {t'} a ⟨same, held⟩ => ⟨(t'.setup_handle a).trans same, held.handle a⟩)
      (fun ⟨same, held⟩ => ⟨same, held.select⟩)
      (fun ⟨same, held⟩ => ⟨same, held.deselect⟩)
      shown ⟨rfl, made.numeric isNumber free unsigned⟩ keeps
  obtain ⟨m, numeral⟩ := numeric.numeral
  have plain := Numeral.plain_digits m
  have encoded := TextField.encode_of_numeral numeric.isNumber numeral
  rw [TextField.default_of_setup same, unsigned] at encoded
  refine ⟨t', reached, ?_, numeric.isDigit, ?_, numeric.inside, ?_⟩
  · rw [numeral]
    exact Numeral.digits_ne_nil m
  · rw [numeral]
    exact plain.2
  · rw [valueString, reached, numeral, Numeral.ofDigitChars_digits]
    exact encoded

/-- Types one digit more than numbers of 64 bits have. -/
def overfullOps : List Operation :=
  .select :: List.replicate 19 (.act .twelve (.digit 9)) ++ [.deselect, .select]

/-- The digits of a number that is too large stay, its string form is the default. -/
theorem numeral_run_overfull :
    ∃ t', (run overfullOps (ofKind (.textField (.number 107)))).result.kind = .textField t' ∧
      t'.chars = List.replicate 19 '9' ∧
      (run overfullOps (ofKind (.textField (.number 107)))).result.valueString = "107" := by
  have keeps : ∀ op ∈ overfullOps, op.replacesText = false := by decide
  have made : (TextField.number 107).Made := .number 107 (by decide)
  obtain ⟨t', reached, _, _, _, _, form⟩ := numeral_run (n := 107) made rfl rfl rfl keeps
  have typed : (run overfullOps (ofKind (.textField (.number 107)))).result.kind = .textField
      { TextField.number 107 with chars := List.replicate 19 '9' } := by decide +kernel
  rw [reached] at typed
  cases typed
  refine ⟨_, reached, rfl, form.trans ?_⟩
  decide +kernel

end Numeral

section Accumulating

/-- A number with the plain helper that gains focus, after any run, counts from zero: each digit comes
behind the others, and each deletion backwards takes the last one away. The cursor is behind the digits,
and the string form is the numeral unless it is too large. -/
theorem accumulated_run (made : t.Made) (isNumber : t.isNumber = true) (free : t.fixedSize = false)
    (plain : t.input = .digits) {ops : List Operation}
    (enabled : (run ops (ofKind (.textField t))).result.enabled = true) {keys : List Action}
    (proper : keys ≠ []) (edit : ∀ a ∈ keys, a.EditsNumber) (mode : HourMode) :
    ∃ t', (run (ops ++ .select :: keys.map (.act mode)) (ofKind (.textField t))).result.kind =
        .textField t' ∧
      t'.chars = Numeral.digits (keys.foldl Action.accumulate 0) ∧
      t'.cursor = t'.chars.length ∧
      (Numeral.InRange (keys.foldl Action.accumulate 0 : Nat) →
        (run (ops ++ .select :: keys.map (.act mode)) (ofKind (.textField t))).result.valueString =
          Numeral.text (keys.foldl Action.accumulate 0 : Nat)) := by
  obtain ⟨u, reached, same, anchored⟩ := anchored_run made isNumber ops
  obtain ⟨_, helped, plain'⟩ := plain_run plain ops
  cases Kind.textField.inj (helped.symm.trans reached)
  have free' := (TextField.fixedSize_of_frame same).trans free
  have counted := (anchored.counting_select free' plain').handleAll proper edit
  have focused : (run ops (ofKind (.textField t))).result.select.kind = .textField u.select := by
    rw [select, reached]
    rfl
  have typed : (run (ops ++ .select :: keys.map (.act mode)) (ofKind (.textField t))).result.kind =
      .textField (u.select.handleAll keys) := by
    rw [run_append]
    exact (run_acts focused enabled mode keys).1
  refine ⟨u.select.handleAll keys, typed, counted.chars, counted.cursor, fun small => ?_⟩
  have encoded := TextField.encode_of_numeral counted.isNumber counted.chars
  rw [valueString, typed, Numeral.text_natCast, ← counted.chars]
  exact encoded.trans (if_pos small)

/-- Four, two, back, and seven, behind a zero that does not count. -/
def countingKeys : List Action := [.digit 0, .character '4', .digit 2, .backspace, .digit 7]

theorem accumulated_run_counting :
    ∃ t', (run ([.act .twelve .right, .save] ++ .select :: countingKeys.map (.act .twelve))
        (ofKind (.textField (.number 12)))).result.kind = .textField t' ∧
      t'.chars = ['4', '7'] ∧ t'.cursor = 2 ∧
      (run ([.act .twelve .right, .save] ++ .select :: countingKeys.map (.act .twelve))
        (ofKind (.textField (.number 12)))).result.valueString = "47" := by
  have made : (TextField.number 12).Made := .number 12 (by decide)
  have enabled : (run [.act .twelve .right, .save]
      (ofKind (.textField (.number 12)))).result.enabled = true := by decide +kernel
  have edit : ∀ a ∈ countingKeys, a.EditsNumber := by decide
  have small : Numeral.InRange (countingKeys.foldl Action.accumulate 0 : Nat) := by decide
  obtain ⟨t', reached, chars, cursor, form⟩ :=
    accumulated_run made rfl rfl rfl enabled (List.cons_ne_nil _ _) edit .twelve
  refine ⟨t', reached, chars, ?_, form small⟩
  rw [cursor, chars]
  rfl

end Accumulating

end Settings.Element
