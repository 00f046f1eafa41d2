import Settings.Proofs.Editor.TextCursor
import Settings.Proofs.Element.Closed
import Settings.Proofs.Element.Kind

/-!
# Texts along every run

Whatever is done to a text, its cursor stays in the text and in the window. Keys, gaining focus and
losing it keep the length of a text of fixed size, but for one case: a character that is typed while the
last one is still open comes behind the end.

* `Kind.Edited.textField`: what becomes of a text while the focus does not change.
* `Kind.closed_textField`: what edits of texts keep.
* `inView_run`: cursor and window after any run.
* `kind_perform_of_unreplaced`: what an operation does to a text that it does not replace.
* `rigid_perform`, `fixedSize_length_run`: the length of a text of fixed size after an operation and
  after a run.
-/
namespace Settings

/-- What may become of a text while the focus does not change. -/
inductive TextField.Edited (t : TextField) : TextField → Prop where
  | same : Edited t t
  | handle (a : Action) : Edited t (t.handle a).state
  | setText (text : String) : Edited t (t.setText text)

namespace Kind

theorem Edited.textField {edits : ValueEdit → Prop} {values : Value → Prop} {t : TextField} {k : Kind}
    (edited : (Kind.textField t).Edited edits values k) :
    ∃ t', k = .textField t' ∧ t.Edited t' := by
  cases edited with
  | same => exact ⟨t, rfl, .same⟩
  | handle mode a => exact ⟨_, rfl, .handle a⟩
  | edit _ done =>
    cases applied_of_apply done with
    | aside => exact ⟨t, rfl, .same⟩
    | setText text => exact ⟨_, rfl, .setText text⟩
  | decode read =>
    obtain ⟨t', inner, rfl⟩ := eq_ok_of_map_eq_ok read
    obtain ⟨taken, rfl⟩ := t.exists_setText_of_decode inner
    exact ⟨_, rfl, .setText taken⟩
  | assign _ taken =>
    obtain ⟨t', inner, rfl⟩ := eq_ok_of_map_eq_ok taken
    obtain ⟨text, rfl⟩ := t.exists_setText_of_assign inner
    exact ⟨_, rfl, .setText text⟩
  | reset => exact ⟨_, rfl, .setText t.default⟩
  | prepareSave => exact ⟨t, rfl, .same⟩
  | increment => exact ⟨t, rfl, .same⟩
  | decrement => exact ⟨t, rfl, .same⟩

/-- What every edit of texts keeps cannot be left. -/
theorem closed_textField {P : TextField → Prop}
    (handle : ∀ {t : TextField} (a : Action), P t → P (t.handle a).state)
    (setText : ∀ {t : TextField} (text : String), P t → P (t.setText text))
    (select : ∀ {t : TextField}, P t → P t.select)
    (deselect : ∀ {t : TextField}, P t → P t.deselect) :
    Closed (fun _ => True) (fun _ => True) fun k => ∃ t, k = .textField t ∧ P t := by
  apply Closed.of_edited
  · rintro k k' ⟨t, rfl, holds⟩ edited
    obtain ⟨t', same, edited⟩ := edited.textField
    cases edited with
    | same => exact ⟨t, same, holds⟩
    | handle a => exact ⟨_, same, handle a holds⟩
    | setText text => exact ⟨_, same, setText text holds⟩
  · rintro k ⟨t, rfl, holds⟩
    exact ⟨_, rfl, select holds⟩
  · rintro k ⟨t, rfl, holds⟩
    exact ⟨_, rfl, deselect holds⟩

end Kind

namespace Element

open TextField (scroll scroll?)

variable {t : TextField}

section Cursor

/-- Whatever is done to a text, it keeps what it was made with, and the cursor stays in place. -/
theorem framed_run (inView : t.InView) (isText : t.isNumber = false) (ops : List Operation) :
    ∃ t', (run ops (ofKind (.textField t))).result.kind = .textField t' ∧ t'.frame = t.frame ∧
      t'.InView := by
  have isText' {t' : TextField} (same : t'.frame = t.frame) : t'.isNumber = false :=
    (TextField.isNumber_of_frame same).trans isText
  have closed := Kind.closed_textField (P := fun t' => t'.frame = t.frame ∧ t'.InView)
    (fun {t'} a ⟨same, held⟩ => ⟨(t'.frame_handle a).trans same, held.handle (isText' same) a⟩)
    (fun {t'} text ⟨same, held⟩ =>
      ⟨(t'.frame_setText text).trans same, held.setText (isText' same) text⟩)
    (fun {t'} ⟨same, held⟩ => ⟨t'.frame_select.trans same, held.select⟩)
    (fun {t'} ⟨same, held⟩ => ⟨t'.frame_deselect.trans same, held.deselect⟩)
  exact closed.run (fun op _ => op.within_true) ⟨t, rfl, rfl, inView⟩

/-- Whatever is done to a text that a host made, the cursor stays in the text and the window shows it.
The differences that place the window and draw back the cursor are never below zero. -/
theorem inView_run (made : t.Made) (isText : t.isNumber = false) (ops : List Operation) :
    (∃ t', (run ops (ofKind (.textField t))).result.kind = .textField t' ∧
      t'.fixedSize = t.fixedSize ∧ t'.visibleWidth = t.visibleWidth ∧ t'.InView) ∧
    (∀ width length cursor offset,
      scroll? width length cursor offset = some (scroll width length cursor offset)) ∧
    ∀ u : TextField, u.backspace? = some u.backspace := by
  obtain ⟨t', reached, same, inView⟩ := framed_run made.fresh.inView isText ops
  have fixed := TextField.fixedSize_of_frame same
  have width := TextField.visibleWidth_of_frame same
  exact ⟨⟨t', reached, fixed, width, inView⟩, TextField.scroll?_eq_some,
    TextField.backspace?_eq_some⟩

/-- A window of four columns over eight characters. -/
def narrow : TextField := (TextField.make "abcdefgh").withVisibleWidth 4

/-- Goes to the end, types the last character anew, goes back by one, and gets a longer text. -/
def scrolledOps : List Operation :=
  [.act .twelve .last, .act .twelve .backspace, .act .twelve (.character 'z'), .act .twelve .left,
    .assignText "abcdefghij", .act .twelve .last]

theorem inView_run_scrolled :
    ∃ t', (run scrolledOps (ofKind (.textField narrow))).result.kind = .textField t' ∧
      t'.cursor = 10 ∧ t'.offset = 6 ∧ t'.InView := by
  have made : narrow.Made := .withVisibleWidth 4 _ (.make "abcdefgh")
  obtain ⟨⟨t', reached, _, _, inView⟩, _⟩ := inView_run made rfl scrolledOps
  have place : (run scrolledOps (ofKind (.textField narrow))).result.kind = .textField
      { narrow with
        chars := "abcdefghij".toList
        allMarked := false
        cursor := 10
        offset := 6 } := by decide +kernel
  rw [reached] at place
  cases place
  exact ⟨_, reached, rfl, rfl, inView⟩

end Cursor

section Length

/-- The operation puts another text in place of the one that is there. -/
def Operation.replacesText : Operation → Bool
  | .edit (.setText _) | .assignText _ | .assignValue _ | .load | .cancel => true
  | _ => false

/-- The operation types a character over the end of a text. -/
def overruns (op : Operation) (e : Element) : Bool :=
  match op, e.kind with
  | .act _ a, .textField t => e.enabled && t.overruns a
  | _, _ => false

/-- How often a run types over the end of a text. -/
def overrunCount : List Operation → Element → Nat
  | [], _ => 0
  | op :: ops, e => (e.overruns op).toNat + overrunCount ops (e.perform op).1.result

/-- What an operation does to a text that it does not replace. -/
def Operation.onText (op : Operation) (enabled : Bool) (t : TextField) : TextField :=
  match op with
  | .act _ a => if enabled then (t.handle a).state else t
  | .select => t.select
  | .deselect => t.deselect
  | _ => t

theorem kind_perform_of_unreplaced {e : Element} (shown : e.kind = .textField t) {op : Operation}
    (keeps : op.replacesText = false) :
    (e.perform op).1.result.kind = .textField (op.onText e.enabled t) := by
  cases op with
  | act mode a =>
    rw [perform, handle, Operation.onText]
    split
    · rw [shown]
      rfl
    · exact shown
  | edit change =>
    rw [perform, edit, shown]
    cases change with
    | setText text => cases keeps
    | _ => rfl
  | select =>
    rw [perform, select, shown]
    rfl
  | deselect =>
    rw [perform, deselect, shown]
    dsimp only
    split <;> rfl
  | save =>
    rw [perform, save, shown]
    rfl
  | increment =>
    rw [perform, increment, step, shown]
    exact shown
  | decrement =>
    rw [perform, decrement, step, shown]
    exact shown
  | assignText text => cases keeps
  | assignValue v => cases keeps
  | load => cases keeps
  | cancel => cases keeps
  | _ => exact shown

/-- What an operation makes of a text of fixed size, unless it replaces it. -/
theorem rigid_perform {e : Element} (shown : e.kind = .textField t) (rigid : t.Rigid) {op : Operation}
    (keeps : op.replacesText = false) :
    ∃ t', (e.perform op).1.result.kind = .textField t' ∧ t'.Rigid ∧
      t'.chars.length = t.chars.length + (e.overruns op).toNat := by
  refine ⟨op.onText e.enabled t, kind_perform_of_unreplaced shown keeps, ?_⟩
  cases op with
  | act mode a =>
    have counted : e.overruns (.act mode a) = (e.enabled && t.overruns a) := by
      unfold overruns
      rw [shown]
    rw [counted, Operation.onText]
    cases e.enabled with
    | true => exact ⟨rigid.handle a, rigid.length_handle a⟩
    | false => exact ⟨rigid, rfl⟩
  | select => exact ⟨⟨rigid.isText, rigid.fixed, rigid.onCharacter⟩, rfl⟩
  | deselect =>
    exact ⟨⟨rigid.isText, rigid.fixed, Nat.zero_lt_of_lt rigid.onCharacter⟩, rfl⟩
  | _ => exact ⟨rigid, rfl⟩

/-- Along a run, every character that was typed over the end makes the text longer. -/
theorem rigid_run {e : Element} (shown : e.kind = .textField t) (rigid : t.Rigid)
    {ops : List Operation} (keeps : ∀ op ∈ ops, op.replacesText = false) :
    ∃ t', (run ops e).result.kind = .textField t' ∧ t'.Rigid ∧
      t'.chars.length = t.chars.length + overrunCount ops e := by
  induction ops generalizing e t with
  | nil => exact ⟨t, shown, rigid, rfl⟩
  | cons op rest ih =>
    obtain ⟨first, others⟩ := List.forall_mem_cons.mp keeps
    obtain ⟨acted, reached, rigid', length⟩ := rigid_perform shown rigid first
    obtain ⟨t', done, rigid'', length'⟩ := ih reached rigid' others
    refine ⟨t', done, rigid'', ?_⟩
    rw [length', length, overrunCount, Nat.add_assoc]

/-- A text of fixed size has the length of its default, and a character more for each one that was typed
over its end. -/
theorem fixedSize_length_run (made : t.Made) (isText : t.isNumber = false)
    (fixed : t.fixedSize = true) (proper : t.default ≠ "") {ops : List Operation}
    (keeps : ∀ op ∈ ops, op.replacesText = false) :
    ∃ t', (run ops (ofKind (.textField t))).result.kind = .textField t' ∧
      t'.chars.length = t.default.length + overrunCount ops (ofKind (.textField t)) := by
  have rigid := made.fresh.rigid isText fixed proper
  have shown : (ofKind (.textField t)).kind = .textField t := rfl
  obtain ⟨t', reached, _, length⟩ := rigid_run shown rigid keeps
  rw [made.fresh.chars, String.length_toList] at length
  exact ⟨t', reached, length⟩

/-- Two characters of fixed size, with a helper that leaves the character of the first key open. -/
def multiTap : TextField :=
  ((TextField.make "ab").withFixedSize true).withInput ⟨[⟨'x', false, false, false⟩], [false, true]⟩

/-- Types a key on the last character, and then a character while that one is open. -/
def hurriedOps : List Operation :=
  [.act .twelve .last, .act .twelve (.digit 2), .act .twelve (.character 'y')]

theorem made_multiTap : multiTap.Made := .withInput _ _ (.withFixedSize true _ (.make "ab"))

theorem fixedSize_length_run_hurried :
    ∃ t', (run (hurriedOps ++ [.deselect, .select]) (ofKind (.textField multiTap))).result.kind =
        .textField t' ∧
      t'.chars.length = 3 := by
  have keeps : ∀ op ∈ hurriedOps ++ [.deselect, .select], op.replacesText = false := by decide
  obtain ⟨t', reached, length⟩ := fixedSize_length_run made_multiTap rfl rfl (by decide) keeps
  have once : overrunCount (hurriedOps ++ [.deselect, .select]) (ofKind (.textField multiTap)) = 1 := by
    decide +kernel
  rw [once] at length
  exact ⟨t', reached, length⟩

/-- The second character passes the open one, which was the last, and comes behind the end. -/
theorem open_last_overrun :
    ¬ ∀ (t t' : TextField) (ops : List Operation), t.Made → t.isNumber = false → t.fixedSize = true →
      t.default ≠ "" →
      (∀ op ∈ ops, (∃ mode a, op = .act mode a) ∨ op = .select ∨ op = .deselect) →
      (run ops (ofKind (.textField t))).result.kind = .textField t' →
      t'.chars.length = t.default.length := by
  intro kept
  have acts : ∀ op ∈ hurriedOps, (∃ mode a, op = .act mode a) ∨ op = .select ∨ op = .deselect := by
    intro op member
    simp only [hurriedOps, List.mem_cons, List.not_mem_nil, or_false] at member
    rcases member with rfl | rfl | rfl <;> exact .inl ⟨_, _, rfl⟩
  have grown : (run hurriedOps (ofKind (.textField multiTap))).result.kind = .textField
      { multiTap with chars := ['a', 'x', 'y'], allMarked := false, cursor := 2, input := .digits } := by
    decide +kernel
  have two := kept multiTap _ hurriedOps made_multiTap rfl rfl (by decide) acts grown
  exact absurd two (by decide)

end Length

end Element

end Settings
