import Mathlib.Data.List.DropRight
import Mathlib.Data.List.Induction
import Settings.Proofs.Element.Closed
import Settings.Proofs.Element.Notices

/-!
# Final changes

A final change is a difference between two values: the one that an element has when it loses the focus
and the one that it had when its focus last changed, or when it was made. What lies between does not
matter. Besides, hosts may ask for final notices on saving and cancelling, or give them themselves.

* `counts_after`: what becomes of the value that final changes count from.
* `lastValue_reached`, `reportsClosing_reached`: the same for whole histories.
* `final_told_if_due`: when the observers of final changes are told.
-/
namespace Settings.Element

/-- What a host does with an element. -/
inductive Event where
  | operation (op : Operation)
  /-- A direct edit of the host's own, which may leave any kind behind. -/
  | edit (kind : Kind)

/-- Whether the host asks for final notices on saving and cancelling; `none` if it says nothing. -/
def Operation.closing? : Operation → Option Bool
  | .setReportsClosing on => some on
  | _ => none

/-- What a new observer is told at once, if it wants to. -/
def Operation.greeting (shown : String) : Operation → List Notice
  | .subscribe observer true _ context => [.value observer shown context]
  | _ => []

namespace Event

def after : Event → Element → Element
  | .operation op, e => (e.perform op).1.result
  | .edit kind, e => (changed { e with kind := kind }).result

def focus? : Event → Option Bool
  | .operation op => op.focus?
  | .edit _ => none

def closing? : Event → Option Bool
  | .operation op => op.closing?
  | .edit _ => none

end Event

/-- The element after all that has happened to it, one event after the other. -/
def reached (events : List Event) (e : Element) : Element :=
  events.foldl (fun e event => event.after e) e

/-- What happened up to the last change of the focus; nothing if there was none. -/
def untilFocus (events : List Event) : List Event :=
  events.rdropWhile fun event => event.focus?.isNone

/-- The value when the focus of an element last changed, or when the element was made. -/
def focusValue (kind : Kind) (events : List Event) : String :=
  (reached (untilFocus events) (ofKind kind)).valueString

/-- What the host last asked for on saving and cancelling; no notices if it never did. -/
def asksForClosing (events : List Event) : Bool :=
  (events.reverse.findSome? Event.closing?).getD false

/-- Whether an operation is a final change for an element with a history. -/
def finalDue (kind : Kind) (events : List Event) : Operation → Bool
  | .deselect => (reached events (ofKind kind)).valueString != focusValue kind events
  | .save | .cancel => asksForClosing events
  | .changedFinal => true
  | _ => false

/-- What becomes of the value that final changes count from, and of the notices on saving and
cancelling, by whether the focus changes and by what the host asks for. -/
structure Counts (focus closing : Option Bool) (e e' : Element) : Prop where
  aside : focus = none → e'.lastValue = e.lastValue
  focused : focus ≠ none → e'.lastValue = e'.valueString
  closing : e'.reportsClosing = closing.getD e.reportsClosing

variable {op : Operation} {e e' : Element}

section Operations

theorem counts_aside (value : e'.lastValue = e.lastValue)
    (closing : e'.reportsClosing = e.reportsClosing) : Counts none none e e' :=
  ⟨fun _ => value, fun focus => absurd rfl focus, closing⟩

/-- Losing the focus leaves the value behind that the element has then, told or not. -/
theorem counts_deselect (e : Element) : Counts (some false) none e e.deselect.result := by
  constructor
  · intro aside
    cases aside
  · intro _
    unfold deselect
    dsimp only
    split
    · -- Nobody is told and nothing is written, since the two values agree.
      next unchanged => exact unchanged.symm
    · rfl
  · unfold deselect
    dsimp only
    split <;> rfl

theorem counts_perform (op : Operation) (e : Element) :
    Counts op.focus? op.closing? e (e.perform op).1.result := by
  have kindOnly := fun acts => @exists_kind_perform op acts e
  cases op with
  | act | edit | assignText | assignValue | increment | decrement | load | cancel | changed
  | changedFinal =>
    obtain ⟨k, same⟩ := kindOnly trivial
    rw [same]
    exact counts_aside rfl rfl
  | select => exact ⟨fun aside => absurd aside (Option.some_ne_none true), fun _ => rfl, rfl⟩
  | deselect => exact counts_deselect e
  | setReportsClosing on => exact ⟨fun _ => rfl, fun focus => absurd rfl focus, rfl⟩
  | _ => exact counts_aside rfl rfl

theorem counts_after (event : Event) (e : Element) :
    Counts event.focus? event.closing? e (event.after e) := by
  cases event with
  | operation op => exact counts_perform op e
  | edit kind => exact counts_aside rfl rfl

end Operations

section Histories

theorem reached_concat (events : List Event) (event : Event) (e : Element) :
    reached (events ++ [event]) e = event.after (reached events e) :=
  List.foldl_append

/-- An element remembers the value that it had when its focus last changed. -/
theorem lastValue_reached (kind : Kind) (events : List Event) :
    (reached events (ofKind kind)).lastValue = focusValue kind events := by
  unfold focusValue untilFocus
  -- The history is taken apart at its end, where the last change of the focus is looked for.
  induction events using List.reverseRecOn with
  | nil => rfl
  | append_singleton events event ih =>
    have counts := counts_after event (reached events (ofKind kind))
    rw [List.rdropWhile_concat]
    cases focus : event.focus? with
    | none =>
      simp only [Option.isNone_none, if_true]
      rw [reached_concat, counts.aside focus]
      exact ih
    | some given =>
      simp only [Option.isNone_some, Bool.false_eq_true, if_false]
      rw [reached_concat]
      apply counts.focused
      simp [focus]

/-- An element does on saving and cancelling what the host last asked for. -/
theorem reportsClosing_reached (kind : Kind) (events : List Event) :
    (reached events (ofKind kind)).reportsClosing = asksForClosing events := by
  unfold asksForClosing
  induction events using List.reverseRecOn with
  | nil => rfl
  | append_singleton events event ih =>
    have counts := counts_after event (reached events (ofKind kind))
    rw [reached_concat, counts.closing, ih, List.reverse_concat, List.findSome?_cons]
    cases event.closing? <;> rfl

end Histories

/-- A new subscription is heard by its own observer at most, the end of one by nobody. -/
theorem notices_perform_of_subscriptions (changes : ¬ op.KeepsSubscriptions) :
    (e.perform op).1.notices = op.greeting e.valueString := by
  cases op with
  | subscribe observer initial noticeClass context => cases initial <;> rfl
  | subscribeEdge | unsubscribe | clearSubscriptions => rfl
  | _ => exact absurd trivial changes

/-- A final change is announced exactly when it is due. -/
theorem final_announcement {kind : Kind} {events : List Event}
    (arrived : reached events (ofKind kind) = e) (op : Operation) :
    (e.announcement op).final = finalDue kind events op := by
  have closing : e.reportsClosing = asksForClosing events := by
    rw [← arrived, reportsClosing_reached]
  cases op with
  | act mode a =>
    rw [announcement]
    split <;> rfl
  | save => exact closing
  | cancel => exact closing
  | deselect =>
    have same : e.kind.deselect.encode = e.valueString := e.kind.encode_deselect
    have since : e.lastValue = focusValue kind events := by
      rw [← arrived, lastValue_reached]
    rw [announcement, finalDue, arrived, same, since]
  | _ => rfl

/-- Whatever has happened to an element since it was made, the observers of final changes are told, once
each and last of all, by exactly these operations: the loss of the focus, if the value is another one
than when the focus last changed or the element was made; saving and cancelling, if the host asked for
that last; and the host's own call. Nothing else tells them: a new subscription is heard by its own
observer at most, a direct edit by the immediate observers. -/
theorem final_told_if_due {kind : Kind} {events : List Event} {e : Element}
    (arrived : reached events (ofKind kind) = e) :
    (∀ op : Operation, op.KeepsSubscriptions →
      (e.perform op).1.notices =
          (e.announcement op).notices (e.perform op).1.result.valueString e.registry ∧
        (e.announcement op).final = finalDue kind events op) ∧
    (∀ op : Operation, ¬ op.KeepsSubscriptions →
      (e.perform op).1.notices = op.greeting e.valueString) ∧
    ∀ k : Kind, (changed { e with kind := k }).notices = e.registry.notices .immediate k.encode := by
  refine ⟨fun op keeps => ?_, fun op changes => ?_, fun _ => rfl⟩
  · exact ⟨(accounts_perform keeps e).notices, final_announcement arrived op⟩
  · exact notices_perform_of_subscriptions changes

/-- A lamp that was switched on under the focus, switched off by loading and on again by its host, which
first asked for notices on saving and then took that back. -/
def lampEvents : List Event :=
  [.operation (.subscribe 4 true .final none), .operation (.setReportsClosing true),
    .operation .select, .operation (.act .twelve .toggle), .operation .load,
    .edit (.switch { Switch.onOff false with value := true }),
    .operation (.setReportsClosing false)]

/-- The lamp is on when it loses the focus, which is told once. Saving it is no final change. -/
theorem final_told_lamp :
    ∃ e, reached lampEvents (ofKind (.switch (.onOff false))) = e ∧
      finalDue (.switch (.onOff false)) lampEvents .deselect = true ∧
      (e.perform .deselect).1.notices = [.value 4 "True" none] ∧
      (e.announcement .save).final = false ∧
      (e.perform (.subscribe 6 true .final none)).1.notices = [.value 6 "True" none] := by
  obtain ⟨told, greeted, _⟩ := @final_told_if_due (.switch (.onOff false)) lampEvents _ rfl
  refine ⟨_, rfl, by decide, ?_, ?_, ?_⟩
  · rw [(told .deselect trivial).1]
    decide
  · rw [(told .save trivial).2]
    decide
  · rw [greeted (.subscribe 6 true .final none) id]
    decide

end Settings.Element
