import Settings.Element.Basic

/-!
# Operations on elements

All that can be done to an element after its construction, as data, so that one can speak of any run
of operations. What an operation does is said by the function of its name.
-/
namespace Settings

namespace Element

inductive Operation where
  /-- An edit action, in the mode that the clocks are in. -/
  | act (mode : HourMode) (a : Action)
  | edit (change : ValueEdit)
  | assignText (text : String)
  | assignValue (v : Value)
  | increment | decrement
  | load | save | cancel
  | select | deselect
  | changed | changedFinal
  | setSaved (saved : Option String)
  | neverSave
  | setSavesDefault (on : Bool)
  | setEnabled (enabled : Bool)
  | setReportsClosing (on : Bool)
  | subscribe (observer : Nat) (initial : Bool) (noticeClass : NoticeClass) (context : Option Value)
  | subscribeEdge (observer : Nat)
  | unsubscribe (handle : Nat)
  | clearSubscriptions
  deriving DecidableEq, Repr

/-- What an operation answers. -/
inductive Answer where
  | nothing
  | flag (b : Bool)
  /-- The handle of a new subscription. -/
  | handle (n : Nat)
  | failed (e : Error)
  /-- The operation is not allowed. -/
  | refused (v : Violation)
  deriving DecidableEq, Repr

/-- An assignment as an operation: one that fails leaves the element alone. -/
def attempt (e : Element) : Except Error (Reported Element) → Reported Element × Answer
  | .ok r => (r, .nothing)
  | .error err => (⟨e, []⟩, .failed err)

def perform : Operation → Element → Reported Element × Answer
  | .act mode a, e => (e.handle mode a, .nothing)
  | .edit change, e =>
    match e.edit change with
    | .ok (r, flag) => (r, (flag.map Answer.flag).getD .nothing)
    | .error violation => (⟨e, []⟩, .refused violation)
  | .assignText text, e => e.attempt (e.assignText text)
  | .assignValue v, e => e.attempt (e.assignValue v)
  | .increment, e => (e.increment.1, .flag e.increment.2)
  | .decrement, e => (e.decrement.1, .flag e.decrement.2)
  | .load, e => (e.load, .nothing)
  | .save, e => (e.save, .nothing)
  | .cancel, e => (e.cancel, .nothing)
  | .select, e => (⟨e.select, []⟩, .nothing)
  | .deselect, e => (e.deselect, .nothing)
  | .changed, e => (e.changed, .nothing)
  | .changedFinal, e => (e.changedFinal, .nothing)
  | .setSaved saved, e => (⟨e.setSaved saved, []⟩, .nothing)
  | .neverSave, e => (⟨e.neverSave, []⟩, .nothing)
  | .setSavesDefault on, e => (⟨e.setSavesDefault on, []⟩, .nothing)
  | .setEnabled enabled, e => (⟨e.setEnabled enabled, []⟩, .nothing)
  | .setReportsClosing on, e => (⟨e.setReportsClosing on, []⟩, .nothing)
  | .subscribe observer initial noticeClass context, e =>
    let (r, handle) := e.subscribe observer initial noticeClass context
    (r, .handle handle)
  | .subscribeEdge observer, e =>
    let (e, handle) := e.subscribeEdge observer
    (⟨e, []⟩, .handle handle)
  | .unsubscribe handle, e =>
    let (e, found) := e.unsubscribe handle
    (⟨e, []⟩, .flag found)
  | .clearSubscriptions, e => (⟨e.clearSubscriptions, []⟩, .nothing)

/-- Performs operations one after the other; the notices of all, in order. -/
def run : List Operation → Element → Reported Element
  | [], e => ⟨e, []⟩
  | op :: ops, e =>
    let first := (e.perform op).1
    let others := run ops first.result
    ⟨others.result, first.notices ++ others.notices⟩

end Element

end Settings
