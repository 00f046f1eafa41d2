import Settings.Element.Registry
import Settings.Element.ValueEdit

/-!
# Elements

An element joins a value with its persisted form, the rules for saving it and the observers that hear
of its changes. An operation answers with the element as it is afterwards and with the notices that it
caused, in order.
-/
namespace Settings

/-- A result and the notices on the way to it. -/
structure Reported (α : Type) where
  result : α
  notices : List Notice
  deriving DecidableEq, Repr

structure Element where
  kind : Kind
  /-- The persisted form; `none` if nothing is persisted. -/
  saved : Option String
  neverSaved : Bool
  /-- A default is persisted like any other value. -/
  savesDefault : Bool
  /-- The string form when the element last gained or lost focus with a change. -/
  lastValue : String
  enabled : Bool
  /-- Saving and cancelling count as final changes. -/
  reportsClosing : Bool
  registry : Registry
  deriving DecidableEq, Repr

namespace Element

/-- A new element has its default and nothing persisted. -/
def ofKind (kind : Kind) : Element :=
  ⟨kind, none, false, false, kind.encode, true, false, .empty⟩

/-- An element that is never persisted. -/
def neverSave (e : Element) : Element := { e with neverSaved := true }

def setSavesDefault (on : Bool) (e : Element) : Element := { e with savesDefault := on }

def setEnabled (enabled : Bool) (e : Element) : Element := { e with enabled := enabled }

def setReportsClosing (on : Bool) (e : Element) : Element := { e with reportsClosing := on }

def setSaved (saved : Option String) (e : Element) : Element := { e with saved := saved }

def typeName (e : Element) : String := e.kind.typeName

/-- The string form of the working value. -/
def valueString (e : Element) : String := e.kind.encode

def isDefault (e : Element) : Bool := e.kind.isDefault

def toValue (e : Element) : Value := e.kind.toValue

/-- The working value is not what is persisted. -/
def isChanged (e : Element) : Bool := e.valueString != e.saved.getD e.kind.encodeDefault

def display (mode : HourMode) (selected : Bool) (e : Element) : Display :=
  e.kind.display mode selected e.enabled

/-- What observers of every change are told now. -/
def changeNotices (e : Element) : List Notice := e.registry.notices .immediate e.valueString

/-- What observers of final changes are told now. -/
def finalNotices (e : Element) : List Notice := e.registry.notices .final e.valueString

/-- The element has changed. -/
def changed (e : Element) : Reported Element := ⟨e, e.changeNotices⟩

def changedFinal (e : Element) : Reported Element := ⟨e, e.finalNotices⟩

/-- The value that the persisted form stands for; the default if there is none or it cannot be
read. -/
def loadedKind (e : Element) : Kind :=
  match e.saved with
  | none => e.kind.reset
  | some text =>
    match e.kind.decode text with
    | .ok kind => kind
    | .error _ => e.kind.reset

def load (e : Element) : Reported Element := changed { e with kind := e.loadedKind }

/-- Final notices, for hosts that want them on saving and cancelling. -/
def closingNotices (e : Element) : List Notice :=
  if e.reportsClosing then e.finalNotices else []

/-- The form to persist. A default is not persisted unless the element wants it to be. -/
def formToSave (e : Element) : Option String :=
  if e.neverSaved || (e.isDefault && !e.savesDefault) then none else some e.valueString

/-- Persists the working value. -/
def save (e : Element) : Reported Element :=
  let prepared := { e with kind := e.kind.prepareSave }
  let notices := if e.kind.needsPreparing then prepared.changeNotices else []
  let saved := { prepared with saved := prepared.formToSave }
  ⟨saved, notices ++ saved.closingNotices⟩

/-- Goes back to the persisted value. -/
def cancel (e : Element) : Reported Element :=
  ⟨e.load.result, e.load.notices ++ e.load.result.closingNotices⟩

/-- Takes the value of a string form. An unreadable one changes nothing and nobody is told. -/
def assignText (text : String) (e : Element) : Except Error (Reported Element) :=
  (e.kind.decode text).map fun kind => changed { e with kind := kind }

/-- Takes a value from the host. A misfit changes nothing and nobody is told. -/
def assignValue (v : Value) (e : Element) : Except Error (Reported Element) :=
  (e.kind.assign v).map fun kind => changed { e with kind := kind }

/-- Applies an edit action; a disabled element ignores it. Edges are reported before changes. -/
def handle (mode : HourMode) (a : Action) (e : Element) : Reported Element :=
  if e.enabled then
    let outcome := e.kind.handle mode a
    let acted := { e with kind := outcome.state }
    let edges := match outcome.edge with
      | some edge => acted.registry.edgeNotices edge acted.valueString
      | none => []
    ⟨acted, edges ++ if outcome.changed then acted.changeNotices else []⟩
  else ⟨e, []⟩

/-- Changes the value directly and tells the observers, whatever came of it. An edit that is not
allowed changes nothing and nobody is told. -/
def edit (change : ValueEdit) (e : Element) : Except Violation (Reported Element × Option Bool) :=
  (e.kind.apply change).map fun (kind, answer) => (changed { e with kind := kind }, answer)

/-- Gains focus; final changes count from the value that it has then. -/
def select (e : Element) : Element :=
  let focused := { e with kind := e.kind.select }
  { focused with lastValue := focused.valueString }

/-- Loses focus; a value other than the last one is a final change. -/
def deselect (e : Element) : Reported Element :=
  let left := { e with kind := e.kind.deselect }
  if left.valueString = left.lastValue then ⟨left, []⟩
  else changedFinal { left with lastValue := left.valueString }

/-- Steps a clock; the answer says whether there is one. -/
def step (f : Kind → Kind × Bool) (e : Element) : Reported Element × Bool :=
  let (kind, moved) := f e.kind
  if moved then (changed { e with kind := kind }, true) else (⟨e, []⟩, false)

def increment (e : Element) : Reported Element × Bool := e.step Kind.increment

def decrement (e : Element) : Reported Element × Bool := e.step Kind.decrement

/-- Subscribes an observer; with `initial` it is told of the value at once. The answer is the
handle. -/
def subscribe (observer : Nat) (initial : Bool) (noticeClass : NoticeClass)
    (context : Option Value) (e : Element) : Reported Element × Nat :=
  let (registry, handle) := e.registry.add observer noticeClass context
  let notices := if initial then [Notice.value observer e.valueString context] else []
  (⟨{ e with registry := registry }, notices⟩, handle)

/-- Subscribes an observer of edges. -/
def subscribeEdge (observer : Nat) (e : Element) : Element × Nat :=
  let (registry, handle) := e.registry.addEdge observer
  ({ e with registry := registry }, handle)

def unsubscribe (handle : Nat) (e : Element) : Element × Bool :=
  let (registry, found) := e.registry.remove handle
  ({ e with registry := registry }, found)

def clearSubscriptions (e : Element) : Element := { e with registry := e.registry.clear }

end Element

end Settings
