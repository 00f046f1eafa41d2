import Settings.Editor.Outcome
import Settings.Value.Basic

/-!
# Subscriptions

Who wants to hear of an element. A subscription is made under a fresh handle, the only way to end it;
observers of one class are told in the order in which they subscribed.

An observer is a name that the host chose; what the observers are told is a list of notices.
-/
namespace Settings

/-- When an observer is told of an element. -/
inductive NoticeClass where
  /-- On every change. -/
  | immediate
  /-- When the element loses focus with another value than it had. -/
  | final
  deriving DecidableEq, Repr

structure Subscription where
  handle : Nat
  observer : Nat
  noticeClass : NoticeClass
  /-- Handed back with every notice. -/
  context : Option Value
  deriving DecidableEq, Repr

/-- What one observer is told: the value of the element, and its context or the edge. -/
inductive Notice where
  | value (observer : Nat) (shown : String) (context : Option Value)
  | edge (observer : Nat) (shown : String) (edge : Edge)
  deriving DecidableEq, Repr

structure Registry where
  /-- The last handle given away. -/
  lastHandle : Nat
  subscriptions : List Subscription
  /-- Handles and observers of cursor moves beyond an edge. -/
  edgeObservers : List (Nat × Nat)
  deriving DecidableEq, Repr

namespace Registry

def empty : Registry := ⟨0, [], []⟩

/-- Subscribes an observer; the answer is the handle. -/
def add (observer : Nat) (noticeClass : NoticeClass) (context : Option Value) (r : Registry) :
    Registry × Nat :=
  let handle := r.lastHandle + 1
  ({ r with
      lastHandle := handle
      subscriptions := r.subscriptions ++ [⟨handle, observer, noticeClass, context⟩] },
    handle)

def addEdge (observer : Nat) (r : Registry) : Registry × Nat :=
  let handle := r.lastHandle + 1
  ({ r with lastHandle := handle, edgeObservers := r.edgeObservers ++ [(handle, observer)] }, handle)

/-- Ends the subscription with a handle; the answer says whether there was one. -/
def remove (handle : Nat) (r : Registry) : Registry × Bool :=
  let found :=
    r.subscriptions.any (fun s => s.handle == handle) ||
      r.edgeObservers.any (fun e => e.1 == handle)
  ({ r with
      subscriptions := r.subscriptions.filter fun s => s.handle != handle
      edgeObservers := r.edgeObservers.filter fun e => e.1 != handle },
    found)

def clear (r : Registry) : Registry := { r with subscriptions := [], edgeObservers := [] }

/-- The subscriptions of a class, in order. -/
def ofClass (noticeClass : NoticeClass) (r : Registry) : List Subscription :=
  r.subscriptions.filter fun s => s.noticeClass == noticeClass

def count (noticeClass : NoticeClass) (r : Registry) : Nat := (r.ofClass noticeClass).length

def Subscription.notice (shown : String) (s : Subscription) : Notice :=
  .value s.observer shown s.context

/-- What the observers of a class are told of a value. -/
def notices (noticeClass : NoticeClass) (shown : String) (r : Registry) : List Notice :=
  (r.ofClass noticeClass).map (Subscription.notice shown)

def edgeNotices (edge : Edge) (shown : String) (r : Registry) : List Notice :=
  r.edgeObservers.map fun e => .edge e.2 shown edge

end Registry

end Settings
