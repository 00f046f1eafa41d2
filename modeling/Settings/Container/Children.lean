import Settings.Container.Node
import Settings.Text.Blank

/-!
# Attaching, detaching and finding children

A child that is attached takes up the stored entry of its key at once; a child that is detached
leaves its persisted form behind. So the order in which features come and go does not matter to
their settings.
-/
namespace Settings

/-- A key can be a segment of a dotted key in a settings line. -/
def isValidKey (key : String) : Bool :=
  key ≠ "" && key.toList.all fun c => c ≠ '.' && c ≠ '=' && c ≠ '#' && !Text.isBlank c

/-- Hands a node the entry stored at its key, if there is one, and loads it. -/
def Node.bind (stored : Level) (key : String) (n : Node) : Reported Node :=
  match Keyed.get? key stored with
  | some entry => (n.setSaved entry).load
  | none => ⟨n, []⟩

namespace Container

/-- The key under which the next child is attached. -/
def attachKey (key : String) (c : Container Node) : Except Violation String :=
  match c.shape with
  | .indexed => .ok (Numeral.text c.children.length)
  | .named | .keyed => if isValidKey key then .ok key else .error (.invalidKey key)

/-- The children with one more, or with another one under a key that is in use. -/
def placed (key : String) (n : Node) (c : Container Node) : List (String × Node) :=
  match c.shape with
  | .keyed => Keyed.insert key n c.children
  | .named | .indexed => Keyed.assign key n c.children

/-- Attaches a node under a key, over any child of that key. Containers by position ignore the key
and attach at the end. -/
def attach (key : String) (n : Node) (c : Container Node) :
    Except Violation (Reported (Container Node)) := do
  let key ← c.attachKey key
  let bound := n.bind c.stored key
  return ⟨{ c with children := c.placed key bound.result }, bound.notices⟩

/-- Takes a child out. Containers by position keep their children. -/
def detach? (key : String) (c : Container Node) : Option (Node × Container Node) :=
  match c.shape with
  | .indexed => none
  | .named | .keyed => do
    let child ← Keyed.get? key c.children
    return (child, { c with
      children := Keyed.erase key c.children
      stored := c.stored.record key child.snapshot })

/-- The path segment of the child that a key means. Positions may be written with a plus sign and
leading zeros. -/
def childName? (key : String) (c : Container Node) : Option String :=
  match c.shape with
  | .indexed => (Numeral.position? key.toList).map fun i => Numeral.text i
  | .named | .keyed => some key

def child? (key : String) (c : Container Node) : Option Node :=
  (c.childName? key).bind fun name => Keyed.get? name c.children

/-- The node at a path. The empty path names nothing. -/
def get? : List String → Container Node → Option Node
  | [], _ => none
  | [key], c => c.child? key
  | key :: rest, c => ((c.child? key).bind Node.container?).bind (get? rest)

/-- The container with another node in the place of a child. -/
def withChild (name : String) (child : Node) (c : Container Node) : Container Node :=
  { c with children := Keyed.assign name child c.children }

/-- Applies an operation to the child that a key means; `none` if there is no such child or the
operation does not apply to it. -/
def updateChild? {α : Type} (f : Node → Option (Node × α)) (key : String) (c : Container Node) :
    Option (Container Node × α) := do
  let name ← c.childName? key
  let child ← Keyed.get? name c.children
  let (child, answer) ← f child
  return (c.withChild name child, answer)

/-- Applies an operation to the node at a path; `none` if there is no such node. -/
def updateAt? {α : Type} (f : Node → Node × α) :
    List String → Container Node → Option (Container Node × α)
  | [], _ => none
  | [key], c => c.updateChild? (fun child => some (f child)) key
  | key :: rest, c => c.updateChild? (fun
      | .element _ => none
      | .container inner =>
        (updateAt? f rest inner).map fun (inner, answer) => (Node.container inner, answer)) key

/-- Applies an operation to the element at a path; `none` if there is no such element. -/
def updateElementAt? {α : Type} (f : Element → Element × α) (path : List String)
    (c : Container Node) : Option (Container Node × α) :=
  match (c.get? path).bind Node.element? with
  | some e => (c.updateAt? (fun _ => (Node.element (f e).1, (f e).2)) path)
  | none => none

end Container

end Settings
