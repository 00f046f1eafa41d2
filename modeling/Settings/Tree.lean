import Settings.Container.Children
import Settings.Element.Operation
import Settings.Stored.Line
import Settings.Stored.Printer

/-!
# Settings trees

The root container and the name in front of every key of the settings file. Keys are written
`root.name.name`; a key without anything below the root, or with an empty segment, names nothing.
-/
namespace Settings

structure Tree where
  name : String
  root : Container Node
  deriving Repr

namespace Tree

/-- The root name of trees that give none. -/
def defaultName : String := "config"

def named (name : String) : Tree := ⟨name, .empty .named⟩

/-- The result of an operation on the root. -/
def withRoot (t : Tree) (r : Reported (Container Node)) : Reported Tree :=
  ⟨{ t with root := r.result }, r.notices⟩

def load (t : Tree) : Reported Tree := t.withRoot t.root.load

/-- Persists every working value. -/
def save (t : Tree) : Reported Tree := t.withRoot t.root.save

def cancel (t : Tree) : Reported Tree := t.withRoot t.root.cancel

/-- What is persisted in the whole tree, unclaimed entries included. -/
def snapshot (t : Tree) : Level := t.root.snapshot

/-- The settings text of what is persisted. -/
def text (t : Tree) : String := t.snapshot.text t.name

/-- The elements by their full keys, in the order in which the containers hold them. -/
def elements (t : Tree) : List (String × Element) := Node.childElements t.name t.root.children

/-- The path that a full key names. -/
def path? (key : String) (t : Tree) : Option (List String) := keyPath? t.name key.toList

def node? (key : String) (t : Tree) : Option Node := (t.path? key).bind fun p => t.root.get? p

def element? (key : String) (t : Tree) : Option Element := (t.node? key).bind Node.element?

/-- Applies an operation to the node at a key. -/
def updateNode? {α : Type} (key : String) (f : Node → Node × α) (t : Tree) : Option (Tree × α) := do
  let path ← t.path? key
  let (root, answer) ← t.root.updateAt? f path
  return ({ t with root := root }, answer)

/-- The container at a key. The name of the tree means the root. -/
def container? (key : String) (t : Tree) : Option (Container Node) :=
  if key = t.name then some t.root else (t.node? key).bind Node.container?

/-- Puts another container in place of the one at a key. -/
def setContainer (key : String) (c : Container Node) (t : Tree) : Tree :=
  if key = t.name then { t with root := c }
  else
    match t.updateNode? key fun _ => (Node.container c, ()) with
    | some (t, _) => t
    | none => t

/-- Attaches a node to the container at a key; `none` if there is no container. -/
def attach? (key name : String) (n : Node) (t : Tree) : Option (Except Violation (Reported Tree)) :=
  (t.container? key).map fun c =>
    (c.attach name n).map fun r => ⟨t.setContainer key r.result, r.notices⟩

/-- Takes a child out of the container at a key; `none` if there is no such child to take. -/
def detach? (key name : String) (t : Tree) : Option (Node × Tree) := do
  let c ← t.container? key
  let (child, c) ← c.detach? name
  return (child, t.setContainer key c)

/-- Performs an operation on the element at a key; `none` if there is no element. -/
def performAt? (key : String) (op : Element.Operation) (t : Tree) :
    Option (Reported Tree × Element.Answer) := do
  let path ← t.path? key
  let (root, notices, answer) ← t.root.updateElementAt? (fun e =>
    let (r, answer) := e.perform op
    (r.result, r.notices, answer)) path
  return (⟨{ t with root := root }, notices⟩, answer)

/-- The working value of the element at a key. -/
def resolved? (key : String) (t : Tree) : Option String := (t.element? key).map Element.valueString

/-- Assigns an element the value of one line. A line that names no element, or that the element
cannot read, assigns nothing. -/
def assignLine (line : Line) (c : Container Node) : Reported (Container Node) :=
  let assigned := c.updateElementAt? (fun e =>
    match e.assignText line.value with
    | .ok r => (r.result, r.notices)
    | .error _ => (e, [])) line.path
  match assigned with
  | some (c, notices) => ⟨c, notices⟩
  | none => ⟨c, []⟩

/-- Assigns the values of lines, one after the other. -/
def assignLines : List Line → Container Node → Reported (Container Node)
  | [], c => ⟨c, []⟩
  | line :: rest, c =>
    let first := assignLine line c
    let others := assignLines rest first.result
    ⟨others.result, first.notices ++ others.notices⟩

/-- Replaces the stored entries by those of a settings text. If the text is not the base of what the
tree holds, every line is assigned to the element that it names as well. -/
def readText (text : String) (isBase : Bool) (t : Tree) : Reported Tree :=
  let lines := Line.ofText t.name text
  let assigned : Reported (Container Node) :=
    if isBase then ⟨t.root, []⟩ else assignLines lines t.root
  ⟨{ t with root := assigned.result.setStored (Level.ofText t.name text) }, assigned.notices⟩

/-- Applies an assignment to the element at a key. -/
def assignAt (key : String) (f : Element → Except Error (Reported Element)) (t : Tree) :
    Except Error (Reported Tree) :=
  match t.path? key, t.element? key with
  | some path, some e =>
    (f e).map fun r =>
      match t.root.updateElementAt? (fun _ => (r.result, r.notices)) path with
      | some (root, notices) => ⟨{ t with root := root }, notices⟩
      | none => ⟨t, []⟩
  | _, _ => .error (.unknownPath key)

/-- Assigns an element from its string form. -/
def assignText (key text : String) (t : Tree) : Except Error (Reported Tree) :=
  t.assignAt key (Element.assignText text)

/-- Assigns an element a value of the host. -/
def assignValue (key : String) (v : Value) (t : Tree) : Except Error (Reported Tree) :=
  t.assignAt key fun e => (e.assignValue v).mapError (Error.atPath key)

/-- The text persisted at a key, whether or not an element is there. -/
def storedValue? (key : String) (t : Tree) : Option String := do
  let path ← t.path? key
  let entry ← t.snapshot.get? path
  entry.leaf?

/-- Persists a text at a key past the elements. An element there has it as its persisted form and
keeps its working value. -/
def setStored (key value : String) (t : Tree) : Except Error Tree :=
  match t.path? key with
  | some path =>
    .ok { t with root := t.root.setStored (t.snapshot.insertAt path (.leaf value)) }
  | none => .error (.unknownPath key)

/-- Drops what is persisted at a key, a leaf or a whole level; the answer says whether there was
anything. -/
def removeStored (key : String) (t : Tree) : Except Error (Tree × Bool) :=
  match t.path? key with
  | some path =>
    let (removed, entries) := t.snapshot.removeAt path
    let root := match t.root.updateElementAt? (fun e => (e.setSaved none, ())) path with
      | some (root, _) => root
      | none => t.root
    .ok ({ t with root := root.setStored entries }, removed.isSome)
  | none => .error (.unknownPath key)

end Tree

end Settings
