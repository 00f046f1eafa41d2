import Settings.Element.Basic
import Settings.Stored.Basic

/-!
# Containers and nodes

A node of a settings tree is an element or a container of nodes. A container also keeps the stored
map that it was last handed: entries that no child claims stay in it and are written back unchanged,
so the settings of a feature that is absent survive.
-/
namespace Settings

/-- How the children of a container are addressed. -/
inductive Shape where
  /-- By name, in the order in which they were added. -/
  | named
  /-- By position, written in decimal. -/
  | indexed
  /-- By key, in the order of the keys. -/
  | keyed
  deriving DecidableEq, Repr

def Shape.typeName : Shape → String
  | .named => "section"
  | .indexed => "list"
  | .keyed => "dict"

structure Container (ν : Type) where
  shape : Shape
  /-- The children by their path segments, in the order in which they are walked. -/
  children : List (String × ν)
  /-- The stored map as last handed down, and what detached children left behind. -/
  stored : Level
  deriving Repr

inductive Node where
  | element (e : Element)
  | container (c : Container Node)
  deriving Repr

/-- A container without children and stored entries. -/
def Container.empty (shape : Shape) : Container Node := ⟨shape, [], []⟩

/-- Puts an entry at a key, or takes out what is there if there is none to put. -/
def Level.record (key : String) (entry : Option Stored) (entries : Level) : Level :=
  match entry with
  | some stored => Keyed.insert key stored entries
  | none => Keyed.erase key entries

namespace Node

def typeName : Node → String
  | .element e => e.typeName
  | .container c => c.shape.typeName

def element? : Node → Option Element
  | .element e => some e
  | .container _ => none

def container? : Node → Option (Container Node)
  | .element _ => none
  | .container c => some c

mutual
/-- Applies an operation to every element, in the order of the children. -/
def mapElements (f : Element → Reported Element) : Node → Reported Node
  | .element e => ⟨.element (f e).result, (f e).notices⟩
  | .container ⟨shape, children, stored⟩ =>
    let mapped := mapChildren f children
    ⟨.container ⟨shape, mapped.result, stored⟩, mapped.notices⟩

def mapChildren (f : Element → Reported Element) :
    List (String × Node) → Reported (List (String × Node))
  | [] => ⟨[], []⟩
  | (key, child) :: rest =>
    let mapped := mapElements f child
    let others := mapChildren f rest
    ⟨(key, mapped.result) :: others.result, mapped.notices ++ others.notices⟩
end

def load (n : Node) : Reported Node := n.mapElements Element.load

def save (n : Node) : Reported Node := n.mapElements Element.save

def cancel (n : Node) : Reported Node := n.mapElements Element.cancel

mutual
/-- The persisted form of a node; `none` if there is nothing to persist. -/
def snapshot : Node → Option Stored
  | .element e => e.saved.map .leaf
  | .container ⟨_, children, stored⟩ =>
    let entries := overlay children stored
    if entries.isEmpty then none else some (.level entries)

/-- Stored entries with the persisted forms of the children laid over them. A child without one
takes its entry away. -/
def overlay : List (String × Node) → Level → Level
  | [], stored => stored
  | (key, child) :: rest, stored => overlay rest (stored.record key child.snapshot)
end

mutual
/-- Hands a persisted form to a node. A leaf does not fit a container and a level does not fit an
element; what does not fit is ignored. -/
def setSaved (entry : Stored) : Node → Node
  | .element e =>
    match entry with
    | .leaf text => .element (e.setSaved (some text))
    | .level _ => .element e
  | .container ⟨shape, children, stored⟩ =>
    match entry with
    | .leaf _ => .container ⟨shape, children, stored⟩
    | .level entries => .container ⟨shape, handDown entries children, entries⟩

/-- Hands each child its entry; a child without one keeps what it has. -/
def handDown (entries : Level) : List (String × Node) → List (String × Node)
  | [] => []
  | (key, child) :: rest =>
    (key, match Keyed.get? key entries with
      | some entry => setSaved entry child
      | none => child) :: handDown entries rest
end

mutual
/-- The elements of a node by their full keys, in the order of the children. -/
def elements (key : String) : Node → List (String × Element)
  | .element e => [(key, e)]
  | .container ⟨_, children, _⟩ => childElements key children

def childElements (above : String) : List (String × Node) → List (String × Element)
  | [] => []
  | (name, child) :: rest => elements (childKey above name) child ++ childElements above rest
end

end Node

namespace Container

def load (c : Container Node) : Reported (Container Node) :=
  let mapped := Node.mapChildren Element.load c.children
  ⟨{ c with children := mapped.result }, mapped.notices⟩

def save (c : Container Node) : Reported (Container Node) :=
  let mapped := Node.mapChildren Element.save c.children
  ⟨{ c with children := mapped.result }, mapped.notices⟩

def cancel (c : Container Node) : Reported (Container Node) :=
  let mapped := Node.mapChildren Element.cancel c.children
  ⟨{ c with children := mapped.result }, mapped.notices⟩

/-- The stored entries merged with the persisted forms of the children. -/
def snapshot (c : Container Node) : Level := Node.overlay c.children c.stored

/-- Replaces the stored entries and hands each child its own. -/
def setStored (entries : Level) (c : Container Node) : Container Node :=
  { c with children := Node.handDown entries c.children, stored := entries }

end Container

end Settings
