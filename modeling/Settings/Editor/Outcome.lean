/-!
# Outcomes of edit actions

What one action did to an editor: its new state, whether the value counts as changed, and the edge
that the cursor could not pass.
-/
namespace Settings

/-- An end of an editor's columns. -/
inductive Edge where
  | start | finish
  deriving DecidableEq, Repr

structure Outcome (α : Type) where
  state : α
  changed : Bool
  edge : Option Edge
  deriving DecidableEq, Repr

namespace Outcome

variable {α β : Type}

/-- Neither a change nor an edge to report. -/
def quiet (state : α) : Outcome α := ⟨state, false, none⟩

def changedTo (state : α) : Outcome α := ⟨state, true, none⟩

def changedIf (changed : Bool) (state : α) : Outcome α := ⟨state, changed, none⟩

/-- The cursor stays at the edge. -/
def hit (edge : Edge) (state : α) : Outcome α := ⟨state, false, some edge⟩

def map (f : α → β) (o : Outcome α) : Outcome β := ⟨f o.state, o.changed, o.edge⟩

end Outcome

end Settings
