import Settings.Element.Operation

/-!
# What operations do to kinds

An operation on an element changes the focus, does one of a few other things to the kind or leaves it
alone. A condition on kinds that all of these keep is kept by every operation and along every run.

* `exists_kind_perform`: most operations leave all but the kind alone.
* `edited_perform`: what an operation does that does not change the focus.
* `Kind.Closed.perform`: one operation.
* `Kind.Closed.run`: a run of operations.
-/
namespace Settings

/-- A condition on kinds that nothing done to a kind leaves, as long as direct edits and values of the
host are of given sorts. -/
structure Kind.Closed (edits : ValueEdit → Prop) (values : Value → Prop) (P : Kind → Prop) :
    Prop where
  handle : ∀ {k : Kind}, P k → ∀ mode a, P (k.handle mode a).state
  edit : ∀ {k k' : Kind} {change : ValueEdit} {answer : Option Bool}, P k → edits change →
    k.apply change = .ok (k', answer) → P k'
  decode : ∀ {k k' : Kind} {text : String}, P k → k.decode text = .ok k' → P k'
  assign : ∀ {k k' : Kind} {v : Value}, P k → values v → k.assign v = .ok k' → P k'
  reset : ∀ {k : Kind}, P k → P k.reset
  select : ∀ {k : Kind}, P k → P k.select
  deselect : ∀ {k : Kind}, P k → P k.deselect
  prepareSave : ∀ {k : Kind}, P k → P k.prepareSave
  increment : ∀ {k : Kind}, P k → P k.increment.1
  decrement : ∀ {k : Kind}, P k → P k.decrement.1

/-- What may become of a kind while the focus does not change. -/
inductive Kind.Edited (edits : ValueEdit → Prop) (values : Value → Prop) (k : Kind) : Kind → Prop where
  | same : Edited edits values k k
  | handle (mode : HourMode) (a : Action) : Edited edits values k (k.handle mode a).state
  | edit {k' : Kind} {change : ValueEdit} {answer : Option Bool} (allowed : edits change)
      (done : k.apply change = .ok (k', answer)) : Edited edits values k k'
  | decode {k' : Kind} {text : String} (read : k.decode text = .ok k') : Edited edits values k k'
  | assign {k' : Kind} {v : Value} (allowed : values v) (taken : k.assign v = .ok k') :
    Edited edits values k k'
  | reset : Edited edits values k k.reset
  | prepareSave : Edited edits values k k.prepareSave
  | increment : Edited edits values k k.increment.1
  | decrement : Edited edits values k k.decrement.1

namespace Element

/-- Direct edits and values of the host are of given sorts. -/
def Operation.Within (edits : ValueEdit → Prop) (values : Value → Prop) : Operation → Prop
  | .edit change => edits change
  | .assignValue v => values v
  | _ => True

theorem Operation.within_true (op : Operation) : op.Within (fun _ => True) (fun _ => True) := by
  cases op <;> trivial

/-- Whether an operation gives the focus or takes it away; `none` if it does neither. -/
def Operation.focus? : Operation → Option Bool
  | .select => some true
  | .deselect => some false
  | _ => none

variable {edits : ValueEdit → Prop} {values : Value → Prop} {e : Element}

theorem run_append (ops others : List Operation) (e : Element) :
    (run (ops ++ others) e).result = (run others (run ops e).result).result := by
  induction ops generalizing e with
  | nil => rfl
  | cons op rest ih => exact ih (e.perform op).1.result

theorem edited_load (e : Element) : e.kind.Edited edits values e.load.result.kind := by
  change e.kind.Edited edits values e.loadedKind
  unfold loadedKind
  split
  · exact .reset
  · split
    · next read => exact .decode read
    · exact .reset

/-- Leaves all of an element but its kind alone. -/
def Operation.ActsOnKind : Operation → Prop
  | .act .. | .edit _ | .assignText _ | .assignValue _ | .increment | .decrement
  | .load | .cancel | .changed | .changedFinal => True
  | _ => False

theorem exists_kind_attempt (e : Element) (assigned : Except Error Kind) :
    ∃ k, (e.attempt (assigned.map fun kind => changed { e with kind := kind })).1.result =
      { e with kind := k } := by
  cases assigned with
  | error err => exact ⟨e.kind, rfl⟩
  | ok k => exact ⟨k, rfl⟩

theorem exists_kind_step (f : Kind → Kind × Bool) (e : Element) :
    ∃ k, (e.step f).1.result = { e with kind := k } := by
  unfold step
  dsimp only
  split
  · exact ⟨(f e.kind).1, rfl⟩
  · exact ⟨e.kind, rfl⟩

theorem exists_kind_perform {op : Operation} (acts : op.ActsOnKind) (e : Element) :
    ∃ k, (e.perform op).1.result = { e with kind := k } := by
  cases op with
  | act mode a =>
    rw [perform, handle]
    split
    · exact ⟨(e.kind.handle mode a).state, rfl⟩
    · exact ⟨e.kind, rfl⟩
  | edit change =>
    rw [perform, edit]
    cases e.kind.apply change with
    | error violation => exact ⟨e.kind, rfl⟩
    | ok answered => exact ⟨answered.1, rfl⟩
  | assignText text => exact e.exists_kind_attempt _
  | assignValue v => exact e.exists_kind_attempt _
  | increment => exact exists_kind_step _ e
  | decrement => exact exists_kind_step _ e
  | load | cancel => exact ⟨e.loadedKind, rfl⟩
  | changed | changedFinal => exact ⟨e.kind, rfl⟩
  | _ => exact absurd acts id

/-- A direct edit that is allowed is made, and the observers are told. -/
theorem perform_edit {change : ValueEdit} {k : Kind} {answer : Option Bool}
    (done : e.kind.apply change = .ok (k, answer)) :
    e.perform (.edit change) =
      (changed { e with kind := k }, (answer.map Answer.flag).getD .nothing) := by
  rw [perform, edit, done]
  rfl

end Element

namespace Kind.Closed

open Element

variable {edits : ValueEdit → Prop} {values : Value → Prop} {P : Kind → Prop} {e : Element}

theorem attempt (holds : P e.kind) {assigned : Except Error Kind}
    (taken : ∀ k, assigned = .ok k → P k) :
    P (e.attempt (assigned.map fun kind => changed { e with kind := kind })).1.result.kind := by
  cases assigned with
  | error err => exact holds
  | ok k => exact taken k rfl

theorem step (holds : P e.kind) {f : Kind → Kind × Bool} (stepped : P (f e.kind).1) :
    P (e.step f).1.result.kind := by
  unfold Element.step
  dsimp only
  split
  · exact stepped
  · exact holds

end Kind.Closed

/-- All that an operation does to the kind while the focus does not change. -/
theorem Element.edited_perform {edits : ValueEdit → Prop} {values : Value → Prop} {op : Operation}
    (within : op.Within edits values) (aside : op.focus? = none) (e : Element) :
    e.kind.Edited edits values (e.perform op).1.result.kind := by
  cases op with
  | act mode a =>
    rw [perform, handle]
    split
    · exact .handle mode a
    · exact .same
  | edit change =>
    rw [perform, edit]
    cases done : e.kind.apply change with
    | error violation => exact .same
    | ok answered => exact .edit within done
  | assignText text => exact Kind.Closed.attempt .same fun _ read => .decode read
  | assignValue v => exact Kind.Closed.attempt .same fun _ taken => .assign within taken
  | increment => exact Kind.Closed.step .same .increment
  | decrement => exact Kind.Closed.step .same .decrement
  | load => exact e.edited_load
  | save => exact .prepareSave
  | cancel => exact e.edited_load
  | select => cases aside
  | deselect => cases aside
  | _ => exact .same

theorem Element.kind_deselect (e : Element) : e.deselect.result.kind = e.kind.deselect := by
  unfold deselect
  dsimp only
  split <;> rfl

namespace Kind.Closed

open Element

variable {edits : ValueEdit → Prop} {values : Value → Prop} {P : Kind → Prop} {k k' : Kind}
  {e : Element}

theorem edited (closed : Closed edits values P) (holds : P k) (edited : k.Edited edits values k') :
    P k' := by
  cases edited with
  | same => exact holds
  | handle mode a => exact closed.handle holds mode a
  | edit allowed done => exact closed.edit holds allowed done
  | decode read => exact closed.decode holds read
  | assign allowed taken => exact closed.assign holds allowed taken
  | reset => exact closed.reset holds
  | prepareSave => exact closed.prepareSave holds
  | increment => exact closed.increment holds
  | decrement => exact closed.decrement holds

/-- It is enough to look at the focus and at what else may become of a kind. -/
theorem of_edited (kept : ∀ {k k' : Kind}, P k → k.Edited edits values k' → P k')
    (select : ∀ {k : Kind}, P k → P k.select) (deselect : ∀ {k : Kind}, P k → P k.deselect) :
    Closed edits values P where
  handle holds mode a := kept holds (.handle mode a)
  edit holds allowed done := kept holds (.edit allowed done)
  decode holds read := kept holds (.decode read)
  assign holds allowed taken := kept holds (.assign allowed taken)
  reset holds := kept holds .reset
  select := select
  deselect := deselect
  prepareSave holds := kept holds .prepareSave
  increment holds := kept holds .increment
  decrement holds := kept holds .decrement

/-- For kinds that the focus does not change it is enough to look at what else may become of them. -/
theorem of_unfocused {α : Type} {f : α → Kind} {P : α → Prop}
    (focus : ∀ x, (f x).select = f x ∧ (f x).deselect = f x)
    (kept : ∀ {x : α} {k : Kind}, P x → (f x).Edited edits values k → ∃ x', k = f x' ∧ P x') :
    Closed edits values fun k => ∃ x, k = f x ∧ P x := by
  apply of_edited
  · rintro k k' ⟨x, rfl, holds⟩ edited
    exact kept holds edited
  · rintro k ⟨x, rfl, holds⟩
    exact ⟨x, (focus x).1, holds⟩
  · rintro k ⟨x, rfl, holds⟩
    exact ⟨x, (focus x).2, holds⟩

theorem loaded (closed : Closed edits values P) (holds : P e.kind) : P e.load.result.kind :=
  closed.edited holds e.edited_load

/-- An operation keeps what its kinds cannot leave. -/
theorem perform (closed : Closed edits values P) {op : Operation} (within : op.Within edits values)
    (holds : P e.kind) : P (e.perform op).1.result.kind := by
  cases op with
  | select => exact closed.select holds
  | deselect =>
    rw [Element.perform, kind_deselect]
    exact closed.deselect holds
  | _ => exact closed.edited holds (edited_perform within rfl e)

/-- So does a run of operations. -/
theorem run (closed : Closed edits values P) {ops : List Operation}
    (within : ∀ op ∈ ops, op.Within edits values) (holds : P e.kind) :
    P (Element.run ops e).result.kind := by
  induction ops generalizing e with
  | nil => exact holds
  | cons op rest ih =>
    obtain ⟨first, others⟩ := List.forall_mem_cons.mp within
    exact ih others (closed.perform first holds)

end Kind.Closed

end Settings
