import Mathlib.Data.List.Infix
import Settings.Proofs.Container.Transfer

/-!
# Writing at a path

A text is written at a path by editing the persisted form of the whole and handing it back down. If no
element stands on the way and no container at the end, then this is an exact write: the edited form is
persisted, and nothing changes in the elements but the saved form of the one at the path.

* `WellFormed.snapshot_written`: what is persisted afterwards is the edited form.
* `WellFormed.elementAt?_written`: what becomes of the elements.
-/
namespace Settings

namespace Node

/-- The element that a path of exact keys leads to. -/
def elementAt? (path : List String) (n : Node) : Option Element := (n.at? path).bind element?

/-- A text can be held at a path: no element stands on the way and no container at the end. -/
structure Accepts (path : List String) (n : Node) : Prop where
  onWay : ∀ q e, q <+: path → q ≠ path → n.at? q ≠ some (.element e)
  here : ∀ c, n.at? path ≠ some (.container c)

variable {n : Node} {path q : List String} {key : String} {e : Element} {c : Container Node}

theorem elementAt?_eq_some_iff : n.elementAt? path = some e ↔ n.at? path = some (.element e) :=
  bind_element?_eq_some_iff

theorem accepts_iff :
    n.Accepts path ↔ (∀ q ∈ path.inits, q ≠ path → (n.elementAt? q).isNone) ∧
      ((n.at? path).bind container?).isNone := by
  constructor
  · rintro ⟨onWay, here⟩
    constructor
    · intro q before proper
      cases found : n.elementAt? q with
      | none => rfl
      | some e =>
        have there := elementAt?_eq_some_iff.mp found
        exact absurd there (onWay q e ((List.mem_inits q path).mp before) proper)
    · rcases there : n.at? path with _ | e | c
      · rfl
      · rfl
      · exact absurd there (here c)
  · rintro ⟨onWay, here⟩
    constructor
    · intro q e before proper there
      have nothing := onWay q ((List.mem_inits q path).mpr before) proper
      rw [elementAt?_eq_some_iff.mpr there] at nothing
      cases nothing
    · intro c there
      rw [there] at here
      cases here

instance (path : List String) (n : Node) : Decidable (n.Accepts path) :=
  decidable_of_iff _ accepts_iff.symm

theorem Accepts.child {child : Node} (accepts : (Node.container c).Accepts (key :: path))
    (live : Keyed.get? key c.children = some child) : child.Accepts path where
  onWay q e before proper there := by
    refine accepts.onWay (key :: q) e (List.cons_prefix_cons.mpr ⟨rfl, before⟩) ?_ ?_
    · exact fun same => proper (List.cons.inj same).2
    · rwa [at?_cons_of_live live]
  here inner there := accepts.here inner (by rwa [at?_cons_of_live live])

/-- An element holds a text only itself. -/
theorem Accepts.eq_nil (accepts : (Node.element e).Accepts path) : path = [] := by
  cases path with
  | nil => rfl
  | cons key rest =>
    exact absurd (at?_nil _) (accepts.onWay [] e List.nil_prefix (List.cons_ne_nil key rest).symm)

/-- A container holds a text only below. -/
theorem Accepts.ne_nil (accepts : (Node.container c).Accepts path) : path ≠ [] := by
  rintro rfl
  exact accepts.here c (at?_nil _)

/-- No element sits on the way of a path that is accepted, and none below it. -/
theorem Accepts.apart_of_element (accepts : n.Accepts path) (different : q ≠ path)
    (there : n.at? q = some (.element e)) : Apart path q := by
  refine ⟨?_, fun before => accepts.onWay q e before different there⟩
  rintro ⟨below, rfl⟩
  rw [at?_append] at there
  obtain ⟨m, live, reached⟩ := Option.bind_eq_some_iff.mp there
  cases m with
  | container c => exact accepts.here c live
  | element other =>
    cases below with
    | nil => exact different (List.append_nil path)
    | cons key rest => cases reached

/-- An element that is handed what it persists stays as it is. -/
theorem handed_snapshot_element (e : Element) :
    (Node.element e).handed (Node.element e).snapshot = .element e := by
  rw [snapshot_element]
  cases saved : e.saved with
  | none => rfl
  | some text =>
    rw [Option.map_some, handed_some, setSaved_element_leaf, Element.setSaved, ← saved]

end Node

namespace Container

variable {c : Container Node} {path : List String}

/-- The container after a text is written at a path of the persisted form. -/
def written (path : List String) (value : String) (c : Container Node) : Container Node :=
  c.setStored (c.snapshot.insertAt path (.leaf value))

/-- The edited form is persisted as it is: each child persists the part that it is handed. -/
theorem WellFormed.snapshot_written (wf : c.WellFormed) (accepts : (Node.container c).Accepts path)
    (value : String) :
    (c.written path value).snapshot = c.snapshot.insertAt path (.leaf value) := by
  induction path generalizing c with
  | nil => exact absurd rfl accepts.ne_nil
  | cons key rest ih =>
    refine wf.snapshot_setStored (Level.canonical_insertAt wf.canonical_snapshot _
      (Stored.canonical_leaf value)) fun other child live => ?_
    by_cases same : other = key
    · subst same
      have accepted := accepts.child live
      cases child with
      | element e =>
        rw [accepted.eq_nil, Level.insertAt, Keyed.get?_insert_self, Node.handed_some,
          Node.setSaved_element_leaf, Node.snapshot_element]
        rfl
      | container inner =>
        obtain ⟨next, later, rfl⟩ := List.exists_cons_of_ne_nil accepted.ne_nil
        have own : Level.below (Keyed.get? other c.snapshot) = inner.snapshot := by
          rw [← wf.snapshot_of_live live, Node.below_snapshot]
        have persisted := ih (wf.child live) accepted
        have proper : (inner.written (next :: later) value).snapshot ≠ [] := by
          rw [persisted]
          exact Level.insertAt_cons_ne_nil _ _ _ _
        have whole := Node.snapshot_container_of_ne_nil proper
        rw [persisted] at whole
        rw [Level.insertAt_cons_cons, Keyed.get?_insert_self, own, Node.handed_some,
          Node.setSaved_container_level]
        exact whole
    · -- All other children are handed what they persist.
      rw [Level.get?_insertAt_of_ne same, ← wf.snapshot_of_live live]
      exact (Node.Echoes.refl (wf.child live)).snapshot

/-- The element at the path has the text as its saved form, all others are handed what they persist. -/
theorem WellFormed.elementAt?_written (wf : c.WellFormed)
    (accepts : (Node.container c).Accepts path) (value : String) (q : List String) :
    (Node.container (c.written path value)).elementAt? q =
      ((Node.container c).elementAt? q).map fun e =>
        { e with saved := if q = path then some value else e.saved } := by
  rw [written, ← Node.setSaved_container_level, Node.elementAt?, Node.at?_setSaved, Node.elementAt?]
  cases there : (Node.container c).at? q with
  | none => rfl
  | some m =>
    cases m with
    | container inner =>
      rcases (Stored.level (c.snapshot.insertAt path (.leaf value))).at? q with _ | text | entries <;>
        simp [Node.element?]
    | element e =>
      have proper : q ≠ [] := by
        rintro rfl
        cases there
      rw [Option.map_some, ← Level.get?_eq_at? proper]
      by_cases same : q = path
      · rw [same, Level.get?_insertAt _ accepts.ne_nil]
        simp [Node.element?, Element.setSaved]
      · rw [Level.get?_insertAt_of_apart _ _ (accepts.apart_of_element same there),
          get?_snapshot_eq_persisted? c proper, Node.snapshot_of_at? wf there,
          Node.handed_snapshot_element]
        simp [Node.element?, same]

end Container

end Settings
