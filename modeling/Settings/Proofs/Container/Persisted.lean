import Settings.Proofs.Container.Update

/-!
# Persisted forms

What is persisted at a path, and when a node persists exactly what it was handed: this is so for its
own former persisted form, even if an operation at some path came in between.

* `persisted?_cons`: what is persisted below a container.
* `snapshot_setStored`: a map is persisted as it was handed down if every child takes its part.
* `Echoes`: handing its former persisted form to a node restores it.
-/
namespace Settings

namespace Node

/-- The entry that is persisted at a path below a node. -/
def persisted? (path : List String) (n : Node) : Option Stored := n.snapshot.bind (Stored.at? path)

/-- The text that is persisted at a path below a node. -/
def value? (path : List String) (n : Node) : Option String := (n.persisted? path).bind Stored.leaf?

theorem value?_of_snapshot {n n' : Node} (same : n'.snapshot = n.snapshot) (path : List String) :
    n'.value? path = n.value? path := by
  rw [value?, value?, persisted?, persisted?, same]

theorem persisted?_element_cons (key : String) (rest : List String) (e : Element) :
    (Node.element e).persisted? (key :: rest) = none := by
  rw [persisted?, snapshot_element]
  cases e.saved <;> rfl

theorem value?_element_cons (key : String) (rest : List String) (e : Element) :
    (Node.element e).value? (key :: rest) = none := by
  rw [value?, persisted?_element_cons]
  rfl

theorem value?_element_nil (e : Element) : (Node.element e).value? [] = e.saved := by
  rw [value?, persisted?, snapshot_element]
  cases e.saved <;> simp [Stored.leaf?]

theorem value?_container_nil (c : Container Node) : (Node.container c).value? [] = none := by
  rw [value?, persisted?, snapshot_container]
  split
  · rfl
  · simp [Stored.leaf?]

end Node

namespace Container

variable {c : Container Node} {key : String} {rest : List String}

theorem persisted?_eq_bind (c : Container Node) (key : String) (rest : List String) :
    (Node.container c).persisted? (key :: rest) =
      (Keyed.get? key c.snapshot).bind (Stored.at? rest) := by
  rw [Node.persisted?, Node.snapshot_container]
  split
  · next empty => rw [List.isEmpty_iff.mp empty]; rfl
  · rw [Option.bind_some, Stored.at?_cons_level]

theorem get?_snapshot_eq_persisted? (c : Container Node) {path : List String} (proper : path ≠ []) :
    c.snapshot.get? path = (Node.container c).persisted? path := by
  obtain ⟨key, rest, rfl⟩ := List.exists_cons_of_ne_nil proper
  rw [Level.get?_cons, persisted?_eq_bind]

/-- What is persisted below a container is persisted below the child on the way, or stands in the
stored map if there is no such child. -/
theorem WellFormed.persisted?_cons (wf : c.WellFormed) (key : String) (rest : List String) :
    (Node.container c).persisted? (key :: rest) =
      match Keyed.get? key c.children with
      | some child => child.persisted? rest
      | none => (Keyed.get? key c.stored).bind (Stored.at? rest) := by
  rw [persisted?_eq_bind, wf.get?_snapshot]
  cases Keyed.get? key c.children <;> rfl

theorem WellFormed.persisted?_of_live (wf : c.WellFormed) {child : Node}
    (live : Keyed.get? key c.children = some child) (rest : List String) :
    (Node.container c).persisted? (key :: rest) = child.persisted? rest := by
  rw [wf.persisted?_cons, live]

theorem WellFormed.persisted?_of_absent (wf : c.WellFormed)
    (absent : Keyed.get? key c.children = none) (rest : List String) :
    (Node.container c).persisted? (key :: rest) =
      (Keyed.get? key c.stored).bind (Stored.at? rest) := by
  rw [wf.persisted?_cons, absent]

theorem value?_eq_get?_snapshot (c : Container Node) {path : List String} (proper : path ≠ []) :
    (Node.container c).value? path = (c.snapshot.get? path).bind Stored.leaf? := by
  rw [get?_snapshot_eq_persisted? c proper, Node.value?]

theorem value?_eq_some_iff (c : Container Node) {path : List String} (proper : path ≠ [])
    {value : String} :
    (Node.container c).value? path = some value ↔
      (Stored.level c.snapshot).at? path = some (.leaf value) := by
  rw [value?_eq_get?_snapshot c proper, Stored.bind_leaf?_eq_some_iff, Level.get?_eq_at? proper]

theorem WellFormed.value?_of_live (wf : c.WellFormed) {child : Node}
    (live : Keyed.get? key c.children = some child) (rest : List String) :
    (Node.container c).value? (key :: rest) = child.value? rest := by
  rw [Node.value?, wf.persisted?_of_live live, Node.value?]

theorem WellFormed.value?_of_absent (wf : c.WellFormed) (absent : Keyed.get? key c.children = none)
    (rest : List String) : (Node.container c).value? (key :: rest) =
      ((Keyed.get? key c.stored).bind (Stored.at? rest)).bind Stored.leaf? := by
  rw [Node.value?, wf.persisted?_of_absent absent]

/-- A map is persisted as it was handed down if every child persists its part of it. -/
theorem WellFormed.snapshot_setStored (wf : c.WellFormed) {entries : Level}
    (canonical : (Stored.level entries).Canonical)
    (taken : ∀ key child, Keyed.get? key c.children = some child →
      (child.handed (Keyed.get? key entries)).snapshot = Keyed.get? key entries) :
    (c.setStored entries).snapshot = entries := by
  have wf' := wf.setStored canonical
  refine wf'.canonical_snapshot.sorted.ext canonical.sorted fun key => ?_
  rw [wf'.get?_snapshot, get?_children_setStored]
  cases live : Keyed.get? key c.children with
  | none => rfl
  | some child => exact taken key child live

/-- A container persists nothing if its children and its stored map have nothing. -/
theorem WellFormed.snapshot_eq_nil (wf : c.WellFormed)
    (nothing : ∀ key, (match Keyed.get? key c.children with
      | some child => child.snapshot
      | none => Keyed.get? key c.stored) = none) : c.snapshot = [] := by
  refine wf.canonical_snapshot.sorted.ext Keyed.sorted_nil fun key => ?_
  rw [wf.get?_snapshot]
  exact nothing key

theorem WellFormed.snapshot_of_live (wf : c.WellFormed) {key : String} {child : Node}
    (live : Keyed.get? key c.children = some child) :
    child.snapshot = Keyed.get? key c.snapshot := by
  rw [wf.get?_snapshot, live]

/-- A child that is detached leaves its persisted form behind, so the container persists the same. -/
theorem WellFormed.snapshot_detach? (wf : c.WellFormed) {child : Node} {c' : Container Node}
    (detached : c.detach? key = some (child, c')) : c'.snapshot = c.snapshot := by
  have wf' := wf.detach? detached
  obtain ⟨_, live, _⟩ := detach?_eq_some detached
  refine wf'.canonical_snapshot.sorted.ext wf.canonical_snapshot.sorted fun other => ?_
  rw [wf'.get?_snapshot, wf.get?_snapshot, wf.get?_children_detach? detached,
    wf.get?_stored_detach? detached]
  by_cases same : other = key
  · rw [if_pos same, if_pos same, same, live]
  · rw [if_neg same, if_neg same]

/-- A child that is attached speaks for its key from then on. -/
theorem WellFormed.snapshot_attach (wf : c.WellFormed) (room : c.HasRoom) {n : Node}
    (inner : n.WellFormed) {name : String} {r : Reported (Container Node)}
    (named : c.attachKey key = .ok name) (attached : c.attach key n = .ok r) :
    r.result.snapshot = c.snapshot.record name (n.bind c.stored name).result.snapshot := by
  have wf' := wf.attach room inner attached
  have own := (inner.bind wf.canonical name).canonical_snapshot
  have recorded := Level.canonical_record wf.canonical_snapshot name own
  obtain ⟨name', named', shape⟩ := attach_eq_ok attached
  cases named.symm.trans named'
  refine wf'.canonical_snapshot.sorted.ext recorded.sorted fun other => ?_
  rw [wf'.get?_snapshot, Level.get?_record wf.canonical_snapshot, wf.get?_snapshot, shape]
  dsimp only
  rw [get?_placed]
  by_cases same : other = name
  · rw [if_pos same, if_pos same]
  · rw [if_neg same, if_neg same]

end Container

namespace Node

variable {n : Node}

theorem snapshot_container_of_nil {c : Container Node} (empty : c.snapshot = []) :
    (Node.container c).snapshot = none := by
  rw [snapshot_container, empty]
  rfl

theorem snapshot_container_of_ne_nil {c : Container Node} (proper : c.snapshot ≠ []) :
    (Node.container c).snapshot = some (.level c.snapshot) := by
  rw [snapshot_container, if_neg fun empty => proper (List.isEmpty_iff.mp empty)]

theorem below_snapshot (c : Container Node) : Level.below (Node.container c).snapshot = c.snapshot := by
  rw [snapshot_container]
  split
  · next empty => exact (List.isEmpty_iff.mp empty).symm
  · rfl

/-- Handing a node the persisted form that it had before an operation restores that form. -/
structure Echoes (n n' : Node) : Prop where
  wellFormed : n'.WellFormed
  snapshot : (n'.handed n.snapshot).snapshot = n.snapshot

theorem Echoes.refl {n : Node} (wf : n.WellFormed) : Echoes n n := by
  refine ⟨wf, ?_⟩
  induction wf with
  | element e => cases saved : e.saved <;> simp [Element.setSaved, saved]
  | container c admits canonical children ih =>
    have wf : c.WellFormed := .container c admits canonical children
    by_cases empty : c.snapshot = []
    · rw [snapshot_container_of_nil empty, handed_none, snapshot_container_of_nil empty]
    · have restored : (c.setStored c.snapshot).snapshot = c.snapshot := by
        refine wf.snapshot_setStored wf.canonical_snapshot fun key child live => ?_
        rw [← wf.snapshot_of_live live]
        exact ih _ (Keyed.mem_of_get? live)
      rw [snapshot_container_of_ne_nil empty, handed_some, setSaved_container_level,
        snapshot_container_of_ne_nil (by rwa [restored]), restored]

theorem lifts_echoes : Lifts Echoes where
  refl _ wf := .refl wf
  child c name child child' wf live inner := by
    have wf' : (c.withChild name child').WellFormed :=
      Container.WellFormed.withChild wf live inner.wellFormed
    have wf : c.WellFormed := wf
    refine ⟨wf', ?_⟩
    by_cases empty : c.snapshot = []
    · rw [snapshot_container_of_nil empty, handed_none]
      refine snapshot_container_of_nil (wf'.snapshot_eq_nil fun key => ?_)
      have before := wf.get?_snapshot key
      rw [empty] at before
      rw [Container.get?_withChild]
      by_cases same : key = name
      · have nothing := wf.snapshot_of_live live
        have echo := inner.snapshot
        rw [nothing, empty] at echo
        rw [if_pos same]
        exact echo
      · rw [if_neg same]
        exact before.symm
    · have restored : ((c.withChild name child').setStored c.snapshot).snapshot = c.snapshot := by
        refine wf'.snapshot_setStored wf.canonical_snapshot fun key other live' => ?_
        rw [Container.get?_withChild] at live'
        by_cases same : key = name
        · rw [if_pos same] at live'
          cases live'
          rw [same, ← wf.snapshot_of_live live]
          exact inner.snapshot
        · rw [if_neg same] at live'
          rw [← wf.snapshot_of_live live']
          exact (Echoes.refl (wf.child live')).snapshot
      rw [snapshot_container_of_ne_nil empty, handed_some, setSaved_container_level,
        snapshot_container_of_ne_nil (by rwa [restored]), restored]

end Node

end Settings
