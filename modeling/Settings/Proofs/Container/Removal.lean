import Settings.Proofs.Container.Persisted

/-!
# Removing persisted values

Removal edits the persisted form of the whole tree and hands it back down. A live element at the path
is cleared; but a live container that is left without an entry is not handed anything, so it keeps
what it has.

* `Releases`: when a node lets go of what is persisted at a path.
* `value?_purged_of_apart`, `value?_purged_of_releases`, `value?_purged_of_not_releases`.
-/
namespace Settings

namespace Node

variable {n : Node}

/-- The node after the persisted form of the element at a path is cleared. -/
def cleared : List String → Node → Node
  | [], .element e => .element (e.setSaved none)
  | [], .container c => .container c
  | _ :: _, .element e => .element e
  | key :: rest, .container c =>
    match c.childName? key with
    | some name =>
      match Keyed.get? name c.children with
      | some child => .container (c.withChild name (child.cleared rest))
      | none => .container c
    | none => .container c

/-- A relation that passes to containers holds between a node and the cleared one if it does so at
elements. -/
theorem Lifts.cleared {R : Node → Node → Prop} (lifts : Lifts R)
    (target : ∀ e : Element, R (.element e) (.element (e.setSaved none))) (wf : n.WellFormed)
    (path : List String) : R n (n.cleared path) := by
  induction path generalizing n with
  | nil =>
    cases n with
    | element e => exact target e
    | container c => exact lifts.refl _ wf
  | cons key rest ih =>
    cases n with
    | element e => exact lifts.refl _ wf
    | container c =>
      rw [Node.cleared]
      split
      · next name named =>
        split
        · next child live =>
          exact lifts.child c name child _ wf live (ih (Container.WellFormed.child wf live))
        · exact lifts.refl _ wf
      · exact lifts.refl _ wf

theorem echoes_cleared (wf : n.WellFormed) (path : List String) : Echoes n (n.cleared path) := by
  refine lifts_echoes.cleared (fun e => ⟨.element _, ?_⟩) wf path
  cases saved : e.saved <;> simp [Element.setSaved, saved]

/-- What a cleared container holds at a key: what the key means is cleared, all else is as before. -/
theorem cleared_cons {c : Container Node} (wf : c.WellFormed) (key : String) (rest : List String) :
    ∃ c' : Container Node, (Node.container c).cleared (key :: rest) = .container c' ∧
      c'.WellFormed ∧ c'.stored = c.stored ∧
      ∀ k, Keyed.get? k c'.children = (Keyed.get? k c.children).map fun child =>
        if c.childName? key = some k then child.cleared rest else child := by
  have wf' := (echoes_cleared wf (key :: rest)).wellFormed
  rw [cleared] at wf' ⊢
  cases named : c.childName? key with
  | none =>
    rw [named] at wf'
    exact ⟨c, rfl, wf', rfl, fun k => by simp⟩
  | some name =>
    rw [named] at wf'
    dsimp only at wf' ⊢
    cases live : Keyed.get? name c.children with
    | none =>
      rw [live] at wf'
      refine ⟨c, rfl, wf', rfl, fun k => ?_⟩
      by_cases same : name = k
      · rw [← same, live]
        rfl
      · simp [same]
    | some child =>
      rw [live] at wf'
      refine ⟨_, rfl, wf', rfl, fun k => ?_⟩
      rw [Container.get?_withChild]
      by_cases same : k = name
      · rw [same, live]
        simp
      · simp [same, Ne.symm same]

/-- Some texts are no longer persisted, all at elements; all others stay. -/
structure Fades (n n' : Node) : Prop where
  wellFormed : n'.WellFormed
  value? : ∀ path, n'.value? path = n.value? path ∨
    n'.value? path = none ∧ ∃ e, n.at? path = some (.element e)

theorem lifts_fades : Lifts Fades where
  refl _ wf := ⟨wf, fun _ => .inl rfl⟩
  child c name child child' wf live inner := by
    have wf' : (c.withChild name child').WellFormed :=
      Container.WellFormed.withChild wf live inner.wellFormed
    have wf : c.WellFormed := wf
    refine ⟨wf', fun path => ?_⟩
    cases path with
    | nil => exact .inl (by rw [value?_container_nil, value?_container_nil])
    | cons key rest =>
      by_cases same : key = name
      · subst same
        have live' : Keyed.get? key (c.withChild key child').children = some child' := by
          rw [Container.get?_withChild, if_pos rfl]
        rw [wf'.value?_of_live live', wf.value?_of_live live, at?_cons_container, live]
        exact inner.value? rest
      · refine .inl ?_
        have kept : Keyed.get? key (c.withChild name child').children = Keyed.get? key c.children := by
          rw [Container.get?_withChild, if_neg same]
        cases other : Keyed.get? key c.children with
        | none => rw [wf'.value?_of_absent (kept.trans other), wf.value?_of_absent other]; rfl
        | some sibling => rw [wf'.value?_of_live (kept.trans other), wf.value?_of_live other]

theorem fades_cleared (wf : n.WellFormed) (path : List String) : Fades n (n.cleared path) := by
  refine lifts_fades.cleared (fun e => ⟨.element _, fun q => ?_⟩) wf path
  cases q with
  | nil => exact .inr ⟨by rw [value?_element_nil]; rfl, e, at?_nil _⟩
  | cons key rest => exact .inl (by rw [value?_element_cons, value?_element_cons])

/-- An element at the path itself is cleared, and there is nothing below it. -/
theorem value?_cleared_of_element (wf : n.WellFormed) {path : List String} {e : Element}
    (live : n.at? path = some (.element e)) (rest : List String) :
    (n.cleared path).value? (path ++ rest) = none := by
  induction path generalizing n with
  | nil =>
    rw [at?_nil] at live
    cases live
    rw [cleared, List.nil_append]
    cases rest with
    | nil => exact value?_element_nil _
    | cons key others => exact value?_element_cons key others _
  | cons key others ih =>
    cases n with
    | element other => cases live
    | container c =>
      have wf : c.WellFormed := wf
      rw [at?_cons_container] at live
      obtain ⟨child, here, below⟩ := Option.bind_eq_some_iff.mp live
      obtain ⟨c', shape, wf', _, children⟩ := cleared_cons wf key others
      have here' : Keyed.get? key c'.children = some (child.cleared others) := by
        rw [children, here, wf.childName?_of_live here]
        simp
      rw [shape, List.cons_append, wf'.value?_of_live here']
      exact ih (wf.child here) below

/-- A container at the path itself is left alone. -/
theorem cleared_of_container (wf : n.WellFormed) {path : List String} {inner : Container Node}
    (live : n.at? path = some (.container inner)) : n.cleared path = n := by
  induction path generalizing n with
  | nil =>
    rw [at?_nil] at live
    cases live
    rfl
  | cons key rest ih =>
    cases n with
    | element other => cases live
    | container c =>
      have wf : c.WellFormed := wf
      rw [at?_cons_container] at live
      obtain ⟨child, here, below⟩ := Option.bind_eq_some_iff.mp live
      rw [cleared, wf.childName?_of_live here]
      dsimp only
      rw [here]
      dsimp only
      rw [ih (wf.child here) below, Container.withChild_self here]

/-- Without an element at the path itself nothing at it or below it is cleared. -/
theorem value?_cleared_of_no_element (wf : n.WellFormed) {path : List String}
    (noElement : ∀ e, n.at? path ≠ some (.element e)) (rest : List String) :
    (n.cleared path).value? (path ++ rest) = n.value? (path ++ rest) := by
  rcases (fades_cleared wf path).value? (path ++ rest) with same | ⟨_, e, live⟩
  · exact same
  · rw [at?_append] at live
    obtain ⟨m, here, _⟩ := Option.bind_eq_some_iff.mp live
    cases m with
    | element other => exact absurd here (noElement other)
    | container inner => rw [cleared_of_container wf here]

/-- What is left to hand to a node when a path is removed below it. -/
def residue : List String → Node → Option Stored
  | [], _ => none
  | key :: rest, n =>
    match n.snapshot with
    | some (.level entries) =>
      if (Level.removeAt entries (key :: rest)).2.isEmpty then none
      else some (.level (Level.removeAt entries (key :: rest)).2)
    | other => other

/-- The node after a path was removed below it and what is left was handed down. -/
def purged (path : List String) (n : Node) : Node := (n.cleared path).handed (n.residue path)

/-- A node lets go of what is persisted at a path: an element sits there, or every live container on
the way has another entry, so that something is left to hand to it. -/
def Releases (path : List String) (n : Node) : Prop :=
  (∃ e, n.at? path = some (.element e)) ∨
    ∀ onWay below c, path = onWay ++ below → n.at? onWay = some (.container c) →
      ∃ other, (c.snapshot.get? other).isSome ∧ Apart below other

end Node

namespace Container

variable {c : Container Node}

/-- The container after a path was removed from it and what is left was handed down. -/
def removal (path : List String) (c : Container Node) : Node :=
  ((Node.container c).cleared path).setSaved (.level (c.snapshot.removeAt path).2)

/-- A removal at a path of a container, seen one level down. -/
theorem WellFormed.removal_cons (wf : c.WellFormed) (key : String) (rest : List String) :
    ∃ c' : Container Node, c.removal (key :: rest) = .container c' ∧ c'.WellFormed ∧
      c'.stored = (c.snapshot.removeAt (key :: rest)).2 ∧
      (∀ k child, k ≠ key → Keyed.get? k c.children = some child →
        ∃ child', Keyed.get? k c'.children = some child' ∧ child'.snapshot = child.snapshot) ∧
      (∀ child, Keyed.get? key c.children = some child →
        Keyed.get? key c'.children = some (child.purged rest)) ∧
      ∀ k, Keyed.get? k c.children = none → Keyed.get? k c'.children = none := by
  obtain ⟨cl, shape, wf', _, children⟩ := Node.cleared_cons wf key rest
  have canonical := Level.canonical_removeAt wf.canonical_snapshot (key :: rest)
  have children' : ∀ k, Keyed.get? k (cl.setStored (c.snapshot.removeAt (key :: rest)).2).children =
      (Keyed.get? k c.children).map fun child =>
        (if c.childName? key = some k then child.cleared rest else child).handed
          (Keyed.get? k (c.snapshot.removeAt (key :: rest)).2) := by
    intro k
    rw [get?_children_setStored, children, Option.map_map]
    rfl
  refine ⟨cl.setStored (c.snapshot.removeAt (key :: rest)).2, ?_, wf'.setStored canonical, rfl,
    ?_, ?_, ?_⟩
  · rw [removal, shape, Node.setSaved_container_level]
  · intro k child different live
    refine ⟨_, by rw [children', live]; rfl, ?_⟩
    rw [Level.get?_removeAt_of_ne different, ← wf.snapshot_of_live live]
    split
    · exact (Node.echoes_cleared (wf.child live) rest).snapshot
    · exact (Node.Echoes.refl (wf.child live)).snapshot
  · intro child live
    rw [children', live, wf.childName?_of_live live]
    simp only [Option.map_some, if_true, Node.purged]
    congr 2
    cases rest with
    | nil => exact Keyed.get?_erase_self wf.canonical_snapshot.sorted.distinct
    | cons next rest =>
      rw [Level.get?_removeAt_head wf.canonical_snapshot, ← wf.snapshot_of_live live]
      rfl
  · intro k absent
    rw [children', absent]
    rfl

theorem WellFormed.value?_removal_of_ne (wf : c.WellFormed) {key k : String} (different : k ≠ key)
    (rest r : List String) :
    (c.removal (key :: rest)).value? (k :: r) = (Node.container c).value? (k :: r) := by
  obtain ⟨c', shape, wf', stored, others, _, absentStays⟩ := wf.removal_cons key rest
  rw [shape]
  cases live : Keyed.get? k c.children with
  | some child =>
    obtain ⟨child', live', same⟩ := others k child different live
    rw [wf'.value?_of_live live', wf.value?_of_live live, Node.value?_of_snapshot same]
  | none =>
    have before := wf.get?_snapshot k
    rw [live] at before
    rw [wf'.value?_of_absent (absentStays k live), wf.value?_of_absent live, stored,
      Level.get?_removeAt_of_ne different, before]

theorem WellFormed.value?_removal_of_live (wf : c.WellFormed) {key : String} {child : Node}
    (live : Keyed.get? key c.children = some child) (rest r : List String) :
    (c.removal (key :: rest)).value? (key :: r) = (child.purged rest).value? r := by
  obtain ⟨c', shape, wf', _, _, here, _⟩ := wf.removal_cons key rest
  rw [shape, wf'.value?_of_live (here child live)]

theorem WellFormed.value?_removal_of_absent (wf : c.WellFormed) {key : String}
    (absent : Keyed.get? key c.children = none) (rest r : List String) :
    (c.removal (key :: rest)).value? (key :: r) =
      (Level.get? (c.snapshot.removeAt (key :: rest)).2 (key :: r)).bind Stored.leaf? := by
  obtain ⟨c', shape, wf', stored, _, _, absentStays⟩ := wf.removal_cons key rest
  rw [shape, wf'.value?_of_absent (absentStays key absent), stored, Level.get?_cons]

theorem WellFormed.value?_removal_below_absent (wf : c.WellFormed) {key : String}
    (absent : Keyed.get? key c.children = none) (rest r : List String) :
    (c.removal (key :: rest)).value? (key :: (rest ++ r)) = none := by
  have gone : Level.get? (c.snapshot.removeAt (key :: rest)).2 (key :: (rest ++ r)) = none :=
    Level.get?_removeAt_of_prefix wf.canonical_snapshot (List.cons_ne_nil _ _)
      (List.prefix_append (key :: rest) r)
  rw [wf.value?_removal_of_absent absent, gone]
  rfl

end Container

namespace Node

variable {n : Node} {c : Container Node}

theorem snapshot_purged_element (key : String) (rest : List String) (e : Element) :
    ((Node.element e).purged (key :: rest)).snapshot = (Node.element e).snapshot := by
  rw [purged, residue, cleared]
  cases saved : e.saved <;> simp [Element.setSaved, saved]

/-- A container that nothing is left of is handed nothing. -/
theorem purged_of_removeAt_eq_nil {key : String} {rest : List String}
    (empty : (c.snapshot.removeAt (key :: rest)).2 = []) :
    (Node.container c).purged (key :: rest) = (Node.container c).cleared (key :: rest) := by
  rw [purged, residue]
  by_cases nothing : c.snapshot = []
  · rw [snapshot_container_of_nil nothing, handed_none]
  · rw [snapshot_container_of_ne_nil nothing]
    dsimp only
    rw [empty, List.isEmpty_nil, if_pos rfl, handed_none]

theorem purged_of_removeAt_ne_nil {key : String} {rest : List String}
    (left : (c.snapshot.removeAt (key :: rest)).2 ≠ []) :
    (Node.container c).purged (key :: rest) = c.removal (key :: rest) := by
  have proper : c.snapshot ≠ [] := by
    intro nothing
    rw [nothing, Level.removeAt_empty] at left
    exact left rfl
  rw [purged, residue, snapshot_container_of_ne_nil proper]
  dsimp only
  rw [if_neg fun empty => left (List.isEmpty_iff.mp empty), handed_some, Container.removal]

/-- What is persisted apart from a removed path stays. -/
theorem value?_purged_of_apart (wf : n.WellFormed) {path q : List String} (apart : Apart path q) :
    (n.purged path).value? q = n.value? q := by
  induction path generalizing n q with
  | nil => exact absurd apart.symm (not_apart_nil q)
  | cons key rest ih =>
    cases q with
    | nil => exact absurd apart (not_apart_nil _)
    | cons first others =>
      cases n with
      | element e => exact value?_of_snapshot (snapshot_purged_element key rest e) _
      | container c =>
        have wf : c.WellFormed := wf
        by_cases empty : (c.snapshot.removeAt (key :: rest)).2 = []
        · -- nothing was persisted apart from the path, and clearing makes nothing new
          have nothing : (Node.container c).value? (first :: others) = none := by
            rw [Container.value?_eq_get?_snapshot c (List.cons_ne_nil _ _)]
            cases found : c.snapshot.get? (first :: others) with
            | none => rfl
            | some s =>
              have inside : (c.snapshot.get? (first :: others)).isSome := by rw [found]; rfl
              exact absurd apart
                (Level.not_apart_of_removeAt_eq_nil wf.canonical_snapshot empty inside)
          rw [purged_of_removeAt_eq_nil empty, nothing]
          rcases (fades_cleared wf (key :: rest)).value? (first :: others) with same | ⟨gone, _⟩
          · rw [same, nothing]
          · exact gone
        · rw [purged_of_removeAt_ne_nil empty]
          by_cases same : first = key
          · subst same
            have nested : Apart rest others := by
              rcases apart_cons_iff.mp apart with different | nested
              · exact absurd rfl different
              · exact nested
            cases live : Keyed.get? first c.children with
            | some child =>
              rw [wf.value?_removal_of_live live, wf.value?_of_live live, ih (wf.child live) nested]
            | none =>
              rw [wf.value?_removal_of_absent live, Level.get?_removeAt_of_apart wf.canonical_snapshot apart,
                Container.value?_eq_get?_snapshot c (List.cons_ne_nil _ _)]
          · exact wf.value?_removal_of_ne same rest others

/-- A child on the way of a path that a container releases releases the rest. -/
theorem Releases.child {key : String} {rest : List String} {child : Node}
    (releases : (Node.container c).Releases (key :: rest))
    (live : Keyed.get? key c.children = some child) : child.Releases rest := by
  have step : ∀ q, (Node.container c).at? (key :: q) = child.at? q := at?_cons_of_live live
  rcases releases with ⟨e, here⟩ | others
  · exact .inl ⟨e, (step rest).symm.trans here⟩
  · refine .inr fun onWay below inner split reached => ?_
    refine others (key :: onWay) below inner ?_ ((step onWay).trans reached)
    rw [split, List.cons_append]

/-- A container that has another entry and yet keeps a path has a child on the way that keeps it. -/
theorem exists_child_of_not_releases {key : String} {rest : List String}
    (keeps : ¬ (Node.container c).Releases (key :: rest))
    (another : ∃ other, (c.snapshot.get? other).isSome ∧ Apart (key :: rest) other) :
    ∃ child, Keyed.get? key c.children = some child ∧ ¬ child.Releases rest := by
  cases live : Keyed.get? key c.children with
  | none =>
    refine absurd (.inr fun onWay below inner split reached => ?_) keeps
    cases onWay with
    | nil =>
      rw [at?_nil] at reached
      cases reached
      cases split
      exact another
    | cons first others =>
      cases split
      rw [at?_cons_container, live] at reached
      cases reached
  | some child =>
    have step : ∀ q, (Node.container c).at? (key :: q) = child.at? q := at?_cons_of_live live
    refine ⟨child, rfl, fun releases => keeps ?_⟩
    rcases releases with ⟨e, here⟩ | others
    · exact .inl ⟨e, (step rest).trans here⟩
    · refine .inr fun onWay below inner split reached => ?_
      cases onWay with
      | nil =>
        rw [at?_nil] at reached
        cases reached
        cases split
        exact another
      | cons first later =>
        cases split
        exact others later below inner rfl ((step later).symm.trans reached)

/-- A node that releases a path has nothing at it or below it after the removal. -/
theorem value?_purged_of_releases (wf : n.WellFormed) {path : List String}
    (releases : n.Releases path) (r : List String) : (n.purged path).value? (path ++ r) = none := by
  induction path generalizing n with
  | nil =>
    rw [purged, residue, handed_none]
    cases n with
    | element e => exact value?_cleared_of_element wf (at?_nil _) r
    | container c =>
      rcases releases with ⟨e, here⟩ | others
      · rw [at?_nil] at here
        cases here
      · obtain ⟨other, _, apart⟩ := others [] [] c rfl (at?_nil _)
        exact absurd apart.symm (not_apart_nil other)
  | cons key rest ih =>
    cases n with
    | element e =>
      rw [value?_of_snapshot (snapshot_purged_element key rest e)]
      exact value?_element_cons key _ e
    | container c =>
      have wf : c.WellFormed := wf
      by_cases empty : (c.snapshot.removeAt (key :: rest)).2 = []
      · rcases releases with ⟨e, here⟩ | others
        · rw [purged_of_removeAt_eq_nil empty]
          exact value?_cleared_of_element wf here r
        · obtain ⟨other, inside, apart⟩ := others [] (key :: rest) c rfl (at?_nil _)
          exact absurd apart
            (Level.not_apart_of_removeAt_eq_nil wf.canonical_snapshot empty inside)
      · rw [purged_of_removeAt_ne_nil empty, List.cons_append]
        cases live : Keyed.get? key c.children with
        | some child =>
          rw [wf.value?_removal_of_live live]
          exact ih (wf.child live) (releases.child live)
        | none => exact wf.value?_removal_below_absent live rest r

/-- A node that does not release a path keeps all that it has at it and below it. -/
theorem value?_purged_of_not_releases (wf : n.WellFormed) {path : List String}
    (keeps : ¬ n.Releases path) (r : List String) :
    (n.purged path).value? (path ++ r) = n.value? (path ++ r) := by
  induction path generalizing n with
  | nil =>
    rw [purged, residue, handed_none]
    exact value?_cleared_of_no_element wf (fun e here => keeps (.inl ⟨e, here⟩)) r
  | cons key rest ih =>
    cases n with
    | element e => exact value?_of_snapshot (snapshot_purged_element key rest e) _
    | container c =>
      have wf : c.WellFormed := wf
      by_cases empty : (c.snapshot.removeAt (key :: rest)).2 = []
      · rw [purged_of_removeAt_eq_nil empty]
        exact value?_cleared_of_no_element wf (fun e here => keeps (.inl ⟨e, here⟩)) r
      · rw [purged_of_removeAt_ne_nil empty, List.cons_append]
        by_cases present : (c.snapshot.get? (key :: rest)).isSome
        · -- something else is left in this container, so a child on the way is to blame
          obtain ⟨other, inside, apart⟩ :=
            Level.exists_apart_of_removeAt_ne_nil wf.canonical_snapshot present empty
          obtain ⟨child, live, keeps'⟩ := exists_child_of_not_releases keeps ⟨other, inside, apart⟩
          rw [wf.value?_removal_of_live live, wf.value?_of_live live]
          exact ih (wf.child live) keeps'
        · -- nothing was persisted at the path, and nothing is afterwards
          have before : (Node.container c).value? (key :: (rest ++ r)) = none := by
            have absent := Level.get?_append_of_absent (List.cons_ne_nil key rest)
              (Option.not_isSome_iff_eq_none.mp present) r
            rw [Container.value?_eq_get?_snapshot c (List.cons_ne_nil _ _), ← List.cons_append, absent]
            rfl
          rw [before]
          cases live : Keyed.get? key c.children with
          | none => exact wf.value?_removal_below_absent live rest r
          | some child =>
            rw [wf.value?_removal_of_live live]
            rw [wf.value?_of_live live] at before
            by_cases releases : child.Releases rest
            · exact value?_purged_of_releases (wf.child live) releases r
            · exact (ih (wf.child live) releases).trans before

end Node

end Settings
