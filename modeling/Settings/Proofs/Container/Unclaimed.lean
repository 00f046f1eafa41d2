import Settings.Proofs.Container.Persisted

/-!
# Unclaimed entries

What is persisted at a path, and what operations do to it while no live node claims the path. The
entry then stands in the stored map of the last live container on the way, and it wanders between
the maps as containers come and go.

* `Spares`: no path is claimed anew and every unclaimed entry outlasts an operation. The relation
  passes from a child to its container and holds for every operation on nodes.
* `keeps_attach`, `spares_detach?`: children come and go.
-/
namespace Settings

namespace Node

/-- No live node sits at the path or below it, and the live nodes on the way are containers. -/
def Unclaimed (path : List String) (n : Node) : Prop :=
  n.at? path = none ∧ ∀ q e, q <+: path → n.at? q ≠ some (.element e)

theorem not_unclaimed_nil (n : Node) : ¬ n.Unclaimed [] := by
  intro unclaimed
  have absent := unclaimed.1
  rw [at?_nil] at absent
  cases absent

theorem not_unclaimed_element (e : Element) (path : List String) :
    ¬ (Node.element e).Unclaimed path :=
  fun unclaimed => unclaimed.2 [] e List.nil_prefix (at?_nil _)

/-- A path below a container is unclaimed if the child on the way leaves it unclaimed. -/
theorem unclaimed_cons_iff {key : String} {rest : List String} {c : Container Node} :
    (Node.container c).Unclaimed (key :: rest) ↔
      ∀ child, Keyed.get? key c.children = some child → child.Unclaimed rest := by
  constructor
  · intro unclaimed child live
    have step : ∀ q, (Node.container c).at? (key :: q) = child.at? q := at?_cons_of_live live
    refine ⟨(step rest).symm.trans unclaimed.1, fun q e onWay reached => ?_⟩
    exact unclaimed.2 (key :: q) e (List.cons_prefix_cons.mpr ⟨rfl, onWay⟩) ((step q).trans reached)
  · intro below
    refine ⟨?_, fun q e onWay reached => ?_⟩
    · rw [at?_cons_container]
      cases live : Keyed.get? key c.children with
      | none => rfl
      | some child => exact (below child live).1
    · cases q with
      | nil =>
        rw [at?_nil] at reached
        cases reached
      | cons first others =>
        obtain ⟨rfl, onWay'⟩ := List.cons_prefix_cons.mp onWay
        rw [at?_cons_container] at reached
        obtain ⟨child, live, reached'⟩ := Option.bind_eq_some_iff.mp reached
        exact (below child live).2 others e onWay' reached'

/-- Unclaimed paths can be told by walking down. -/
def isUnclaimed : List String → Node → Bool
  | [], _ => false
  | _ :: _, .element _ => false
  | key :: rest, .container c =>
    match Keyed.get? key c.children with
    | some child => isUnclaimed rest child
    | none => true

theorem isUnclaimed_iff {path : List String} {n : Node} :
    isUnclaimed path n = true ↔ n.Unclaimed path := by
  induction path generalizing n with
  | nil => simp [isUnclaimed, not_unclaimed_nil]
  | cons key rest ih =>
    cases n with
    | element e => simp [isUnclaimed, not_unclaimed_element]
    | container c =>
      rw [isUnclaimed, unclaimed_cons_iff]
      cases Keyed.get? key c.children with
      | none => simp
      | some child => simp [ih]

instance (path : List String) (n : Node) : Decidable (n.Unclaimed path) :=
  decidable_of_iff (isUnclaimed path n = true) isUnclaimed_iff

variable {n n' : Node} {path : List String} {entry : Stored}

/-- Operations on elements do not change where nodes sit. -/
theorem unclaimed_mapElements_iff (f : Element → Reported Element) :
    (n.mapElements f).result.Unclaimed path ↔ n.Unclaimed path := by
  induction path generalizing n with
  | nil => exact iff_of_false (not_unclaimed_nil _) (not_unclaimed_nil _)
  | cons key rest ih =>
    cases n with
    | element e =>
      rw [mapElements_element]
      exact iff_of_false (not_unclaimed_element _ _) (not_unclaimed_element _ _)
    | container c =>
      rw [mapElements_container, unclaimed_cons_iff, unclaimed_cons_iff]
      dsimp only
      rw [Container.get?_mapChildren]
      cases Keyed.get? key c.children with
      | none => simp
      | some child => simpa using ih

/-- Handing down does not change where nodes sit. -/
theorem unclaimed_setSaved_iff {s : Stored} : (n.setSaved s).Unclaimed path ↔ n.Unclaimed path := by
  induction path generalizing n s with
  | nil => exact iff_of_false (not_unclaimed_nil _) (not_unclaimed_nil _)
  | cons key rest ih =>
    cases n with
    | element e =>
      cases s with
      | leaf text =>
        rw [setSaved_element_leaf]
        exact iff_of_false (not_unclaimed_element _ _) (not_unclaimed_element _ _)
      | level entries => rw [setSaved_element_level]
    | container c =>
      cases s with
      | leaf text => rw [setSaved_container_leaf]
      | level entries =>
        rw [setSaved_container_level, unclaimed_cons_iff, unclaimed_cons_iff,
          Container.get?_children_setStored]
        cases Keyed.get? key c.children with
        | none => simp
        | some child =>
          cases Keyed.get? key entries with
          | none => simp
          | some inner => simpa using ih

theorem unclaimed_bind_iff {stored : Level} {key : String} :
    (n.bind stored key).result.Unclaimed path ↔ n.Unclaimed path := by
  unfold Node.bind
  split
  · exact (unclaimed_mapElements_iff Element.load).trans unclaimed_setSaved_iff
  · exact Iff.rfl

/-- Operations on elements leave unclaimed entries alone. -/
theorem persisted?_mapElements (wf : n.WellFormed) (f : Element → Reported Element)
    (unclaimed : n.Unclaimed path) :
    (n.mapElements f).result.persisted? path = n.persisted? path := by
  induction path generalizing n with
  | nil => exact absurd unclaimed (not_unclaimed_nil n)
  | cons key rest ih =>
    cases n with
    | element e => exact absurd unclaimed (not_unclaimed_element e _)
    | container c =>
      have wf' := wf.mapElements f
      rw [mapElements_container] at wf' ⊢
      rw [Container.WellFormed.persisted?_cons wf', Container.WellFormed.persisted?_cons wf]
      dsimp only
      rw [Container.get?_mapChildren]
      cases live : Keyed.get? key c.children with
      | none => rfl
      | some child =>
        exact ih (Container.WellFormed.child wf live) (unclaimed_cons_iff.mp unclaimed child live)

/-- What is handed down for an unclaimed path is persisted there. -/
theorem persisted?_setSaved (wf : n.WellFormed) {s : Stored} (canonical : s.Canonical)
    (unclaimed : n.Unclaimed path) (handed : s.at? path = some entry) :
    (n.setSaved s).persisted? path = some entry := by
  induction path generalizing n s with
  | nil => exact absurd unclaimed (not_unclaimed_nil n)
  | cons key rest ih =>
    cases n with
    | element e => exact absurd unclaimed (not_unclaimed_element e _)
    | container c =>
      cases s with
      | leaf text => cases handed
      | level entries =>
        rw [Stored.at?_cons_level] at handed
        have wf' : (c.setStored entries).WellFormed := Container.WellFormed.setStored wf canonical
        rw [setSaved_container_level, wf'.persisted?_cons, Container.get?_children_setStored]
        cases live : Keyed.get? key c.children with
        | none => exact handed
        | some child =>
          obtain ⟨inner, found, below⟩ := Option.bind_eq_some_iff.mp handed
          rw [found]
          exact ih (Container.WellFormed.child wf live) (canonical.get? found)
            (unclaimed_cons_iff.mp unclaimed child live) below

/-- What an operation does to the entries at paths that are unclaimed before and after: they stay. -/
structure Keeps (n n' : Node) : Prop where
  wellFormed : n'.WellFormed
  entry : ∀ path entry, n.Unclaimed path → n'.Unclaimed path → n.persisted? path = some entry →
    n'.persisted? path = some entry

/-- Moreover no path is claimed anew. -/
structure Spares (n n' : Node) : Prop extends Keeps n n' where
  unclaimed : ∀ path, n.Unclaimed path → n'.Unclaimed path

theorem lifts_keeps : Lifts Keeps where
  refl _ wf := ⟨wf, fun _ _ _ _ present => present⟩
  child c name child child' wf live inner := by
    have wf' : (c.withChild name child').WellFormed :=
      Container.WellFormed.withChild wf live inner.wellFormed
    refine ⟨wf', fun path entry unclaimed unclaimed' present => ?_⟩
    cases path with
    | nil => exact absurd unclaimed (not_unclaimed_nil _)
    | cons key rest =>
      rw [unclaimed_cons_iff] at unclaimed unclaimed'
      rw [Container.get?_withChild] at unclaimed'
      rw [Container.WellFormed.persisted?_cons wf] at present
      rw [wf'.persisted?_cons, Container.get?_withChild]
      by_cases same : key = name
      · subst same
        rw [if_pos rfl] at unclaimed' ⊢
        rw [live] at present
        exact inner.entry rest entry (unclaimed child live) (unclaimed' child' rfl) present
      · rwa [if_neg same]

theorem lifts_spares : Lifts Spares where
  refl n wf := ⟨lifts_keeps.refl n wf, fun _ unclaimed => unclaimed⟩
  child c name child child' wf live inner := by
    refine ⟨lifts_keeps.child c name child child' wf live inner.toKeeps, fun path unclaimed => ?_⟩
    cases path with
    | nil => exact absurd unclaimed (not_unclaimed_nil _)
    | cons key rest =>
      rw [unclaimed_cons_iff] at unclaimed ⊢
      rw [Container.get?_withChild]
      by_cases same : key = name
      · subst same
        rw [if_pos rfl]
        rintro _ ⟨⟩
        exact inner.unclaimed rest (unclaimed child live)
      · rwa [if_neg same]

/-- An element claims its own path and all paths below it. -/
theorem spares_element (e e' : Element) : Spares (.element e) (.element e') where
  wellFormed := .element e'
  entry path _ unclaimed := absurd unclaimed (not_unclaimed_element e path)
  unclaimed path unclaimed := absurd unclaimed (not_unclaimed_element e path)

theorem spares_mapElements (wf : n.WellFormed) (f : Element → Reported Element) :
    Spares n (n.mapElements f).result where
  wellFormed := wf.mapElements f
  entry _ _ unclaimed _ present := (persisted?_mapElements wf f unclaimed).trans present
  unclaimed _ := (unclaimed_mapElements_iff f).mpr

end Node

namespace Container

variable {c c' : Container Node} {n child : Node}

/-- A new child takes up what stands in the stored map under its key; what it does not claim stays in
its own stored maps. -/
theorem WellFormed.keeps_attach (wf : c.WellFormed) (room : c.HasRoom) (inner : n.WellFormed)
    {key name : String} (named : c.attachKey key = .ok name)
    (vacant : Keyed.get? name c.children = none) {r : Reported (Container Node)}
    (attached : c.attach key n = .ok r) : Node.Keeps (.container c) (.container r.result) := by
  have wf' := wf.attach room inner attached
  refine ⟨wf', fun path entry unclaimed unclaimed' present => ?_⟩
  obtain ⟨name', named', shape⟩ := attach_eq_ok attached
  rw [named] at named'
  cases named'
  cases path with
  | nil => exact absurd unclaimed (Node.not_unclaimed_nil _)
  | cons first rest =>
    rw [Node.unclaimed_cons_iff] at unclaimed'
    rw [wf'.persisted?_cons]
    rw [shape] at unclaimed' ⊢
    dsimp only at unclaimed' ⊢
    rw [get?_placed] at unclaimed' ⊢
    by_cases same : first = name
    · subst same
      rw [if_pos rfl] at unclaimed' ⊢
      rw [wf.persisted?_of_absent vacant] at present
      obtain ⟨s, found, below⟩ := Option.bind_eq_some_iff.mp present
      have free := Node.unclaimed_bind_iff.mp (unclaimed' _ rfl)
      have canonical := wf.get?_stored found
      have bound : n.bind c.stored first = (n.setSaved s).load := by rw [Node.bind, found]
      dsimp only
      rw [bound, Node.load, Node.persisted?_mapElements (inner.setSaved canonical) _
        (Node.unclaimed_setSaved_iff.mpr free)]
      exact Node.persisted?_setSaved inner canonical free below
    · rw [if_neg same]
      rwa [wf.persisted?_cons] at present

/-- A child that is detached leaves its persisted form behind. -/
theorem WellFormed.spares_detach? (wf : c.WellFormed) {key : String}
    (detached : c.detach? key = some (child, c')) : Node.Spares (.container c) (.container c') := by
  refine ⟨⟨wf.detach? detached, fun path entry _ _ present => ?_⟩, fun path unclaimed => ?_⟩
  · rwa [Node.persisted?, Node.snapshot_container, wf.snapshot_detach? detached,
      ← Node.snapshot_container]
  · cases path with
    | nil => exact absurd unclaimed (Node.not_unclaimed_nil _)
    | cons first rest =>
      rw [Node.unclaimed_cons_iff] at unclaimed ⊢
      rw [wf.get?_children_detach? detached]
      by_cases same : first = key
      · rw [if_pos same]
        intro other found
        cases found
      · rwa [if_neg same]

/-- Handing down a stored map keeps an unclaimed entry that the map has. -/
theorem WellFormed.persisted?_setStored (wf : c.WellFormed) {entries : Level}
    (canonical : (Stored.level entries).Canonical) {path : List String} {entry : Stored}
    (unclaimed : (Node.container c).Unclaimed path) (handed : entries.get? path = some entry) :
    (Node.container (c.setStored entries)).persisted? path = some entry := by
  have proper : path ≠ [] := fun empty => Node.not_unclaimed_nil _ (empty ▸ unclaimed)
  rw [← Node.setSaved_container_level]
  exact Node.persisted?_setSaved wf canonical unclaimed ((Level.get?_eq_at? proper).symm.trans handed)

end Container

end Settings
