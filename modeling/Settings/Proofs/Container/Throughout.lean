import Settings.Proofs.Container.Persisted

/-!
# What holds throughout a node

A condition on the elements and one on the stored maps, at every depth. Handing down and operations
on the elements are seen path by path, so both conditions are carried by them.

* `at?_setSaved`: a live node is handed what the map has at its path.
* `Throughout.setSaved`, `Throughout.mapElements`, `Throughout.attach`: what the operations keep.
-/
namespace Settings

namespace Node

variable {n m : Node} {c : Container Node} {P P' : Element → Prop} {Q : Level → Prop}

theorem map_handed_none (found : Option Node) : found.map (handed none) = found := by
  cases found <;> rfl

/-- A live node is handed what the map has at its path. -/
theorem at?_setSaved (n : Node) (s : Stored) (path : List String) :
    (n.setSaved s).at? path = (n.at? path).map (handed (s.at? path)) := by
  induction path generalizing n s with
  | nil => simp
  | cons key rest ih =>
    cases n with
    | element e => cases s <;> simp
    | container c =>
      cases s with
      | leaf text => rw [setSaved_container_leaf, Stored.at?_cons_leaf, map_handed_none]
      | level entries =>
        rw [setSaved_container_level, at?_cons_container, at?_cons_container,
          Container.get?_children_setStored, Stored.at?_cons_level]
        cases Keyed.get? key c.children with
        | none => rfl
        | some child =>
          cases Keyed.get? key entries with
          | none => exact (map_handed_none _).symm
          | some inner => exact ih child inner

theorem handed_eq_element {entry : Option Stored} {e : Element} (same : n.handed entry = .element e) :
    ∃ old, n = .element old ∧ (e = old ∨ ∃ saved, e = old.setSaved saved) := by
  cases n with
  | element old =>
    refine ⟨old, rfl, ?_⟩
    rcases entry with _ | text | entries
    · exact .inl (Node.element.inj same).symm
    · rw [handed_some, setSaved_element_leaf] at same
      exact .inr ⟨_, (Node.element.inj same).symm⟩
    · rw [handed_some, setSaved_element_level] at same
      exact .inl (Node.element.inj same).symm
  | container c => rcases entry with _ | text | entries <;> simp at same

theorem handed_eq_container {entry : Option Stored} (same : n.handed entry = .container c) :
    ∃ old, n = .container old ∧
      (c = old ∨ ∃ entries, entry = some (.level entries) ∧ c = old.setStored entries) := by
  cases n with
  | element e => rcases entry with _ | text | entries <;> simp at same
  | container old =>
    refine ⟨old, rfl, ?_⟩
    rcases entry with _ | text | entries
    · exact .inl (Node.container.inj same).symm
    · rw [handed_some, setSaved_container_leaf] at same
      exact .inl (Node.container.inj same).symm
    · rw [handed_some, setSaved_container_level] at same
      exact .inr ⟨entries, rfl, (Node.container.inj same).symm⟩

/-- `P` holds of every element inside and `Q` of every stored map. -/
structure Throughout (P : Element → Prop) (Q : Level → Prop) (n : Node) : Prop where
  element : ∀ path e, n.at? path = some (.element e) → P e
  stored : ∀ path c, n.at? path = some (.container c) → Q c.stored

theorem throughout_element {e : Element} (holds : P e) : (Node.element e).Throughout P Q := by
  constructor
  · intro path other live
    cases path with
    | nil =>
      rw [at?_nil] at live
      cases live
      exact holds
    | cons key rest => cases live
  · intro path c live
    cases path with
    | nil =>
      rw [at?_nil] at live
      cases live
    | cons key rest => cases live

theorem Throughout.of_at? (all : n.Throughout P Q) {path : List String} (live : n.at? path = some m) :
    m.Throughout P Q := by
  constructor
  · intro rest e reached
    exact all.element (path ++ rest) e (by rw [at?_append, live]; exact reached)
  · intro rest c reached
    exact all.stored (path ++ rest) c (by rw [at?_append, live]; exact reached)

theorem throughout_container_iff :
    (Node.container c).Throughout P Q ↔
      Q c.stored ∧ ∀ key child, Keyed.get? key c.children = some child → child.Throughout P Q := by
  constructor
  · intro all
    refine ⟨all.stored [] c (at?_nil _), fun key child live => ?_⟩
    exact all.of_at? ((at?_cons_of_live live []).trans (at?_nil child))
  · rintro ⟨own, children⟩
    constructor
    · intro path e live
      cases path with
      | nil =>
        rw [at?_nil] at live
        cases live
      | cons key rest =>
        obtain ⟨child, here, below⟩ := Option.bind_eq_some_iff.mp live
        exact (children key child here).element rest e below
    · intro path inner live
      cases path with
      | nil =>
        rw [at?_nil] at live
        cases live
        exact own
      | cons key rest =>
        obtain ⟨child, here, below⟩ := Option.bind_eq_some_iff.mp live
        exact (children key child here).stored rest inner below

theorem Throughout.mono (all : n.Throughout P Q) (weaker : ∀ e, P e → P' e) : n.Throughout P' Q :=
  ⟨fun path e live => weaker e (all.element path e live), all.stored⟩

/-- An operation on every element changes what holds of them as it does for each. -/
theorem Throughout.mapElements (all : n.Throughout P Q) {f : Element → Reported Element}
    (step : ∀ e, P e → P' (f e).result) : (n.mapElements f).result.Throughout P' Q := by
  constructor
  · intro path e live
    rw [at?_mapElements] at live
    obtain ⟨m, before, same⟩ := Option.map_eq_some_iff.mp live
    cases m with
    | element old =>
      rw [mapElements_element] at same
      cases same
      exact step old (all.element path old before)
    | container c =>
      rw [mapElements_container] at same
      cases same
  · intro path c live
    rw [at?_mapElements] at live
    obtain ⟨m, before, same⟩ := Option.map_eq_some_iff.mp live
    cases m with
    | element old =>
      rw [mapElements_element] at same
      cases same
    | container old =>
      rw [mapElements_container] at same
      cases same
      exact all.stored path old before

/-- A condition that passes from a stored map to the levels inside. -/
def Hereditary (Q : Level → Prop) : Prop :=
  ∀ entries key inner, Q entries → Keyed.get? key entries = some (.level inner) → Q inner

theorem Hereditary.at? (hereditary : Hereditary Q) {entries inner : Level} (holds : Q entries)
    {path : List String}
    (found : (Stored.level entries).at? path = some (.level inner)) : Q inner := by
  induction path generalizing entries with
  | nil =>
    rw [Stored.at?_nil] at found
    cases found
    exact holds
  | cons key rest ih =>
    obtain ⟨s, here, below⟩ := Option.bind_eq_some_iff.mp found
    cases s with
    | leaf text => cases rest <;> cases below
    | level others => exact ih (hereditary entries key others holds here) below

/-- What is handed down replaces saved forms and stored maps. -/
theorem Throughout.setSaved (all : n.Throughout P Q) (saves : ∀ e saved, P e → P (e.setSaved saved))
    {s : Stored} (fine : ∀ path entries, s.at? path = some (.level entries) → Q entries) :
    (n.setSaved s).Throughout P Q := by
  constructor
  · intro path e live
    rw [at?_setSaved] at live
    obtain ⟨m, before, same⟩ := Option.map_eq_some_iff.mp live
    obtain ⟨old, rfl, kept | ⟨saved, replaced⟩⟩ := handed_eq_element same
    · exact kept ▸ all.element path old before
    · exact replaced ▸ saves old saved (all.element path old before)
  · intro path c live
    rw [at?_setSaved] at live
    obtain ⟨m, before, same⟩ := Option.map_eq_some_iff.mp live
    obtain ⟨old, rfl, kept | ⟨entries, given, replaced⟩⟩ := handed_eq_container same
    · exact kept ▸ all.stored path old before
    · rw [replaced]
      exact fine path entries given

theorem Throughout.bind (all : n.Throughout P Q) (saves : ∀ e saved, P e → P (e.setSaved saved))
    (loads : ∀ e, P e → P e.load.result) (hereditary : Hereditary Q) {stored : Level}
    (fine : Q stored) (key : String) : (n.bind stored key).result.Throughout P Q := by
  unfold Node.bind
  split
  · next entry found =>
    refine Throughout.mapElements (all.setSaved saves fun path entries below => ?_) loads
    have whole : (Stored.level stored).at? (key :: path) = some (.level entries) := by
      rw [Stored.at?_cons_level, found]
      exact below
    exact hereditary.at? fine whole
  · exact all

/-- An operation below keeps what holds throughout. -/
theorem lifts_throughout : Lifts fun n n' => n.Throughout P Q → n'.Throughout P Q where
  refl _ _ all := all
  child c name child child' _ live inner all := by
    obtain ⟨own, children⟩ := throughout_container_iff.mp all
    refine throughout_container_iff.mpr ⟨own, fun key other found => ?_⟩
    rw [Container.get?_withChild] at found
    split at found
    · cases found
      exact inner (children name child live)
    · exact children key other found

end Node

namespace Container

variable {c : Container Node} {n : Node} {P : Element → Prop} {Q : Level → Prop}

/-- What holds throughout a container. -/
abbrev Throughout (P : Element → Prop) (Q : Level → Prop) (c : Container Node) : Prop :=
  (Node.container c).Throughout P Q

theorem throughout_empty (shape : Shape) (holds : Q []) : (Container.empty shape).Throughout P Q :=
  Node.throughout_container_iff.mpr ⟨holds, fun _ _ found => nomatch found⟩

theorem Throughout.setStored (all : c.Throughout P Q) (saves : ∀ e saved, P e → P (e.setSaved saved))
    (hereditary : Node.Hereditary Q) {entries : Level} (fine : Q entries) :
    (c.setStored entries).Throughout P Q := by
  have handed := Node.Throughout.setSaved all saves (s := .level entries) fun _ _ => hereditary.at? fine
  rwa [Node.setSaved_container_level] at handed

theorem Throughout.mapChildren {P' : Element → Prop} (all : c.Throughout P Q)
    {f : Element → Reported Element} (step : ∀ e, P e → P' (f e).result) :
    ({ c with children := (Node.mapChildren f c.children).result } : Container Node).Throughout P' Q := by
  have mapped := Node.Throughout.mapElements all step
  rwa [Node.mapElements_container] at mapped

/-- A node that is attached takes its part of the stored map. -/
theorem Throughout.attach (all : c.Throughout P Q) (inner : n.Throughout P Q)
    (saves : ∀ e saved, P e → P (e.setSaved saved)) (loads : ∀ e, P e → P e.load.result)
    (hereditary : Node.Hereditary Q) {key : String} {r : Reported (Container Node)}
    (attached : c.attach key n = .ok r) : r.result.Throughout P Q := by
  obtain ⟨name, _, shape⟩ := attach_eq_ok attached
  obtain ⟨own, children⟩ := Node.throughout_container_iff.mp all
  rw [shape]
  refine Node.throughout_container_iff.mpr ⟨own, fun other child found => ?_⟩
  rw [get?_placed] at found
  split at found
  · cases found
    exact inner.bind saves loads hereditary own name
  · exact children other child found

end Container

end Settings
