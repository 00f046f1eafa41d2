import Settings.Proofs.Stored.Path
import Settings.Container.Node

/-!
# The operations on nodes, one level at a time

A container hands every operation on to its children. The lemmas here say so for one level: what the
children of the result are and what is persisted under each key.

* `get?_snapshot`: a child speaks for its key, the stored map for the keys without a child.
* `get?_children_setStored`: a child gets its entry and keeps what it has if there is none.
-/
namespace Settings

namespace Node

/-- An induction over all nodes inside. -/
theorem induction {P : Node → Prop} (element : ∀ e, P (.element e))
    (container : ∀ c : Container Node, (∀ p ∈ c.children, P p.2) → P (.container c)) (n : Node) :
    P n :=
  Node.rec (motive_1 := P) (motive_2 := fun c => ∀ p ∈ c.children, P p.2)
    (motive_3 := fun children => ∀ p ∈ children, P p.2) (motive_4 := fun p => P p.2)
    element container (fun _ _ _ children => children) (fun _ member => nomatch member)
    (fun _ _ head tail => List.forall_mem_cons.mpr ⟨head, tail⟩) (fun _ _ inner => inner) n

theorem eq_element_of_element? {n : Node} {e : Element} (isElement : n.element? = some e) :
    n = .element e := by
  cases n with
  | element other => cases isElement; rfl
  | container c => cases isElement

theorem eq_container_of_container? {n : Node} {c : Container Node}
    (isContainer : n.container? = some c) : n = .container c := by
  cases n with
  | element e => cases isContainer
  | container other => cases isContainer; rfl

theorem bind_element?_eq_some_iff {found : Option Node} {e : Element} :
    found.bind element? = some e ↔ found = some (.element e) := by
  rcases found with _ | other | c <;> simp [element?]

/-- Hands a node its entry, if it has one. -/
def handed (entry : Option Stored) (n : Node) : Node :=
  match entry with
  | some s => n.setSaved s
  | none => n

@[simp] theorem handed_none (n : Node) : n.handed none = n := rfl

@[simp] theorem handed_some (s : Stored) (n : Node) : n.handed (some s) = n.setSaved s := rfl

@[simp] theorem snapshot_element (e : Element) :
    (Node.element e).snapshot = e.saved.map .leaf := by
  rw [snapshot]

theorem snapshot_container (c : Container Node) :
    (Node.container c).snapshot = if c.snapshot.isEmpty then none else some (.level c.snapshot) := by
  rw [snapshot]
  rfl

/-- Containers that persist the same as nodes persist the same. -/
theorem snapshot_container_inj {c d : Container Node}
    (same : (Node.container c).snapshot = (Node.container d).snapshot) : c.snapshot = d.snapshot := by
  rw [snapshot_container, snapshot_container] at same
  split at same
  · next empty =>
    split at same
    · next empty' => rw [List.isEmpty_iff.mp empty, List.isEmpty_iff.mp empty']
    · cases same
  · split at same
    · cases same
    · exact Stored.level.inj (Option.some.inj same)

@[simp] theorem setSaved_element_leaf (text : String) (e : Element) :
    (Node.element e).setSaved (.leaf text) = .element (e.setSaved (some text)) := by
  rw [setSaved]

@[simp] theorem setSaved_element_level (entries : Level) (e : Element) :
    (Node.element e).setSaved (.level entries) = .element e := by
  rw [setSaved]

@[simp] theorem setSaved_container_leaf (text : String) (c : Container Node) :
    (Node.container c).setSaved (.leaf text) = .container c := by
  rw [setSaved]

@[simp] theorem setSaved_container_level (entries : Level) (c : Container Node) :
    (Node.container c).setSaved (.level entries) = .container (c.setStored entries) := by
  rw [setSaved]
  rfl

/-- An entry that does not fit is as none to an element with nothing persisted. -/
theorem handed_of_unsaved {e : Element} (unsaved : e.saved = none) (entry : Option Stored) :
    (Node.element e).handed entry = .element (e.setSaved (entry.bind Stored.leaf?)) := by
  have same : e.setSaved none = e := by
    cases e
    cases unsaved
    rfl
  rcases entry with _ | text | entries
  · exact congrArg Node.element same.symm
  · exact setSaved_element_leaf text e
  · exact (setSaved_element_level entries e).trans (congrArg Node.element same.symm)

theorem handDown_eq_map (entries : Level) (children : List (String × Node)) :
    handDown entries children =
      children.map fun p => (p.1, p.2.handed (Keyed.get? p.1 entries)) := by
  induction children with
  | nil => rw [handDown]; rfl
  | cons p rest ih =>
    obtain ⟨key, child⟩ := p
    rw [handDown, ih, List.map_cons]
    cases Keyed.get? key entries <;> rfl

theorem mapChildren_result (f : Element → Reported Element) (children : List (String × Node)) :
    (mapChildren f children).result =
      children.map fun p => (p.1, (p.2.mapElements f).result) := by
  induction children with
  | nil => rw [mapChildren]; rfl
  | cons p rest ih =>
    obtain ⟨key, child⟩ := p
    rw [mapChildren, List.map_cons, ← ih]

@[simp] theorem mapElements_element (f : Element → Reported Element) (e : Element) :
    ((Node.element e).mapElements f).result = .element (f e).result := by
  rw [mapElements]

theorem mapElements_container (f : Element → Reported Element) (c : Container Node) :
    ((Node.container c).mapElements f).result =
      .container { c with children := (mapChildren f c.children).result } := by
  rw [mapElements]

end Node

namespace Level

theorem get?_record {entries : Level} (canonical : (Stored.level entries).Canonical) (key : String)
    (entry : Option Stored) (other : String) :
    Keyed.get? other (record key entry entries) =
      if other = key then entry else Keyed.get? other entries := by
  cases entry with
  | none => exact Keyed.get?_erase canonical.sorted.distinct key other
  | some s => exact Keyed.get?_insert key other s entries

theorem canonical_record {entries : Level} (canonical : (Stored.level entries).Canonical)
    (key : String) {entry : Option Stored} (inner : ∀ s, entry = some s → s.Canonical) :
    (Stored.level (record key entry entries)).Canonical := by
  cases entry with
  | none => exact canonical.erase key
  | some s => exact canonical.insert key (inner s rfl)

theorem record_eq_self_iff {entries : Level} (canonical : (Stored.level entries).Canonical)
    (key : String) (entry : Option Stored) :
    record key entry entries = entries ↔ Keyed.get? key entries = entry := by
  have lookups := get?_record canonical key entry
  constructor
  · intro same
    have own := lookups key
    rwa [same, if_pos rfl] at own
  · intro found
    have recorded := canonical_record canonical key fun s isEntry => canonical.get? (found.trans isEntry)
    refine recorded.sorted.ext canonical.sorted fun other => ?_
    rw [lookups]
    by_cases same : other = key
    · rw [if_pos same, same, found]
    · rw [if_neg same]

end Level

namespace Container

@[simp] theorem setStored_shape (entries : Level) (c : Container Node) :
    (c.setStored entries).shape = c.shape := rfl

@[simp] theorem setStored_stored (entries : Level) (c : Container Node) :
    (c.setStored entries).stored = entries := rfl

theorem keys_setStored (entries : Level) (c : Container Node) :
    Keyed.keys (c.setStored entries).children = Keyed.keys c.children := by
  rw [setStored, Node.handDown_eq_map]
  exact Keyed.keys_map (fun key child => child.handed (Keyed.get? key entries)) c.children

/-- A child gets its entry and keeps what it has if there is none. -/
theorem get?_children_setStored (entries : Level) (c : Container Node) (key : String) :
    Keyed.get? key (c.setStored entries).children =
      (Keyed.get? key c.children).map (Node.handed (Keyed.get? key entries)) := by
  rw [setStored, Node.handDown_eq_map]
  exact Keyed.get?_map (fun key child => child.handed (Keyed.get? key entries)) key c.children

theorem keys_mapChildren (f : Element → Reported Element) (children : List (String × Node)) :
    Keyed.keys (Node.mapChildren f children).result = Keyed.keys children := by
  rw [Node.mapChildren_result]
  exact Keyed.keys_map (fun _ child => (child.mapElements f).result) children

theorem get?_mapChildren (f : Element → Reported Element) (children : List (String × Node))
    (key : String) :
    Keyed.get? key (Node.mapChildren f children).result =
      (Keyed.get? key children).map fun child => (child.mapElements f).result := by
  rw [Node.mapChildren_result]
  exact Keyed.get?_map (fun _ child => (child.mapElements f).result) key children

end Container

namespace Node

/-- The laid-over map has what the children persist and, for keys without a child, what was there. -/
theorem overlay_lookups {children : List (String × Node)}
    (distinct : (Keyed.keys children).Nodup)
    (inner : ∀ p ∈ children, ∀ s, p.2.snapshot = some s → s.Canonical) {stored : Level}
    (canonical : (Stored.level stored).Canonical) :
    (Stored.level (overlay children stored)).Canonical ∧
      ∀ key, Keyed.get? key (overlay children stored) =
        match Keyed.get? key children with
        | some child => child.snapshot
        | none => Keyed.get? key stored := by
  induction children generalizing stored with
  | nil =>
    rw [overlay]
    exact ⟨canonical, fun _ => rfl⟩
  | cons p rest ih =>
    obtain ⟨name, child⟩ := p
    obtain ⟨fresh, tail⟩ := List.nodup_cons.mp distinct
    obtain ⟨own, others⟩ := List.forall_mem_cons.mp inner
    have recorded := Level.canonical_record canonical name own
    obtain ⟨laid, found⟩ := ih tail others recorded
    rw [overlay]
    refine ⟨laid, fun key => ?_⟩
    rw [found, Keyed.get?_cons]
    by_cases same : key = name
    · subst same
      rw [if_pos rfl, Keyed.get?_eq_none_iff.mpr fresh]
      simp [Level.get?_record canonical]
    · rw [if_neg same]
      cases Keyed.get? key rest with
      | some other => rfl
      | none => simp [Level.get?_record canonical, same]

end Node

end Settings
