import Settings.Container.Children
import Settings.Proofs.Container.Node
import Settings.Proofs.Numeral

/-!
# Well-formed nodes

What the containers see to themselves: the keys of the children are as the shape wants them, and the
stored maps are sorted. Every operation keeps a node well-formed.

* `get?_snapshot`: what a well-formed container persists under each key.
* `WellFormed.setSaved`, `WellFormed.mapElements`, `WellFormed.bind`: handing down, operations on every
  element and late binding keep a node well-formed.
-/
namespace Settings

/-- The keys of a list of `size` children. -/
def positions (size : Nat) : List String := (List.range size).map fun (i : Nat) => Numeral.text i

/-- The keys that the children of a container can have, in their order. -/
def Shape.Admits (keys : List String) : Shape → Prop
  | .named => keys.Nodup ∧ ∀ key ∈ keys, isValidKey key = true
  | .keyed => keys.Pairwise (· < ·) ∧ ∀ key ∈ keys, isValidKey key = true
  | .indexed => keys = positions keys.length ∧ keys.length ≤ Numeral.positionBound

instance (keys : List String) : (shape : Shape) → Decidable (shape.Admits keys)
  | .named => inferInstanceAs (Decidable (keys.Nodup ∧ ∀ key ∈ keys, isValidKey key = true))
  | .keyed => inferInstanceAs (Decidable (keys.Pairwise (· < ·) ∧ ∀ key ∈ keys, isValidKey key = true))
  | .indexed =>
    inferInstanceAs (Decidable (keys = positions keys.length ∧ keys.length ≤ Numeral.positionBound))

theorem isValidKey_position (n : Nat) : isValidKey (Numeral.text n) = true := by
  rw [Numeral.text_natCast]
  simp only [isValidKey, Bool.and_eq_true, decide_eq_true_eq, String.toList_ofList, List.all_eq_true]
  constructor
  · intro empty
    have nil : Numeral.digits n = [] := by simpa using congrArg String.toList empty
    exact Numeral.digits_ne_nil n nil
  · intro c member
    have digit := Numeral.isDigit_of_mem_digits member
    have blank := not_isBlank_of_isDigit digit
    have dot : c ≠ '.' := by rintro rfl; exact absurd digit (by decide)
    have equals : c ≠ '=' := by rintro rfl; exact absurd digit (by decide)
    have hash : c ≠ '#' := by rintro rfl; exact absurd digit (by decide)
    simp [dot, equals, hash, blank]

theorem positions_nodup (size : Nat) : (positions size).Nodup := by
  refine List.Pairwise.map _ ?_ List.nodup_range
  intro i j different same
  exact different (Numeral.text_natCast_injective same)

namespace Shape.Admits

variable {shape : Shape} {keys : List String}

theorem nodup (admits : shape.Admits keys) : keys.Nodup := by
  cases shape with
  | named => exact admits.1
  | keyed =>
    refine List.Pairwise.imp ?_ admits.1
    intro a b less same
    exact String.lt_irrefl b (same ▸ less)
  | indexed => exact admits.1 ▸ positions_nodup keys.length

theorem valid (admits : shape.Admits keys) {key : String} (member : key ∈ keys) :
    isValidKey key = true := by
  cases shape with
  | named => exact admits.2 key member
  | keyed => exact admits.2 key member
  | indexed =>
    rw [admits.1] at member
    obtain ⟨i, _, rfl⟩ := List.mem_map.mp member
    exact isValidKey_position i

end Shape.Admits

/-- The keys of all children are as their containers want them, and all stored maps are sorted. -/
inductive Node.WellFormed : Node → Prop where
  | element (e : Element) : WellFormed (.element e)
  | container (c : Container Node) (admits : c.shape.Admits (Keyed.keys c.children))
      (canonical : (Stored.level c.stored).Canonical)
      (children : ∀ p ∈ c.children, WellFormed p.2) : WellFormed (.container c)

/-- A container that is a well-formed node. -/
abbrev Container.WellFormed (c : Container Node) : Prop := (Node.container c).WellFormed

namespace Container.WellFormed

variable {c : Container Node}

theorem admits (wf : c.WellFormed) : c.shape.Admits (Keyed.keys c.children) := by
  cases wf with
  | container _ admits _ _ => exact admits

theorem canonical (wf : c.WellFormed) : (Stored.level c.stored).Canonical := by
  cases wf with
  | container _ _ canonical _ => exact canonical

theorem child (wf : c.WellFormed) {key : String} {child : Node}
    (found : Keyed.get? key c.children = some child) : child.WellFormed := by
  cases wf with
  | container _ _ _ children => exact children _ (Keyed.mem_of_get? found)

theorem distinct (wf : c.WellFormed) : (Keyed.keys c.children).Nodup := wf.admits.nodup

end Container.WellFormed

theorem Container.wellFormed_of_get? {c : Container Node}
    (admits : c.shape.Admits (Keyed.keys c.children)) (canonical : (Stored.level c.stored).Canonical)
    (children : ∀ key child, Keyed.get? key c.children = some child → child.WellFormed) :
    c.WellFormed :=
  .container c admits canonical fun p member =>
    children p.1 p.2 (Keyed.get?_of_mem admits.nodup member)

theorem Container.wellFormed_empty (shape : Shape) : (Container.empty shape).WellFormed := by
  refine .container _ ?_ Stored.canonical_empty fun _ member => nomatch member
  cases shape with
  | named => exact ⟨List.nodup_nil, fun _ member => nomatch member⟩
  | keyed => exact ⟨List.Pairwise.nil, fun _ member => nomatch member⟩
  | indexed => exact ⟨rfl, Nat.zero_le _⟩

theorem Node.WellFormed.canonical_snapshot {n : Node} (wf : n.WellFormed) :
    ∀ s, n.snapshot = some s → s.Canonical := by
  induction wf with
  | element e =>
    intro s persisted
    rw [Node.snapshot_element] at persisted
    obtain ⟨text, _, rfl⟩ := Option.map_eq_some_iff.mp persisted
    trivial
  | container c admits canonical _ ih =>
    intro s persisted
    rw [Node.snapshot_container] at persisted
    split at persisted
    · cases persisted
    · cases persisted
      exact (Node.overlay_lookups admits.nodup ih canonical).1

namespace Container.WellFormed

variable {c : Container Node}

theorem canonical_snapshot (wf : c.WellFormed) : (Stored.level c.snapshot).Canonical := by
  cases wf with
  | container _ admits canonical children =>
    exact (Node.overlay_lookups admits.nodup (fun p member => (children p member).canonical_snapshot)
      canonical).1

/-- A child speaks for its key, the stored map for the keys without a child. -/
theorem get?_snapshot (wf : c.WellFormed) (key : String) :
    Keyed.get? key c.snapshot =
      match Keyed.get? key c.children with
      | some child => child.snapshot
      | none => Keyed.get? key c.stored := by
  cases wf with
  | container _ admits canonical children =>
    exact (Node.overlay_lookups admits.nodup (fun p member => (children p member).canonical_snapshot)
      canonical).2 key

theorem get?_stored (wf : c.WellFormed) {key : String} {s : Stored}
    (found : Keyed.get? key c.stored = some s) : s.Canonical :=
  wf.canonical.get? found

end Container.WellFormed

namespace Node.WellFormed

/-- Handing down keeps the keys of the children and replaces stored maps by sorted ones. -/
theorem setSaved {n : Node} (wf : n.WellFormed) {s : Stored} (canonical : s.Canonical) :
    (n.setSaved s).WellFormed := by
  induction wf generalizing s with
  | element e =>
    cases s with
    | leaf text => rw [setSaved_element_leaf]; exact .element _
    | level entries => rw [setSaved_element_level]; exact .element e
  | container c admits stored children ih =>
    cases s with
    | leaf text => rw [setSaved_container_leaf]; exact .container c admits stored children
    | level entries =>
      rw [setSaved_container_level]
      refine Container.wellFormed_of_get? ?_ canonical fun key child found => ?_
      · rw [Container.keys_setStored]
        exact admits
      · rw [Container.get?_children_setStored] at found
        obtain ⟨old, here, rfl⟩ := Option.map_eq_some_iff.mp found
        have member := Keyed.mem_of_get? here
        cases entry : Keyed.get? key entries with
        | none => exact children _ member
        | some inner => exact ih _ member (canonical.get? entry)

theorem mapElements {n : Node} (wf : n.WellFormed) (f : Element → Reported Element) :
    (n.mapElements f).result.WellFormed := by
  induction wf with
  | element e => rw [mapElements_element]; exact .element _
  | container c admits stored children ih =>
    rw [mapElements_container]
    refine Container.wellFormed_of_get? ?_ stored fun key child found => ?_
    · rw [Container.keys_mapChildren]
      exact admits
    · rw [Container.get?_mapChildren] at found
      obtain ⟨old, here, rfl⟩ := Option.map_eq_some_iff.mp found
      exact ih _ (Keyed.mem_of_get? here)

theorem bind {n : Node} (wf : n.WellFormed) {stored : Level}
    (canonical : (Stored.level stored).Canonical) (key : String) :
    (n.bind stored key).result.WellFormed := by
  unfold Node.bind
  split
  · next entry found => exact (wf.setSaved (canonical.get? found)).mapElements Element.load
  · exact wf

end Node.WellFormed

theorem Container.WellFormed.setStored {c : Container Node} (wf : c.WellFormed) {entries : Level}
    (canonical : (Stored.level entries).Canonical) : (c.setStored entries).WellFormed := by
  have handed := Node.WellFormed.setSaved wf canonical
  rwa [Node.setSaved_container_level] at handed

end Settings
