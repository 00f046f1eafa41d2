import Settings.Proofs.Container.Compact

/-!
# Maps that fit a node

What handing down does if the map fits: a leaf wherever an element is meant, a level wherever a
container is. Its leaves are persisted then; live nodes that it does not mention are left as they
are, so they go on persisting what they have.

* `value?_setSaved_of_fits`: the leaves of the map are persisted.
* `at?_setSaved_of_absent`: live nodes that are not mentioned stay.
* `snapshot_setSaved_of_fits`: the map is persisted as it is if these have nothing.
-/
namespace Settings

/-- A leaf stands only at a live element and a level only at a live container. -/
def Stored.Fits (s : Stored) (n : Node) : Prop :=
  ∀ path m entry, n.at? path = some m → s.at? path = some entry →
    entry.leaf?.isSome = m.element?.isSome

/-- A live node that the map does not mention persists nothing. -/
def Stored.Covers (s : Stored) (n : Node) : Prop :=
  ∀ path m, n.at? path = some m → s.at? path = none → m.snapshot = none

namespace Stored

variable {s : Stored} {n : Node} {c : Container Node} {entries : Level}

theorem Fits.child (fits : (Stored.level entries).Fits (.container c)) {key : String} {child : Node}
    (live : Keyed.get? key c.children = some child) (found : Keyed.get? key entries = some s) :
    s.Fits child := by
  intro path m entry reached there
  refine fits (key :: path) m entry ((Node.at?_cons_of_live live path).trans reached) ?_
  rw [at?_cons_level, found]
  exact there

theorem Covers.child (covers : (Stored.level entries).Covers (.container c)) {key : String}
    {child : Node} (live : Keyed.get? key c.children = some child)
    (found : Keyed.get? key entries = some s) : s.Covers child := by
  intro path m reached absent
  refine covers (key :: path) m ((Node.at?_cons_of_live live path).trans reached) ?_
  rw [at?_cons_level, found]
  exact absent

/-- The empty map fits every container. -/
theorem fits_empty (c : Container Node) : (Stored.level []).Fits (.container c) := by
  intro path m entry live found
  cases path with
  | nil =>
    rw [Node.at?_nil] at live
    rw [at?_nil] at found
    cases live
    cases found
    rfl
  | cons key rest => cases found

theorem Covers.snapshot_of_absent (covers : (Stored.level entries).Covers (.container c))
    {key : String} {child : Node} (live : Keyed.get? key c.children = some child)
    (absent : Keyed.get? key entries = none) : child.snapshot = none := by
  refine covers [key] child ?_ ?_
  · rw [Node.at?_cons_container, live, Option.bind_some, Node.at?_nil]
  · rw [at?_cons_level, absent, Option.bind_none]

/-- What fits an element is a leaf and what fits a container is a level. -/
theorem Fits.here (fits : s.Fits n) : s.leaf?.isSome = n.element?.isSome :=
  fits [] n s (Node.at?_nil n) (at?_nil s)

end Stored

namespace Node

variable {n m : Node} {s : Stored} {path : List String}

/-- A live node that is not mentioned is left as it is. -/
theorem at?_setSaved_of_absent (live : n.at? path = some m) (absent : s.at? path = none) :
    (n.setSaved s).at? path = some m := by
  rw [at?_setSaved, live, absent]
  rfl

/-- What a node persists below the place of a live node is what that one persists. -/
theorem persisted?_append_of_at? (wf : n.WellFormed) (live : n.at? path = some m)
    (rest : List String) :
    n.persisted? (path ++ rest) = m.persisted? rest := by
  induction path generalizing n with
  | nil =>
    rw [at?_nil] at live
    cases live
    rfl
  | cons key others ih =>
    cases n with
    | element e => cases live
    | container c =>
      have wf : c.WellFormed := wf
      rw [at?_cons_container] at live
      obtain ⟨child, here, below⟩ := Option.bind_eq_some_iff.mp live
      rw [List.cons_append, wf.persisted?_of_live here]
      exact ih (wf.child here) below

theorem value?_append_of_at? (wf : n.WellFormed) (live : n.at? path = some m) (rest : List String) :
    n.value? (path ++ rest) = m.value? rest := by
  rw [value?, persisted?_append_of_at? wf live, value?]

/-- Where nothing is persisted, every map covers what is live. -/
theorem covers_of_snapshot_eq_none (wf : n.WellFormed) (nothing : n.snapshot = none) :
    s.Covers n := by
  intro path m live _
  have same := persisted?_append_of_at? wf live []
  rw [persisted?, persisted?, nothing] at same
  cases persisted : m.snapshot with
  | none => rfl
  | some t =>
    rw [persisted, Option.bind_some, Stored.at?_nil] at same
    cases same

/-- The leaves of a map that fits are persisted. -/
theorem value?_setSaved_of_fits (wf : n.WellFormed) (canonical : s.Canonical) (fits : s.Fits n)
    {value : String} (found : s.at? path = some (.leaf value)) :
    (n.setSaved s).value? path = some value := by
  induction path generalizing n s with
  | nil =>
    rw [Stored.at?_nil] at found
    cases found
    cases n with
    | element e => rw [setSaved_element_leaf, value?_element_nil]; rfl
    | container c => cases fits.here
  | cons key rest ih =>
    cases s with
    | leaf text => cases found
    | level entries =>
      cases n with
      | element e => cases fits.here
      | container c =>
        have wf : c.WellFormed := wf
        have wf' := wf.setStored canonical
        rw [Stored.at?_cons_level] at found
        rw [setSaved_container_level]
        cases live : Keyed.get? key c.children with
        | none =>
          have absent : Keyed.get? key (c.setStored entries).children = none := by
            rw [Container.get?_children_setStored, live]
            rfl
          rw [wf'.value?_of_absent absent, Container.setStored_stored, found]
          rfl
        | some child =>
          obtain ⟨inner, here, below⟩ := Option.bind_eq_some_iff.mp found
          have live' : Keyed.get? key (c.setStored entries).children = some (child.setSaved inner) := by
            rw [Container.get?_children_setStored, live, here]
            rfl
          rw [wf'.value?_of_live live']
          exact ih (wf.child live) (canonical.get? here) (fits.child live here) below

/-- A map that fits is persisted as it is if the live nodes that it does not mention have nothing. -/
theorem snapshot_setSaved_of_fits (wf : n.WellFormed) (canonical : s.Canonical) (compact : s.Compact)
    (fits : s.Fits n) (covers : s.Covers n) : (n.setSaved s).snapshot = some s := by
  induction wf generalizing s with
  | element e =>
    cases s with
    | leaf text => rw [setSaved_element_leaf, snapshot_element]; rfl
    | level entries => cases fits.here
  | container c admits stored children ih =>
    cases s with
    | leaf text => cases fits.here
    | level entries =>
      have wf : c.WellFormed := .container c admits stored children
      obtain ⟨proper, inner⟩ := Stored.compact_level_iff.mp compact
      have same : (c.setStored entries).snapshot = entries := by
        refine wf.snapshot_setStored canonical fun key child live => ?_
        cases found : Keyed.get? key entries with
        | none => exact covers.snapshot_of_absent live found
        | some s =>
          exact ih _ (Keyed.mem_of_get? live) (canonical.get? found) (inner key s found)
            (fits.child live found) (covers.child live found)
      rw [setSaved_container_level, snapshot_container_of_ne_nil (by rwa [same]), same]

end Node

namespace Container

variable {c : Container Node} {entries : Level}

/-- The root persists a map that fits as it is if the live nodes that the map does not mention have
nothing. -/
theorem WellFormed.snapshot_setStored_of_fits (wf : c.WellFormed)
    (canonical : (Stored.level entries).Canonical) (compact : Level.Compact entries)
    (fits : (Stored.level entries).Fits (.container c))
    (covers : (Stored.level entries).Covers (.container c)) :
    (c.setStored entries).snapshot = entries := by
  refine wf.snapshot_setStored canonical fun key child live => ?_
  cases found : Keyed.get? key entries with
  | none => exact covers.snapshot_of_absent live found
  | some s =>
    exact Node.snapshot_setSaved_of_fits (wf.child live) (canonical.get? found) (compact key s found)
      (fits.child live found) (covers.child live found)

end Container

end Settings
