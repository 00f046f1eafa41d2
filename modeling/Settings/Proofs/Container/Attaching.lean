import Settings.Proofs.Container.LateBinding
import Settings.Proofs.Container.Transfer

/-!
# Nodes that are attached to stored entries

A node that is attached takes up the entry of its name in the stored map of the container, as far as it
fits. That entry is the one that was last handed to the container, or that a detached child left: it is
not what a live child of the name persists, and an entry that does not fit is left out of what the
container persists.

* `Renews.snapshot_bind`: a renewed node persists the entry, as far as it fits.
* `WellFormed.snapshot_bind_of_misfit`: an entry that does not fit adds nothing to what a node persists.
* `WellFormed.snapshot_returned`: taking a child out and attaching it again, or one that stands for it,
  keeps all that is persisted.
* `WellFormed.snapshot_replaced_iff`: attaching over the child does so only if its entry is up to date.
* `WellFormed.snapshot_attach_of_misfit`: an entry that does not fit is no longer persisted.
-/
namespace Settings

namespace Node

variable {n old m : Node} {entry entry' : Option Stored}

/-- The first node is a fresh one that was made like the second one: an element with the same setup, or
an empty container of the same shape. -/
inductive Renews : Node → Node → Prop where
  | element (e old : Element) (fresh : (Node.element e).Fresh) (same : e.kind.setup = old.kind.setup) :
    Renews (.element e) (.element old)
  | container (old : Container Node) : Renews (.container (.empty old.shape)) (.container old)

theorem Renews.fresh (renews : n.Renews old) : n.Fresh := by
  cases renews with
  | element e old fresh same => exact fresh
  | container old => exact .container _ rfl fun _ member => nomatch member

theorem Renews.wellFormed (renews : n.Renews old) : n.WellFormed := by
  cases renews with
  | element e old fresh same => exact .element e
  | container old => exact Container.wellFormed_empty old.shape

/-- The first node can come back where the second one was taken out: this node itself, an element without
a saved form for an element, an empty container of any shape for a container. -/
inductive Returns : Node → Node → Prop where
  | itself (old : Node) : Returns old old
  | element (e old : Element) (unsaved : e.saved = none) : Returns (.element e) (.element old)
  | container (shape : Shape) (old : Container Node) :
    Returns (.container (.empty shape)) (.container old)

theorem Renews.returns (renews : n.Renews old) : n.Returns old := by
  cases renews with
  | element e old fresh same =>
    cases fresh with
    | element _ sound isDefault unsaved => exact .element e old unsaved
  | container old => exact .container old.shape old

theorem Returns.wellFormed (returns : n.Returns old) (wf : old.WellFormed) : n.WellFormed := by
  cases returns with
  | itself => exact wf
  | element e old unsaved => exact .element e
  | container shape old => exact Container.wellFormed_empty shape

/-- What a node can take up of an entry: an element the text of a leaf, a container the entries of a
level, if there are any. -/
def fitting (entry : Option Stored) : Node → Option Stored
  | .element _ => (entry.bind Stored.leaf?).map .leaf
  | .container _ =>
    if (Level.below entry).isEmpty then none else some (.level (Level.below entry))

/-- What a node persists fits it. -/
theorem fitting_snapshot (n : Node) : n.fitting n.snapshot = n.snapshot := by
  cases n with
  | element e => rw [fitting, snapshot_element]; cases e.saved <;> rfl
  | container c => rw [fitting, below_snapshot, snapshot_container]

/-- A fresh node comes to the same with all entries that fit it in the same part. -/
theorem Filled.of_fitting (filled : Filled entry n m) (same : n.fitting entry = n.fitting entry') :
    Filled entry' n m := by
  cases n with
  | element e =>
    cases m with
    | container c => exact absurd filled id
    | element e' =>
      have texts : entry.bind Stored.leaf? = entry'.bind Stored.leaf? :=
        Option.map_injective (fun _ _ => Stored.leaf.inj) same
      rwa [Filled, texts] at filled
  | container c =>
    cases m with
    | element e => exact absurd filled id
    | container c' =>
      have levels : Level.below entry = Level.below entry' := by
        rw [fitting, fitting] at same
        split at same
        · next empty =>
          split at same
          · next empty' => rw [List.isEmpty_iff.mp empty, List.isEmpty_iff.mp empty']
          · cases same
        · split at same
          · cases same
          · exact Stored.level.inj (Option.some.inj same)
      rw [filled_container_iff] at filled ⊢
      refine ⟨filled.blank, filled.shape, ?_, ?_⟩
      · rw [← levels]
        exact filled.stored
      · rw [← levels]
        exact filled.children

/-- Loading what was bound does not change what is persisted. -/
theorem WellFormed.snapshot_bind (wf : n.WellFormed) {stored : Level}
    (canonical : (Stored.level stored).Canonical) (key : String) :
    (n.bind stored key).result.snapshot = (n.handed (Keyed.get? key stored)).snapshot := by
  unfold Node.bind
  cases found : Keyed.get? key stored with
  | none => rfl
  | some s => exact snapshot_mapElements (wf.setSaved (canonical.get? found)) fun _ => rfl

/-- A renewed node persists the entry that it finds, as far as it fits. -/
theorem Renews.snapshot_bind (renews : n.Renews old) {stored : Level}
    (canonical : (Stored.level stored).Canonical) (key : String) :
    (n.bind stored key).result.snapshot = old.fitting (Keyed.get? key stored) := by
  rw [renews.wellFormed.snapshot_bind canonical]
  cases renews with
  | element e old fresh same =>
    cases fresh with
    | element _ sound isDefault unsaved =>
      rw [handed_of_unsaved unsaved, snapshot_element]
      rfl
  | container old =>
    rw [handed_of_blank rfl, snapshot_container]
    rfl

/-- A node that comes back persists what the one that was taken out left for it. -/
theorem Returns.snapshot_bind (returns : n.Returns old) (wf : old.WellFormed) {stored : Level}
    (canonical : (Stored.level stored).Canonical) {key : String}
    (left : Keyed.get? key stored = old.snapshot) : (n.bind stored key).result.snapshot = old.snapshot := by
  rw [(returns.wellFormed wf).snapshot_bind canonical, left]
  cases returns with
  | itself => exact (Echoes.refl wf).snapshot
  | element e old unsaved =>
    rw [handed_of_unsaved unsaved]
    exact fitting_snapshot (.element old)
  | container shape old =>
    rw [handed_of_blank rfl]
    exact fitting_snapshot (.container old)

theorem Renews.fitting_eq (renews : n.Renews old) (entry : Option Stored) :
    n.fitting entry = old.fitting entry := by
  cases renews <;> rfl

/-- An entry of the other sort adds nothing to what a node persists. -/
theorem WellFormed.snapshot_bind_of_misfit (wf : n.WellFormed) {stored : Level}
    (canonical : (Stored.level stored).Canonical) {key : String} {s : Stored}
    (found : Keyed.get? key stored = some s) (misfit : s.leaf?.isSome ≠ n.element?.isSome) :
    (n.bind stored key).result.snapshot = n.snapshot := by
  rw [wf.snapshot_bind canonical, found, handed_some]
  cases n with
  | element e =>
    cases s with
    | leaf text => exact absurd rfl misfit
    | level entries => rw [setSaved_element_level]
  | container c =>
    cases s with
    | leaf text => rw [setSaved_container_leaf]
    | level entries => exact absurd rfl misfit

end Node

namespace Container

variable {c : Container Node} {n old : Node} {name : String}

theorem attach_of_attachKey {key : String} (named : c.attachKey key = .ok name) (n : Node) :
    c.attach key n = .ok ⟨{ c with children := c.placed name (n.bind c.stored name).result },
      (n.bind c.stored name).notices⟩ := by
  rw [attach, named]
  rfl

/-- Outside of lists there is room for any number of children, under every key that can be a segment of
a line. -/
theorem attachKey_of_notIndexed (notIndexed : c.shape ≠ .indexed) (valid : isValidKey name = true) :
    c.attachKey name = .ok name ∧ c.HasRoom := by
  refine ⟨?_, fun indexed => absurd indexed notIndexed⟩
  unfold attachKey
  cases shape : c.shape with
  | indexed => exact absurd shape notIndexed
  | named | keyed => exact if_pos valid

theorem detach?_of_live (notIndexed : c.shape ≠ .indexed)
    (live : Keyed.get? name c.children = some old) :
    c.detach? name = some (old, { c with
      children := Keyed.erase name c.children
      stored := c.stored.record name old.snapshot }) := by
  unfold detach?
  cases shape : c.shape with
  | indexed => exact absurd shape notIndexed
  | named | keyed =>
    rw [live]
    rfl

/-- Outside of lists, another node can be attached over a live child, and also after the child was
taken out. -/
theorem WellFormed.exists_replaced (wf : c.WellFormed) (notIndexed : c.shape ≠ .indexed)
    (live : Keyed.get? name c.children = some old) (n : Node) :
    ∃ r c₁ r₁, c.attach name n = .ok r ∧ c.detach? name = some (old, c₁) ∧
      c₁.attach name n = .ok r₁ ∧
      Keyed.get? name r.result.children = some (n.bind c.stored name).result ∧
      Keyed.get? name r₁.result.children = some (n.bind c₁.stored name).result := by
  have valid := wf.admits.valid (Keyed.mem_keys_of_get? live)
  have detached := detach?_of_live notIndexed live
  generalize shape : ({ c with
    children := Keyed.erase name c.children
    stored := c.stored.record name old.snapshot } : Container Node) = c₁ at detached
  have notIndexed₁ : c₁.shape ≠ .indexed := by rwa [← shape]
  have replaced := attach_of_attachKey (attachKey_of_notIndexed notIndexed valid).1 n
  have readded := attach_of_attachKey (attachKey_of_notIndexed notIndexed₁ valid).1 n
  exact ⟨_, c₁, _, replaced, detached, readded, (get?_placed name _ c name).trans (if_pos rfl),
    (get?_placed name _ c₁ name).trans (if_pos rfl)⟩

section Renewed

variable {c₁ : Container Node} {r r₁ : Reported (Container Node)}

/-- A child that comes back takes up all that the detached one left behind. -/
theorem WellFormed.snapshot_bind_of_detach? (wf : c.WellFormed) (returns : n.Returns old)
    (detached : c.detach? name = some (old, c₁)) :
    (n.bind c₁.stored name).result.snapshot = old.snapshot := by
  obtain ⟨_, live, _⟩ := detach?_eq_some detached
  have left := wf.get?_stored_detach? detached name
  rw [if_pos rfl] at left
  exact returns.snapshot_bind (wf.child live) (wf.detach? detached).canonical left

/-- Taking a child out and attaching one that can come back keeps all that is persisted. -/
theorem WellFormed.snapshot_returned (wf : c.WellFormed) (returns : n.Returns old)
    (detached : c.detach? name = some (old, c₁)) (readded : c₁.attach name n = .ok r₁) :
    r₁.result.snapshot = c.snapshot := by
  have wf₁ := wf.detach? detached
  have kept := wf.snapshot_detach? detached
  have taken := wf.snapshot_bind_of_detach? returns detached
  obtain ⟨notIndexed, live, shape⟩ := detach?_eq_some detached
  have valid := wf.admits.valid (Keyed.mem_keys_of_get? live)
  have notIndexed₁ : c₁.shape ≠ .indexed := by rwa [shape]
  obtain ⟨named, room⟩ := attachKey_of_notIndexed notIndexed₁ valid
  rw [wf₁.snapshot_attach room (returns.wellFormed (wf.child live)) named readded, taken, kept]
  exact (Level.record_eq_self_iff wf.canonical_snapshot name _).mpr (wf.snapshot_of_live live).symm

/-- A renewed child can come back. -/
theorem WellFormed.snapshot_readded (wf : c.WellFormed) (renews : n.Renews old)
    (detached : c.detach? name = some (old, c₁)) (readded : c₁.attach name n = .ok r₁) :
    r₁.result.snapshot = c.snapshot :=
  wf.snapshot_returned renews.returns detached readded

/-- Attaching a renewed child over the live one keeps what is persisted exactly if the entry of the
stored map, as far as it fits, is what the live child persists. -/
theorem WellFormed.snapshot_replaced_iff (wf : c.WellFormed) (notIndexed : c.shape ≠ .indexed)
    (renews : n.Renews old) (live : Keyed.get? name c.children = some old)
    (replaced : c.attach name n = .ok r) :
    r.result.snapshot = c.snapshot ↔ old.fitting (Keyed.get? name c.stored) = old.snapshot := by
  have valid := wf.admits.valid (Keyed.mem_keys_of_get? live)
  obtain ⟨named, room⟩ := attachKey_of_notIndexed notIndexed valid
  rw [wf.snapshot_attach room renews.wellFormed named replaced, renews.snapshot_bind wf.canonical,
    Level.record_eq_self_iff wf.canonical_snapshot, ← wf.snapshot_of_live live]
  exact eq_comm

/-- With an entry that is up to date, the renewed child comes to the same either way. -/
theorem WellFormed.observed_bind_of_detach? (wf : c.WellFormed) (renews : n.Renews old)
    (detached : c.detach? name = some (old, c₁))
    (upToDate : old.fitting (Keyed.get? name c.stored) = old.snapshot) (key : String) :
    (n.bind c.stored name).result.observed key = (n.bind c₁.stored name).result.observed key := by
  have filled := renews.fresh.filled_self.bind c.stored name
  have filled₁ := renews.fresh.filled_self.bind c₁.stored name
  have same : n.fitting (Keyed.get? name c.stored) = n.fitting (Keyed.get? name c₁.stored) := by
    rw [wf.get?_stored_detach? detached, if_pos rfl, renews.fitting_eq, renews.fitting_eq, upToDate,
      Node.fitting_snapshot]
  exact (filled.of_fitting same).observed_eq filled₁ key

end Renewed

/-- If a node that has nothing persisted is attached to an entry that does not fit it, then the entry is
kept in the stored map, but it is no longer persisted. -/
theorem WellFormed.snapshot_attach_of_misfit (wf : c.WellFormed) (room : c.HasRoom)
    (inner : n.WellFormed) (nothing : n.snapshot = none) {key : String}
    (named : c.attachKey key = .ok name) {s : Stored} (found : Keyed.get? name c.stored = some s)
    (misfit : s.leaf?.isSome ≠ n.element?.isSome) {r : Reported (Container Node)}
    (attached : c.attach key n = .ok r) : r.result.snapshot = Keyed.erase name c.snapshot := by
  rw [wf.snapshot_attach room inner named attached,
    inner.snapshot_bind_of_misfit wf.canonical found misfit, nothing]
  rfl

end Container

end Settings
