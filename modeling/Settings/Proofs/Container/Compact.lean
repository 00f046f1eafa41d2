import Settings.Proofs.Container.Throughout
import Settings.Proofs.Stored.Compact

/-!
# Compact nodes

Nodes whose stored maps have no empty levels. What such a node persists has none either, and every
operation that hands down compact maps keeps nodes compact.

* `compact_snapshot`: what a compact node persists.
-/
namespace Settings

namespace Level

theorem Compact.record {entries : Level} (compact : Compact entries) (sorted : Keyed.Sorted entries)
    (key : String) {entry : Option Stored} (inner : ∀ s, entry = some s → s.Compact) :
    Compact (record key entry entries) := by
  cases entry with
  | none => exact compact.erase sorted key
  | some s => exact compact.insert key (inner s rfl)

end Level

namespace Node

variable {n : Node} {c : Container Node}

/-- No level inside a stored map is empty. -/
def Compact (n : Node) : Prop := ∀ path c, n.at? path = some (.container c) → Level.Compact c.stored

theorem compact_iff_throughout : n.Compact ↔ n.Throughout (fun _ => True) Level.Compact :=
  ⟨fun compact => ⟨fun _ _ _ => trivial, compact⟩, fun all => all.stored⟩

theorem hereditary_compact : Hereditary Level.Compact :=
  fun _ key _ compact found => (Stored.compact_level_iff.mp (compact key _ found)).2

theorem compact_element (e : Element) : (Node.element e).Compact :=
  compact_iff_throughout.mpr (throughout_element trivial)

theorem compact_container_iff :
    (Node.container c).Compact ↔
      Level.Compact c.stored ∧ ∀ key child, Keyed.get? key c.children = some child → child.Compact := by
  simp only [compact_iff_throughout]
  exact throughout_container_iff

theorem Compact.of_at? {m : Node} (compact : n.Compact) {path : List String}
    (live : n.at? path = some m) : m.Compact :=
  compact_iff_throughout.mpr ((compact_iff_throughout.mp compact).of_at? live)

theorem Compact.mapElements (compact : n.Compact) (f : Element → Reported Element) :
    (n.mapElements f).result.Compact :=
  compact_iff_throughout.mpr ((compact_iff_throughout.mp compact).mapElements fun _ _ => trivial)

/-- What a compact node persists has no empty level. -/
theorem compact_snapshot (wf : n.WellFormed) (compact : n.Compact) :
    ∀ s, n.snapshot = some s → s.Compact := by
  induction wf with
  | element e =>
    intro s persisted
    rw [snapshot_element] at persisted
    obtain ⟨text, _, rfl⟩ := Option.map_eq_some_iff.mp persisted
    exact Stored.compact_leaf text
  | container c admits canonical children ih =>
    have wf : c.WellFormed := .container c admits canonical children
    obtain ⟨own, inner⟩ := compact_container_iff.mp compact
    intro s persisted
    rw [snapshot_container] at persisted
    split at persisted
    · cases persisted
    · next proper =>
      cases persisted
      refine Stored.compact_level_iff.mpr ⟨fun empty => proper (List.isEmpty_iff.mpr empty), ?_⟩
      intro key s found
      rw [wf.get?_snapshot] at found
      split at found
      · next child live => exact ih _ (Keyed.mem_of_get? live) (inner key child live) s found
      · exact own key s found

/-- An operation keeps compact nodes compact. -/
def KeepsCompact (n n' : Node) : Prop := n.Compact → n'.Compact

theorem lifts_keepsCompact : Lifts KeepsCompact := by
  have same : KeepsCompact = fun n n' : Node =>
      n.Throughout (fun _ => True) Level.Compact → n'.Throughout (fun _ => True) Level.Compact := by
    funext n n'
    simp only [KeepsCompact, compact_iff_throughout]
  rw [same]
  exact lifts_throughout

end Node

namespace Container

variable {c c' : Container Node} {n child : Node}

/-- A container whose stored maps have no empty levels. -/
abbrev Compact (c : Container Node) : Prop := (Node.container c).Compact

theorem Compact.snapshot (wf : c.WellFormed) (compact : c.Compact) : Level.Compact c.snapshot := by
  obtain ⟨own, inner⟩ := Node.compact_container_iff.mp compact
  intro key s found
  rw [wf.get?_snapshot] at found
  split at found
  · next child live => exact Node.compact_snapshot (wf.child live) (inner key child live) s found
  · exact own key s found

theorem Compact.setStored (compact : c.Compact) {entries : Level} (fine : Level.Compact entries) :
    (c.setStored entries).Compact :=
  Node.compact_iff_throughout.mpr (Throughout.setStored (Node.compact_iff_throughout.mp compact)
    (fun _ _ _ => trivial) Node.hereditary_compact fine)

theorem Compact.detach? (wf : c.WellFormed) (compact : c.Compact) {key : String}
    (detached : c.detach? key = some (child, c')) : c'.Compact := by
  obtain ⟨_, live, rfl⟩ := detach?_eq_some detached
  obtain ⟨own, children⟩ := Node.compact_container_iff.mp compact
  refine Node.compact_container_iff.mpr ⟨?_, fun other sibling found => ?_⟩
  · exact own.record wf.canonical.sorted key
      (Node.compact_snapshot (wf.child live) (children key child live))
  · rw [Keyed.get?_erase wf.distinct] at found
    split at found
    · cases found
    · exact children other sibling found

end Container

end Settings
