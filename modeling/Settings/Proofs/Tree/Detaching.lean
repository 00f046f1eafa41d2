import Settings.Proofs.Tree.Attaching

/-!
# Detaching and attaching again

A child that is taken out leaves its persisted form in the stored map of the container, in place of an
older one, and whatever comes back under its name takes it up. So nothing that is persisted is lost
while a feature is away.

* `snapshot_detached_and_returned`: what a container persists after a child was taken out, and after one
  came back.
-/
namespace Settings

namespace Node

/-- An element stays one when it is bound, and its saved form is what is persisted of it. -/
theorem exists_bind_element (e : Element) (stored : Level) (key : String) :
    ∃ e', ((Node.element e).bind stored key).result = .element e' := by
  unfold Node.bind
  split
  · next entry found =>
    cases entry with
    | leaf text =>
      rw [setSaved_element_leaf, load, mapElements_element]
      exact ⟨_, rfl⟩
    | level entries =>
      rw [setSaved_element_level, load, mapElements_element]
      exact ⟨_, rfl⟩
  · exact ⟨e, rfl⟩

theorem saved_of_snapshot {e old : Element} (same : (Node.element e).snapshot = (Node.element old).snapshot) :
    e.saved = old.saved := by
  rw [snapshot_element, snapshot_element] at same
  exact Option.map_injective (fun _ _ => Stored.leaf.inj) same

/-- Where an element was taken out, an element comes back. -/
theorem Returns.exists_element {n : Node} {old : Element} (returns : n.Returns (.element old)) :
    ∃ e, n = .element e := by
  cases returns with
  | itself => exact ⟨old, rfl⟩
  | element e old unsaved => exact ⟨e, rfl⟩

end Node

namespace Tree

variable {t : Tree} {path : List String} {c : Container Node}

/-- A live child of a section or a dictionary can be taken out, and this leaves what is persisted as it
is. So does attaching the child again, or one that can come back for it; an element then has the saved
form that the old one had. -/
theorem snapshot_detached_and_returned (reachable : t.Reachable)
    (there : (Node.container t.root).at? path = some (.container c)) (removable : c.shape ≠ .indexed)
    {name : String} {old : Node} (live : Keyed.get? name c.children = some old) :
    ∃ c₁, c.detach? name = some (old, c₁) ∧ c₁.snapshot = c.snapshot ∧
      ∀ n, n.Returns old → ∃ r m, c₁.attach name n = .ok r ∧ r.result.snapshot = c.snapshot ∧
        Keyed.get? name r.result.children = some m ∧ m.snapshot = old.snapshot ∧
        ∀ e, old = .element e → ∃ e', m = .element e' ∧ e'.saved = e.saved := by
  have wf : c.WellFormed := Node.WellFormed.of_at? reachable.wellFormed there
  have detached := Container.detach?_of_live removable live
  refine ⟨_, detached, wf.snapshot_detach? detached, fun n returns => ?_⟩
  obtain ⟨r, c₁, r₁, _, detached', readded, _, here⟩ := wf.exists_replaced removable live n
  cases detached.symm.trans detached'
  have taken := wf.snapshot_bind_of_detach? returns detached
  refine ⟨r₁, _, readded, wf.snapshot_returned returns detached readded, here, taken, ?_⟩
  rintro e rfl
  obtain ⟨e₀, rfl⟩ := returns.exists_element
  obtain ⟨e', bound⟩ := Node.exists_bind_element e₀ _ name
  rw [bound] at taken
  exact ⟨e', bound, Node.saved_of_snapshot taken⟩

/-- The saved form of a switch waits for the next one, although nothing was stored for it before. -/
theorem returned_heatedTree :
    ∃ old c₁ r e, heatedTree.root.detach? "heater" = some (old, c₁) ∧
      c₁.attach "heater" offSwitch = .ok r ∧ r.result.snapshot = heatedTree.root.snapshot ∧
      Keyed.get? "heater" r.result.children = some (.element e) ∧ e.saved = some "True" := by
  have isLive : ((Keyed.get? "heater" heatedTree.root.children).bind Node.element?).map
      (fun e => (e.kind.setup, e.saved)) = some ((Kind.switch (.plain false)).setup, some "True") := by
    decide
  obtain ⟨e, live, renews, saved⟩ := exists_offSwitch "heater" _ isLive
  obtain ⟨c₁, detached, _, back⟩ := snapshot_detached_and_returned reachable_heatedTree (Node.at?_nil _)
    (by decide) live
  obtain ⟨r, m, readded, kept, here, _, element⟩ := back offSwitch renews.returns
  obtain ⟨e', rfl, same⟩ := element e rfl
  exact ⟨.element e, c₁, r, e', detached, readded, kept, here, same.trans saved⟩

end Tree

end Settings
