import Settings.Proofs.Container.Writing
import Settings.Proofs.Tree.Operation

/-!
# Persisting texts by key

What `setStored` changes in a tree: the text at the key, and the saved form of the element that sits at
exactly that key. Everything else that is stored, and everything else in the elements, stays.

* `setStored_exact`: the whole effect of persisting a text at a key.
-/
namespace Settings

namespace Tree

variable {t : Tree}

/-- What is found at a key after a text was written into the root. -/
theorem storedValue?_written (wf : t.WellFormed) {path q : List String}
    (accepts : (Node.container t.root).Accepts path) (value : String) {other : String}
    (meant : t.path? other = some q) :
    ({ t with root := t.root.written path value } : Tree).storedValue? other =
      ((t.snapshot.insertAt path (.leaf value)).get? q).bind Stored.leaf? := by
  have read := storedValue?_of_path? (t := { t with root := t.root.written path value }) meant
  rw [read, snapshot, wf.snapshot_written accepts value, snapshot]

/-- If no element stands on the way of a key and no container at its end, then a text that is persisted
there is found there; what is stored at the keys that lead neither to it nor on from it stays. The
element at the key, if there is one, has the text as its saved form; nothing else changes in it, and
nothing in the other elements. -/
theorem setStored_exact (reachable : t.Reachable) {key : String} {path : List String}
    (named : t.path? key = some path) (accepts : (Node.container t.root).Accepts path)
    (value : String) :
    ∃ t', t.setStored key value = .ok t' ∧ t'.storedValue? key = some value ∧
      (∀ other, (∀ q, t.path? other = some q → Apart path q) →
        t'.storedValue? other = t.storedValue? other) ∧
      ∀ q, (Node.container t'.root).elementAt? q = ((Node.container t.root).elementAt? q).map fun e =>
        { e with saved := if q = path then some value else e.saved } := by
  have wf : t.root.WellFormed := reachable.wellFormed
  refine ⟨_, setStored_of_path? named value, ?_, fun other apart => ?_,
    wf.elementAt?_written accepts value⟩
  · obtain ⟨first, rest, rfl⟩ := List.exists_cons_of_ne_nil accepts.ne_nil
    refine (storedValue?_written wf accepts value named).trans ?_
    rw [Level.get?_insertAt_self]
    rfl
  · cases meant : t.path? other with
    | none =>
      have nothing := storedValue?_of_path?_eq_none (t := { t with root := t.root.written path value })
        meant
      exact nothing.trans (storedValue?_of_path?_eq_none meant).symm
    | some q =>
      refine (storedValue?_written wf accepts value meant).trans ?_
      rw [Level.get?_insertAt_of_apart _ _ (apart q meant), storedValue?_of_path? meant]

/-- A section with a live switch, after a text was persisted for a feature that is not there. -/
def drawerTree : Tree :=
  ((named "config").after (.attach "config" "drawer"
    (.container ⟨.named, [("lock", .element (.ofKind (.switch (.plain false))))], []⟩))).after
      (.setStored "config.drawer.light" "dim")

theorem reachable_drawerTree : drawerTree.Reachable := by
  have room := hasRoom_root (t := named "config") (by decide)
  refine .after _ _ (.after _ _ (.named "config") ⟨?_, room⟩) trivial
  exact .container _ (by decide) Stored.canonical_empty (by simp [Node.WellFormed.element])

theorem setStored_drawerTree :
    ∃ t', drawerTree.setStored "config.drawer.lock" "True" = .ok t' ∧
      t'.storedValue? "config.drawer.lock" = some "True" ∧
      t'.storedValue? "config.drawer.light" = some "dim" ∧
      ((Node.container t'.root).elementAt? ["drawer", "lock"]).map
        (fun e => (e.saved, e.valueString)) = some (some "True", "False") := by
  have named : drawerTree.path? "config.drawer.lock" = some ["drawer", "lock"] := by decide
  have beside : drawerTree.path? "config.drawer.light" = some ["drawer", "light"] := by
    decide
  obtain ⟨t', written, read, elsewhere, elements⟩ :=
    setStored_exact reachable_drawerTree named (by decide +kernel) "True"
  refine ⟨t', written, read, ?_, ?_⟩
  · rw [elsewhere]
    · decide +kernel
    · intro q meant
      rw [beside] at meant
      cases meant
      exact ⟨by decide, by decide⟩
  · rw [elements, Option.map_map]
    decide +kernel

end Tree

end Settings
