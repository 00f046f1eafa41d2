import Settings.Proofs.Container.Removal
import Settings.Proofs.Stored.Key
import Settings.Proofs.Tree.Operation

/-!
# Removing stored values of a tree

What `removeStored` drops and what it leaves. The answer is right and all values elsewhere stay; but
the values at the key are dropped only if every live container on the way has something left.

* `removeStored_drops_iff`: when the values at the key are gone.
-/
namespace Settings

namespace Tree

variable {t : Tree} {c : Container Node}

theorem removalRoot_of_get?_eq_none {path : List String} (absent : c.get? path = none) :
    removalRoot path c = c := by
  rw [removalRoot, Container.updateElementAt?, absent]
  rfl

theorem cleared_of_child?_eq_none {key : String} {rest : List String} (absent : c.child? key = none) :
    (Node.container c).cleared (key :: rest) = .container c := by
  rw [Node.cleared]
  split
  · next name named =>
    rw [Container.child?, named, Option.bind_some] at absent
    rw [absent]
  · rfl

theorem cleared_of_child? {key name : String} {rest : List String} {child : Node}
    (named : c.childName? key = some name) (live : Keyed.get? name c.children = some child) :
    (Node.container c).cleared
    (key :: rest) = .container (c.withChild name (child.cleared rest)) := by
  rw [Node.cleared, named]
  dsimp only
  rw [live]

theorem container_removalRoot_singleton {key name : String} {child : Node}
    (named : c.childName? key = some name) (live : Keyed.get? name c.children = some child) :
    Node.container (removalRoot [key] c) = .container (c.withChild name (child.cleared [])) := by
  have there : c.get? [key] = some child := Container.child?_of_live named live
  rw [removalRoot, Container.updateElementAt?, there]
  cases child with
  | element e =>
    simp only [Option.bind_some, Node.element?, Container.updateAt?,
      Container.updateChild?_of_live named live, Option.map_some, Node.cleared]
  | container inner =>
    rw [Node.cleared, Container.withChild_self live]
    rfl

theorem container_removalRoot_cons {key name : String} {inner : Container Node}
    (named : c.childName? key = some name)
    (live : Keyed.get? name c.children = some (.container inner)) (next : String)
    (rest : List String) :
    Node.container (removalRoot (key :: next :: rest) c) =
      .container (c.withChild name (.container (removalRoot (next :: rest) inner))) := by
  have there : c.get? (key :: next :: rest) = inner.get? (next :: rest) := by
    rw [Container.get?_cons_cons, Container.child?_of_live named live]
    rfl
  rw [removalRoot, Container.updateElementAt?, removalRoot, Container.updateElementAt?, there]
  cases (inner.get? (next :: rest)).bind Node.element? with
  | none => simp only [Container.withChild_self live]
  | some e =>
    simp only [Container.updateAt?, Container.updateChild?_of_live named live]
    cases Container.updateAt? (fun _ => (Node.element (e.setSaved none), ())) (next :: rest) inner with
    | none => simp only [Option.map_none, Container.withChild_self live]
    | some p => simp only [Option.map_some]

/-- Clearing the element that a path means, where there is one. -/
theorem container_removalRoot (path : List String) (c : Container Node) :
    Node.container (removalRoot path c) = (Node.container c).cleared path := by
  induction path generalizing c with
  | nil => rfl
  | cons key rest ih =>
    cases meant : c.child? key with
    | none =>
      rw [cleared_of_child?_eq_none meant, removalRoot_of_get?_eq_none]
      cases rest with
      | nil => exact meant
      | cons next rest => rw [Container.get?_cons_cons, meant]; rfl
    | some child =>
      obtain ⟨name, named, live⟩ := Option.bind_eq_some_iff.mp meant
      rw [cleared_of_child? named live]
      cases rest with
      | nil => exact container_removalRoot_singleton named live
      | cons next rest =>
        cases child with
        | element e =>
          rw [removalRoot_of_get?_eq_none, Node.cleared, Container.withChild_self live]
          rw [Container.get?_cons_cons, meant]
          rfl
        | container inner =>
          rw [← ih]
          exact container_removalRoot_cons named live next rest

/-- The live containers below the root that stand on the way of a path each have another entry, or an
element sits at the path. -/
def Releases (path : List String) (t : Tree) : Prop :=
  (∃ e, (Node.container t.root).at? path = some (.element e)) ∨
    ∀ onWay below c, onWay ≠ [] → path = onWay ++ below →
      (Node.container t.root).at? onWay = some (.container c) →
      ∃ other, (c.snapshot.get? other).isSome ∧ Apart below other

theorem releases_cons_of_live {key : String} {rest : List String} {child : Node}
    (live : Keyed.get? key t.root.children = some child) :
    t.Releases (key :: rest) ↔ child.Releases rest := by
  have step : ∀ q, (Node.container t.root).at? (key :: q) = child.at? q := Node.at?_cons_of_live live
  refine or_congr ?_ ⟨fun others => ?_, fun others => ?_⟩
  · rw [step]
  · intro onWay below c split reached
    refine others (key :: onWay) below c (List.cons_ne_nil _ _) ?_ ((step onWay).trans reached)
    rw [split, List.cons_append]
  · intro onWay below c proper split reached
    cases onWay with
    | nil => exact absurd rfl proper
    | cons first later =>
      cases split
      exact others later below c rfl ((step later).symm.trans reached)

theorem releases_cons_of_absent {key : String} (rest : List String)
    (absent : Keyed.get? key t.root.children = none) : t.Releases (key :: rest) := by
  refine .inr fun onWay below c proper split reached => ?_
  cases onWay with
  | nil => exact absurd rfl proper
  | cons first later =>
    cases split
    rw [Node.at?_cons_container, absent] at reached
    cases reached

section Removed

variable (wf : t.WellFormed) {path : List String} (proper : path ≠ [])
include wf proper

theorem value?_removal_of_apart {q : List String} (apart : Apart path q) :
    (t.root.removal path).value? q = (Node.container t.root).value? q := by
  obtain ⟨key, rest, rfl⟩ := List.exists_cons_of_ne_nil proper
  cases q with
  | nil => exact absurd apart (not_apart_nil _)
  | cons first others =>
    by_cases same : first = key
    · subst same
      have nested : Apart rest others := by
        rcases apart_cons_iff.mp apart with different | nested
        · exact absurd rfl different
        · exact nested
      cases live : Keyed.get? first t.root.children with
      | some child =>
        rw [wf.value?_removal_of_live live, wf.value?_of_live live,
          Node.value?_purged_of_apart (wf.child live) nested]
      | none =>
        have stays := Level.get?_removeAt_of_apart wf.canonical_snapshot apart
        rw [wf.value?_removal_of_absent live, stays,
          Container.value?_eq_get?_snapshot _ (List.cons_ne_nil _ _)]
    · exact wf.value?_removal_of_ne same rest others

theorem value?_removal_of_releases (releases : t.Releases path) (r : List String) :
    (t.root.removal path).value? (path ++ r) = none := by
  obtain ⟨key, rest, rfl⟩ := List.exists_cons_of_ne_nil proper
  rw [List.cons_append]
  cases live : Keyed.get? key t.root.children with
  | some child =>
    rw [wf.value?_removal_of_live live]
    exact Node.value?_purged_of_releases (wf.child live) ((releases_cons_of_live live).mp releases) r
  | none => exact wf.value?_removal_below_absent live rest r

theorem value?_removal_of_not_releases (keeps : ¬ t.Releases path) (r : List String) :
    (t.root.removal path).value? (path ++ r) = (Node.container t.root).value? (path ++ r) := by
  obtain ⟨key, rest, rfl⟩ := List.exists_cons_of_ne_nil proper
  rw [List.cons_append]
  cases live : Keyed.get? key t.root.children with
  | some child =>
    rw [wf.value?_removal_of_live live, wf.value?_of_live live]
    exact Node.value?_purged_of_not_releases (wf.child live)
      (fun releases => keeps ((releases_cons_of_live live).mpr releases)) r
  | none => exact absurd (releases_cons_of_absent rest live) keeps

end Removed

theorem storedValue?_eq_value? {key : String} {path : List String} (named : t.path? key = some path) :
    t.storedValue? key = (Node.container t.root).value? path := by
  rw [storedValue?_of_path? named, Container.value?_eq_get?_snapshot _ (keyPath?_eq_some named).2.1]
  rfl

/-- The answer of a removal is right and what is stored elsewhere stays. What is stored at the key and
below it is dropped exactly if nothing was stored there, an element sits at the key, or every live
container on the way has another entry; if it is not dropped, all of it stays. -/
theorem removeStored_drops_iff (reachable : t.Reachable) {key : String} {path : List String}
    (named : t.path? key = some path) :
    ∃ t', t.removeStored key = .ok (t', (t.snapshot.get? path).isSome) ∧
      (∀ other q, t.path? other = some q → Apart path q →
        t'.storedValue? other = t.storedValue? other) ∧
      ((∀ other q, t.path? other = some q → path <+: q → t'.storedValue? other = none) ↔
        (∀ other q, t.path? other = some q → path <+: q → t.storedValue? other = none) ∨
          t.Releases path) ∧
      (¬ t.Releases path → ∀ other q, t.path? other = some q → path <+: q →
        t'.storedValue? other = t.storedValue? other) := by
  have wf := reachable.wellFormed
  have proper : path ≠ [] := (keyPath?_eq_some named).2.1
  refine ⟨_, removeStored_of_path? named, ?_⟩
  generalize shape : ({ t with root := _ } : Tree) = t'
  have name : t'.name = t.name := by rw [← shape]
  have root : Node.container t'.root = t.root.removal path := by
    rw [← shape, Container.removal, ← container_removalRoot, Node.setSaved_container_level]
    rfl
  have read : ∀ other q, t.path? other = some q →
      t'.storedValue? other = (t.root.removal path).value? q := by
    intro other q named'
    have named'' : t'.path? other = some q := by
      rw [path?, name]
      exact named'
    rw [storedValue?_eq_value? named'', root]
  have stays : ¬ t.Releases path → ∀ other q, t.path? other = some q → path <+: q →
      t'.storedValue? other = t.storedValue? other := by
    rintro keeps other q named' ⟨r, rfl⟩
    rw [read other _ named', storedValue?_eq_value? named',
      value?_removal_of_not_releases wf proper keeps]
  refine ⟨fun other q named' apart => ?_, ⟨fun dropped => ?_, ?_⟩, stays⟩
  · rw [read other q named', storedValue?_eq_value? named', value?_removal_of_apart wf proper apart]
  · by_cases releases : t.Releases path
    · exact .inr releases
    · refine .inl fun other q named' below => ?_
      rw [← stays releases other q named' below]
      exact dropped other q named' below
  · rintro (nothing | releases) other q named' below
    · by_cases releases : t.Releases path
      · obtain ⟨r, rfl⟩ := below
        rw [read other _ named', value?_removal_of_releases wf proper releases]
      · rw [stays releases other q named' below, nothing other q named' below]
    · obtain ⟨r, rfl⟩ := below
      rw [read other _ named', value?_removal_of_releases wf proper releases]

/-- A section with a live switch, after a text was persisted for the switch. -/
def switchedTree : Tree :=
  ((named "config").after (.attach "config" "av"
    (.container ⟨.named, [("x", .element (.ofKind (.switch (.plain false))))], []⟩))).after
      (.setStored "config.av.x" "True")

theorem reachable_switchedTree : switchedTree.Reachable := by
  have room := hasRoom_root (t := named "config") (by decide)
  refine .after _ _ (.after _ _ (.named "config") ⟨?_, room⟩) trivial
  exact .container _ (by decide +kernel) Stored.canonical_empty (by simp [Node.WellFormed.element])

theorem removeStored_switchedTree :
    ∃ t', switchedTree.removeStored "config.av.x" = .ok (t', true) ∧
      t'.storedValue? "config.av.x" = none := by
  have named : switchedTree.path? "config.av.x" = some ["av", "x"] := by decide +kernel
  obtain ⟨t', removed, _, dropped, _⟩ := removeStored_drops_iff reachable_switchedTree named
  have present : (switchedTree.snapshot.get? ["av", "x"]).isSome = true := by decide +kernel
  rw [present] at removed
  have isLive : (((Node.container switchedTree.root).at? ["av", "x"]).bind Node.element?).isSome =
      true := by decide +kernel
  obtain ⟨e, found⟩ := Option.isSome_iff_exists.mp isLive
  obtain ⟨n, there, isElement⟩ := Option.bind_eq_some_iff.mp found
  obtain rfl := Node.eq_element_of_element? isElement
  exact ⟨t', removed, dropped.mpr (.inr (.inl ⟨e, there⟩)) _ _ named (List.prefix_refl _)⟩

theorem removeStored_keeps_level_of_live_section :
    ¬ ∀ (t t' : Tree) (key other : String) (path q : List String) (answer : Bool), t.Reachable →
      t.path? key = some path → t.removeStored key = .ok (t', answer) →
      t.path? other = some q → path <+: q → t'.storedValue? other = none := by
  intro drops
  have named : switchedTree.path? "config.av" = some ["av"] := by decide +kernel
  have removed : switchedTree.removeStored "config.av" =
      .ok (switchedTree.after (.removeStored "config.av"),
        (switchedTree.snapshot.get? ["av"]).isSome) := by
    rw [after, removeStored_of_path? named]
  have kept : (switchedTree.after (.removeStored "config.av")).storedValue? "config.av.x" =
      some "True" := by
    decide +kernel
  have dropped := drops switchedTree _ "config.av" "config.av.x" ["av"] ["av", "x"] _
    reachable_switchedTree named removed (by decide +kernel) (by decide)
  rw [dropped] at kept
  cases kept

end Tree

end Settings
