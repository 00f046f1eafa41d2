import Settings.Proofs.Container.Unclaimed
import Settings.Proofs.Stored.Key
import Settings.Proofs.Stored.Leaves
import Settings.Proofs.Tree.Operation

/-!
# Settings of absent features

A persisted entry that no live node claims outlasts every run of operations that neither address it
nor put a node in its place. Containers on the way to it may come and go.

* `Holds`: the invariant, and `Holds.after`: one step.
* `storedValue?_of_sparing_run`: any run.
-/
namespace Settings

namespace Tree

/-- The child that a new one would displace. -/
def displaced? (key name : String) (t : Tree) : Option Node := do
  let c ← t.container? key
  let used ← (c.attachKey name).toOption
  Keyed.get? used c.children

/-- The operations that leave the entry at a path alone: a node is attached under a name that is not
in use and afterwards the path is unclaimed as before, and stored values are edited elsewhere. -/
def Operation.Spares (path : List String) (t : Tree) : Operation → Prop
  | .attach key name n =>
    Operation.Permitted t (.attach key name n) ∧ t.displaced? key name = none ∧
      (Node.container (t.after (.attach key name n)).root).Unclaimed path
  | .setStored key _ | .removeStored key => ∀ q, t.path? key = some q → Apart q path
  | .node _ (.hand _) | .readText _ _ | .replaceStored _ => False
  | _ => True

/-- A run of operations that leave the entry at a path alone. -/
def SparingRun (path : List String) : Tree → List Operation → Prop
  | _, [] => True
  | t, op :: rest => op.Spares path t ∧ SparingRun path (t.after op) rest

/-- The entry is persisted at the path and no live node claims it. -/
structure Holds (path : List String) (entry : Stored) (t : Tree) : Prop where
  wellFormed : t.WellFormed
  unclaimed : (Node.container t.root).Unclaimed path
  persisted : (Node.container t.root).persisted? path = some entry

namespace Holds

variable {path : List String} {entry : Stored} {t t' : Tree}

theorem of_keeps (holds : t.Holds path entry) (keeps : Related Node.Keeps t t')
    (unclaimed : (Node.container t'.root).Unclaimed path) : t'.Holds path entry where
  wellFormed := keeps.wellFormed
  unclaimed := unclaimed
  persisted := keeps.entry path entry holds.unclaimed unclaimed holds.persisted

theorem of_spares (holds : t.Holds path entry) (spares : Related Node.Spares t t') :
    t'.Holds path entry :=
  holds.of_keeps spares.toKeeps (spares.unclaimed path holds.unclaimed)

theorem proper (holds : t.Holds path entry) : path ≠ [] := by
  rintro rfl
  exact Node.not_unclaimed_nil _ holds.unclaimed

theorem get?_snapshot (holds : t.Holds path entry) : t.snapshot.get? path = some entry :=
  (t.root.get?_snapshot_eq_persisted? holds.proper).trans holds.persisted

/-- Handing down a stored map that has the entry keeps it. -/
theorem setStored (holds : t.Holds path entry) {entries : Level}
    (canonical : (Stored.level entries).Canonical) (found : entries.get? path = some entry) :
    Holds path entry { t with root := t.root.setStored entries } where
  wellFormed := holds.wellFormed.setStored canonical
  unclaimed := by
    rw [← Node.setSaved_container_level]
    exact Node.unclaimed_setSaved_iff.mpr holds.unclaimed
  persisted := holds.wellFormed.persisted?_setStored canonical holds.unclaimed found

theorem after_attach (holds : t.Holds path entry) {key name : String} {n : Node}
    (spared : (Operation.attach key name n).Spares path t) :
    (t.after (.attach key name n)).Holds path entry := by
  obtain ⟨⟨inner, room⟩, vacant, unclaimed⟩ := spared
  refine holds.of_keeps ?_ unclaimed
  rcases Tree.after_attach key name n t with same | ⟨c, r, there, attached, shape⟩
  · rw [same]
    exact Node.lifts_keeps.refl _ holds.wellFormed
  · rw [shape]
    obtain ⟨used, named, _⟩ := Container.attach_eq_ok attached
    have free : Keyed.get? used c.children = none := by
      rw [displaced?, there] at vacant
      simpa [named, Except.toOption] using vacant
    refine related_setContainer Node.lifts_keeps holds.wellFormed there ?_
    exact (wellFormed_container? holds.wellFormed there).keeps_attach (room c there) inner named
      free attached

theorem after_detach (holds : t.Holds path entry) (key name : String) :
    (t.after (.detach key name)).Holds path entry := by
  refine holds.of_spares ?_
  rcases Tree.after_detach key name t with same | ⟨c, child, c', there, detached, shape⟩
  · rw [same]
    exact Node.lifts_spares.refl _ holds.wellFormed
  · rw [shape]
    refine related_setContainer Node.lifts_spares holds.wellFormed there ?_
    exact (wellFormed_container? holds.wellFormed there).spares_detach? detached

theorem after_node (holds : t.Holds path entry) (key : String) {op : Node.Operation}
    (noHand : ∀ s, op ≠ .hand s) : (t.after (.node key op)).Holds path entry := by
  refine holds.of_spares (related_after_node Node.lifts_spares holds.wellFormed key op fun n wf => ?_)
  cases op with
  | load => exact Node.spares_mapElements wf Element.load
  | save => exact Node.spares_mapElements wf Element.save
  | cancel => exact Node.spares_mapElements wf Element.cancel
  | hand s => exact absurd rfl (noHand s)

theorem mapElements (holds : t.Holds path entry) (f : Element → Reported Element) :
    Holds path entry
      { t with root := { t.root with children := (Node.mapChildren f t.root.children).result } } := by
  have spares := Node.spares_mapElements holds.wellFormed f
  rw [Node.mapElements_container] at spares
  exact holds.of_spares spares

theorem after_setStored (holds : t.Holds path entry) {key value : String}
    (elsewhere : ∀ q, t.path? key = some q → Apart q path) :
    (t.after (.setStored key value)).Holds path entry := by
  rw [Tree.after]
  cases named : t.path? key with
  | none =>
    rw [Tree.setStored, named]
    exact holds
  | some q =>
    rw [setStored_of_path? named]
    refine holds.setStored ?_ ?_
    · exact Level.canonical_insertAt holds.wellFormed.canonical_snapshot q (Stored.canonical_leaf value)
    · rw [Level.get?_insertAt_of_apart _ _ (elsewhere q named)]
      exact holds.get?_snapshot

theorem after_removeStored (holds : t.Holds path entry) {key : String}
    (elsewhere : ∀ q, t.path? key = some q → Apart q path) :
    (t.after (.removeStored key)).Holds path entry := by
  rw [Tree.after]
  cases named : t.path? key with
  | none =>
    rw [removeStored, named]
    exact holds
  | some q =>
    rw [removeStored_of_path? named]
    have cleared : Holds path entry { t with root := removalRoot q t.root } :=
      holds.of_spares (related_removalRoot Node.lifts_spares holds.wellFormed q fun e =>
        Node.spares_element e _)
    refine cleared.setStored ?_ ?_
    · exact Level.canonical_removeAt holds.wellFormed.canonical_snapshot q
    · have canonical := holds.wellFormed.canonical_snapshot
      exact (Level.get?_removeAt_of_apart canonical (elsewhere q named)).trans holds.get?_snapshot

/-- One operation that leaves the entry alone. -/
theorem after (holds : t.Holds path entry) {op : Operation} (spared : op.Spares path t) :
    (t.after op).Holds path entry := by
  cases op with
  | attach key name n => exact holds.after_attach spared
  | detach key name => exact holds.after_detach key name
  | element key op =>
    exact holds.of_spares (related_after_element Node.lifts_spares holds.wellFormed key op fun e =>
      Node.spares_element e _)
  | node key op =>
    refine holds.after_node key ?_
    rintro s rfl
    exact spared
  | load => exact holds.mapElements Element.load
  | save => exact holds.mapElements Element.save
  | cancel => exact holds.mapElements Element.cancel
  | readText text isBase => exact absurd spared id
  | setStored key value => exact holds.after_setStored spared
  | removeStored key => exact holds.after_removeStored spared
  | replaceStored entries => exact absurd spared id

/-- Every step of a run that leaves the entry alone. -/
theorem run (holds : t.Holds path entry) {ops : List Operation} (spared : t.SparingRun path ops)
    {done : List Operation} (isStart : done <+: ops) : (t.run done).Holds path entry := by
  induction ops generalizing t done with
  | nil =>
    rw [List.prefix_nil.mp isStart]
    exact holds
  | cons op rest ih =>
    cases done with
    | nil => exact holds
    | cons first others =>
      obtain ⟨rfl, onWay⟩ := List.cons_prefix_cons.mp isStart
      exact ih (holds.after spared.1) spared.2 onWay

end Holds

/-- The line of a key in a settings text. -/
def HasLine (text key value : String) : Prop :=
  ∃ before after, text = before ++ (key ++ "=" ++ value ++ "\n") ++ after ∧
    (before = "" ∨ ∃ earlier, before = earlier ++ "\n")

theorem Holds.text {path : List String} {t : Tree} {key value : String}
    (holds : t.Holds path (.leaf value)) (named : t.path? key = some path) :
    HasLine t.text key value := by
  have isKey : key = path.foldl childKey t.name := by
    have cs := (keyPath?_eq_some named).1
    exact String.toList_inj.mp cs
  obtain ⟨before, after, text, start⟩ :=
    Level.text_of_get? holds.wellFormed.canonical_snapshot t.name holds.get?_snapshot
  refine ⟨before, after, ?_, start⟩
  rw [isKey]
  exact text

/-- Unclaimed settings are never lost: after every step of a run that leaves the entry alone, the key
still has its value and the settings text its line. -/
theorem storedValue?_of_sparing_run {t : Tree} (reachable : t.Reachable) {key value : String}
    {path : List String} (named : t.path? key = some path)
    (unclaimed : (Node.container t.root).Unclaimed path) (stored : t.storedValue? key = some value)
    {ops done : List Operation} (spared : t.SparingRun path ops) (isStart : done <+: ops) :
    (t.run done).storedValue? key = some value ∧ HasLine (t.run done).text key value := by
  rw [storedValue?_of_path? named, Stored.bind_leaf?_eq_some_iff] at stored
  have proper : path ≠ [] := (keyPath?_eq_some named).2.1
  have holds : t.Holds path (.leaf value) :=
    ⟨reachable.wellFormed, unclaimed, (t.root.get?_snapshot_eq_persisted? proper).symm.trans stored⟩
  have after := holds.run spared isStart
  have named' : (t.run done).path? key = some path := by
    rw [path?, run_name]
    exact named
  refine ⟨?_, after.text named'⟩
  rw [storedValue?_of_path? named', after.get?_snapshot]
  rfl

/-- A text is kept for a switch of which neither the section nor the switch is there. -/
def waitingTree : Tree := (named "config").after (.setStored "config.old.lamp" "True")

/-- The section comes and goes again. -/
def visit : List Operation :=
  [.attach "config" "old" (.container (.empty .named)), .save, .detach "config" "old"]

theorem storedValue?_waitingTree :
    (waitingTree.run visit).storedValue? "config.old.lamp" = some "True" ∧
      HasLine (waitingTree.run visit).text "config.old.lamp" "True" := by
  have unclaimed : (Node.container waitingTree.root).Unclaimed ["old", "lamp"] := by decide +kernel
  have spared : waitingTree.SparingRun ["old", "lamp"] visit := by
    have room := hasRoom_root (t := waitingTree) (by decide +kernel)
    have attached := Container.wellFormed_empty .named
    refine ⟨⟨⟨attached, room⟩, ?_, by decide +kernel⟩, trivial, trivial, trivial⟩
    exact Option.isNone_iff_eq_none.mp (by decide +kernel)
  have reachable : waitingTree.Reachable :=
    .after _ (.setStored "config.old.lamp" "True") (.named "config") trivial
  exact storedValue?_of_sparing_run reachable (by decide +kernel) unclaimed (by decide +kernel) spared
    (List.prefix_refl visit)

end Tree

end Settings
