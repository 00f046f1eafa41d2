import Settings.Proofs.Container.Place
import Settings.Proofs.Stored.Key
import Settings.Proofs.Tree.LateBinding

/-!
# Keys and the nodes that they mean

A key that means a live node is the key under which the node is persisted, unless it writes a position
in a list with a plus sign or with leading zeros. Such a key is one of many for the same node, and a text
that is persisted at it does not reach the node.

* `key_eq_keyAt_iff`: when a key is the persisted key of the node that it means.
-/
namespace Settings

namespace Tree

variable {t : Tree} {path : List String} {n : Node}

/-- The key of the node that a path means, put together from the names that its containers have for
it. -/
def keyAt (path : List String) (t : Tree) : String :=
  ((Node.container t.root).place path).foldl childKey t.name

theorem eq_key_of_path? {key : String} (named : t.path? key = some path) :
    key = path.foldl childKey t.name :=
  String.toList_inj.mp (keyPath?_eq_some named).1

/-- The key of a live node names its path. -/
theorem path?_key_of_at? (wf : t.WellFormed) (plainRoot : '.' ∉ t.name.toList)
    (live : (Node.container t.root).at? path = some n) (proper : path ≠ []) :
    t.path? (path.foldl childKey t.name) = some path := by
  refine keyPath?_key plainRoot proper fun name member => ?_
  have segment := isSegment_of_isValidKey (Node.WellFormed.isValidKey_of_at? wf live name member)
  exact ⟨segment.proper, fun dot => (segment.plain '.' dot).1 rfl⟩

/-- Every live node that a key means has a key by its names, under which it is persisted and which means
it as well. A key is that one exactly if no position of a list in it is written with a plus sign or with
leading zeros; of such keys each node has one only. A text that is persisted at the key becomes the saved
form of the element that it means if the key is such a one; with any other key the element stays as it
is. -/
theorem key_eq_keyAt_iff (reachable : t.Reachable) {key : String} (named : t.path? key = some path)
    (found : t.root.get? path = some n) :
    (Node.container t.root).at? ((Node.container t.root).place path) = some n ∧
      t.snapshot.get? ((Node.container t.root).place path) = n.snapshot ∧
      t.node? (t.keyAt path) = some n ∧
      (key = t.keyAt path ↔ (Node.container t.root).Plain path) ∧
      (∀ other q, t.path? other = some q →
        (Node.container t.root).place q = (Node.container t.root).place path →
        (Node.container t.root).Plain q → (Node.container t.root).Plain path → other = key) ∧
      ∀ e, n = .element e → ∀ value, ∃ t', t.setStored key value = .ok t' ∧
        (Node.container t'.root).elementAt? ((Node.container t.root).place path) =
          some { e with
            saved := if (Node.container t.root).Plain path then some value else e.saved } := by
  have wf : t.root.WellFormed := reachable.wellFormed
  have live := found
  rw [wf.get?_eq_at?_place (keyPath?_eq_some named).2.1] at live
  have proper := Container.place_ne_nil found
  have plainRoot : '.' ∉ t.name.toList := not_mem_of_keyPath? named _ List.mem_cons_self
  have own : t.path? (t.keyAt path) = some ((Node.container t.root).place path) :=
    path?_key_of_at? wf plainRoot live proper
  have plain := Container.place_eq_iff_plain found
  have same : key = t.keyAt path ↔ (Node.container t.root).Plain path := by
    rw [← plain]
    constructor
    · intro isKey
      rw [← isKey, named] at own
      exact (Option.some.inj own).symm
    · intro isPlace
      rw [keyAt, isPlace]
      exact eq_key_of_path? named
  have persisted : t.snapshot.get? ((Node.container t.root).place path) = n.snapshot :=
    (Container.get?_snapshot_eq_persisted? _ proper).trans (Node.snapshot_of_at? wf live)
  refine ⟨live, persisted, ?_, same, ?_, ?_⟩
  · rw [node?, own, Option.bind_some, wf.get?_eq_at?_place proper,
      Node.WellFormed.place_of_at? wf live, live]
  · intro other q named' samePlace plain' plainPath
    have reached : t.root.get? q = some n := by
      rw [wf.get?_eq_at?_place (keyPath?_eq_some named').2.1, samePlace, live]
    rw [same.mpr plainPath, keyAt, ← samePlace, (Container.place_eq_iff_plain reached).mpr plain']
    exact eq_key_of_path? named'
  · rintro e rfl value
    -- The text is written at the path of the key, and the element sits at its place.
    have written := wf.elementAt?_written (wf.accepts_of_get? found) value
      ((Node.container t.root).place path)
    refine ⟨_, setStored_of_path? named value, written.trans ?_⟩
    rw [Node.elementAt?_eq_some_iff.mpr live, Option.map_some]
    simp only [plain]

/-- A tree with a list that holds one switch. -/
def rackTree : Tree :=
  (named "config").after (.attach "config" "rack" (.container ⟨.indexed, [("0", offSwitch)], []⟩))

theorem reachable_rackTree : rackTree.Reachable := by
  have room := hasRoom_root (t := named "config") (by decide)
  refine .after _ _ (.named "config") ⟨?_, room⟩
  exact .container _ (by decide) Stored.canonical_empty
    (by simp [offSwitch, Node.WellFormed.element])

/-- Both ways to write the position mean the switch. -/
theorem get?_rackTree : ∃ e, rackTree.root.get? ["rack", "0"] = some (.element e) ∧
    rackTree.root.get? ["rack", "00"] = some (.element e) := by
  have isLive : ((rackTree.root.get? ["rack", "0"]).bind Node.element?).isSome = true := by
    decide
  obtain ⟨e, found⟩ := Option.isSome_iff_exists.mp isLive
  have there := Node.bind_element?_eq_some_iff.mp found
  have wf : rackTree.root.WellFormed := reachable_rackTree.wellFormed
  have place : (Node.container rackTree.root).place ["rack", "00"] =
      (Node.container rackTree.root).place ["rack", "0"] := by decide
  refine ⟨e, there, ?_⟩
  rw [wf.get?_eq_at?_place (List.cons_ne_nil _ _), place,
    ← wf.get?_eq_at?_place (List.cons_ne_nil _ _), there]

theorem key_rackTree : "config.rack.0" = rackTree.keyAt ["rack", "0"] ∧
    ∃ t', rackTree.setStored "config.rack.0" "True" = .ok t' ∧
      ((Node.container t'.root).elementAt? ["rack", "0"]).bind Element.saved = some "True" := by
  obtain ⟨e, found, _⟩ := get?_rackTree
  have named : rackTree.path? "config.rack.0" = some ["rack", "0"] := by decide
  have plain : (Node.container rackTree.root).Plain ["rack", "0"] := by decide
  have place : (Node.container rackTree.root).place ["rack", "0"] = ["rack", "0"] := by
    decide
  obtain ⟨_, _, _, same, _, write⟩ := key_eq_keyAt_iff reachable_rackTree named found
  obtain ⟨t', written, saved⟩ := write e rfl "True"
  rw [place, if_pos plain] at saved
  exact ⟨same.mpr plain, t', written, by rw [saved]; rfl⟩

/-- With a leading zero, a key means a node that has another key, and a text that is persisted at the key
does not reach the node. -/
theorem leading_zero_names_another :
    (¬ ∀ (t : Tree) (key : String) (n : Node), t.Reachable → t.node? key = some n →
      ∃ place, (Node.container t.root).at? place = some n ∧ key = place.foldl childKey t.name) ∧
    ¬ ∀ (t t' : Tree) (key value : String) (e : Element), t.Reachable → t.element? key = some e →
      t.setStored key value = .ok t' → t'.element? key = some (e.setSaved (some value)) := by
  obtain ⟨e, _, found⟩ := get?_rackTree
  have named : rackTree.path? "config.rack.00" = some ["rack", "00"] := by decide
  have meant : rackTree.node? "config.rack.00" = some (.element e) := by
    rw [node?, named, Option.bind_some, found]
  constructor
  · intro names
    obtain ⟨place, live, isKey⟩ := names rackTree "config.rack.00" _ reachable_rackTree meant
    have proper : place ≠ [] := by
      rintro rfl
      rw [Node.at?_nil] at live
      cases live
    have own := path?_key_of_at? reachable_rackTree.wellFormed (by decide) live proper
    rw [← isKey, named] at own
    cases own
    have absent : ((Node.container rackTree.root).at? ["rack", "00"]).isNone = true := by
      decide
    rw [live] at absent
    cases absent
  · intro writes
    have reached := writes rackTree _ "config.rack.00" "True" e reachable_rackTree
      (by rw [element?, meant]; rfl) (setStored_of_path? named "True")
    have kept : ((rackTree.after (.setStored "config.rack.00" "True")).element?
        "config.rack.00").bind Element.saved = none := by decide +kernel
    rw [after, setStored_of_path? named] at kept
    dsimp only at kept
    rw [reached] at kept
    cases kept

end Tree

end Settings
