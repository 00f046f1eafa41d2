import Settings.Proofs.Container.Place
import Settings.Proofs.Element.Rereading

/-!
# Assigning elements in place

An assignment at a path works on the element at the place of the path, and on its working value only. So
what is found where, how the elements were made and what they have saved stays, and with it whatever is
persisted after a stored map is handed down.

* `Node.Revalued`: what stays, and `Node.lifts_revalued`: it does so in the containers above.
* `WellFormed.elementAt?_updateElementAt?`: which element an operation at a path works on.
-/
namespace Settings

theorem Container.childName?_withChild (name key : String) (child : Node) (c : Container Node) :
    (c.withChild name child).childName? key = c.childName? key := rfl

namespace Node

theorem snapshot_container_congr {c d : Container Node} (same : c.snapshot = d.snapshot) :
    (Node.container c).snapshot = (Node.container d).snapshot := by
  rw [snapshot_container, snapshot_container, same]

/-- What counts when an element is loaded: how it was made, and what it has saved. -/
def footing (e : Element) : Kind.Setup × Option String := (e.kind.setup, e.saved)

/-- The second node is the first one with other working values. -/
structure Revalued (n n' : Node) : Prop where
  wellFormed : n'.WellFormed
  place : ∀ path, n'.place path = n.place path
  footing : ∀ path, (n'.elementAt? path).map footing = (n.elementAt? path).map footing
  /-- With the same entry, the nodes persist the same. -/
  snapshot : ∀ entry, (∀ s ∈ entry, s.Canonical) → (n'.handed entry).snapshot = (n.handed entry).snapshot

variable {n n' n'' : Node} {c : Container Node}

theorem elementAt?_cons (key : String) (rest : List String) (c : Container Node) :
    (Node.container c).elementAt? (key :: rest) =
      (Keyed.get? key c.children).bind (elementAt? rest) := by
  rw [elementAt?, at?_cons_container, Option.bind_assoc]
  rfl

theorem elementAt?_container_nil (c : Container Node) : (Node.container c).elementAt? [] = none := by
  rw [elementAt?, at?_nil]
  rfl

theorem elementAt?_element (e : Element) (path : List String) :
    (Node.element e).elementAt? path = if path = [] then some e else none := by
  cases path with
  | nil => rw [elementAt?, at?_nil]; rfl
  | cons key rest => rfl

namespace Revalued

theorem refl (wf : n.WellFormed) : Revalued n n := ⟨wf, fun _ => rfl, fun _ => rfl, fun _ _ => rfl⟩

theorem trans (first : Revalued n n') (second : Revalued n' n'') : Revalued n n'' where
  wellFormed := second.wellFormed
  place path := (second.place path).trans (first.place path)
  footing path := (second.footing path).trans (first.footing path)
  snapshot entry canonical := (second.snapshot entry canonical).trans (first.snapshot entry canonical)

theorem element {e e' : Element} (setup : e'.kind.setup = e.kind.setup) (saved : e'.saved = e.saved) :
    Revalued (.element e) (.element e') where
  wellFormed := .element e'
  place path := by cases path <;> rfl
  footing path := by
    rw [elementAt?_element, elementAt?_element]
    split
    · simp [Node.footing, setup, saved]
    · rfl
  snapshot entry _ := by
    rcases entry with _ | text | entries <;> simp [saved, Element.setSaved]

/-- Two containers of which only one child has other working values persist the same. -/
theorem snapshot_withChild {name : String} {child child' : Node} (wf : c.WellFormed)
    (live : Keyed.get? name c.children = some child) (inner : Revalued child child') :
    (c.withChild name child').snapshot = c.snapshot := by
  have wf' : (c.withChild name child').WellFormed := wf.withChild live inner.wellFormed
  refine wf'.canonical_snapshot.sorted.ext wf.canonical_snapshot.sorted fun key => ?_
  rw [wf'.get?_snapshot, wf.get?_snapshot, Container.get?_withChild]
  by_cases same : key = name
  · rw [if_pos same, same, live]
    exact inner.snapshot none (fun _ member => nomatch member)
  · rw [if_neg same]
    rfl

theorem snapshot_setStored_withChild {name : String} {child child' : Node} (wf : c.WellFormed)
    (live : Keyed.get? name c.children = some child) (inner : Revalued child child')
    {entries : Level} (canonical : (Stored.level entries).Canonical) :
    ((c.withChild name child').setStored entries).snapshot = (c.setStored entries).snapshot := by
  have wf' : (c.withChild name child').WellFormed := wf.withChild live inner.wellFormed
  have handed' := wf'.setStored canonical
  have handed := wf.setStored canonical
  refine handed'.canonical_snapshot.sorted.ext handed.canonical_snapshot.sorted fun key => ?_
  rw [handed'.get?_snapshot, handed.get?_snapshot, Container.get?_children_setStored,
    Container.get?_children_setStored, Container.get?_withChild]
  by_cases same : key = name
  · rw [if_pos same, same, live]
    exact inner.snapshot _ fun s found => canonical.get? found
  · rw [if_neg same]
    rfl

end Revalued

theorem lifts_revalued : Lifts Revalued where
  refl _ wf := .refl wf
  child c name child child' wf live inner := by
    refine ⟨Container.WellFormed.withChild wf live inner.wellFormed, fun path => ?_, fun path => ?_,
      fun entry canonical => ?_⟩
    · cases path with
      | nil => rw [place_nil, place_nil]
      | cons key rest =>
        rw [place, place, Container.childName?_withChild]
        cases c.childName? key with
        | none => rfl
        | some other =>
          dsimp only
          rw [Container.get?_withChild]
          by_cases same : other = name
          · rw [if_pos same, same, live]
            exact congrArg _ (inner.place rest)
          · rw [if_neg same]
    · cases path with
      | nil => rw [elementAt?_container_nil, elementAt?_container_nil]
      | cons key rest =>
        rw [elementAt?_cons, elementAt?_cons, Container.get?_withChild]
        by_cases same : key = name
        · rw [if_pos same, same, live]
          exact inner.footing rest
        · rw [if_neg same]
    · rcases entry with _ | text | entries
      · exact Node.snapshot_container_congr (inner.snapshot_withChild wf live)
      · rw [handed_some, handed_some, setSaved_container_leaf, setSaved_container_leaf]
        exact Node.snapshot_container_congr (inner.snapshot_withChild wf live)
      · rw [handed_some, handed_some, setSaved_container_level, setSaved_container_level]
        exact Node.snapshot_container_congr
          (inner.snapshot_setStored_withChild wf live (canonical _ rfl))

end Node

namespace Container

variable {c c' : Container Node} {α : Type} {path q : List String} {answer : α}

/-- An element that is put at a path is found at the place of the path. -/
theorem elementAt?_updateAt? {e e' : Element} {answer' : α} (found : c.get? path = some (.element e))
    (updated : c.updateAt? (fun _ => (Node.element e', answer)) path = some (c', answer'))
    (q : List String) :
    (Node.container c').elementAt? q =
      if (Node.container c).place path = q then some e' else (Node.container c).elementAt? q := by
  induction path generalizing c c' q with
  | nil => cases found
  | cons key rest ih =>
    obtain ⟨name, child, child', named, live, rfl, performed⟩ := updateAt?_cons updated
    have meant := child?_of_live named live
    rw [place_cons_of_live named live]
    cases q with
    | nil =>
      rw [Node.elementAt?_container_nil, Node.elementAt?_container_nil, if_neg (List.cons_ne_nil _ _)]
    | cons first others =>
      rw [Node.elementAt?_cons, Node.elementAt?_cons, get?_withChild]
      by_cases same : first = name
      · subst same
        rw [if_pos rfl, live, Option.bind_some, Option.bind_some]
        rcases performed with ⟨rfl, made⟩ | ⟨inner, inner', proper, rfl, rfl, below⟩
        · cases made
          rw [get?_singleton, meant] at found
          cases found
          rw [Node.elementAt?_element, Node.elementAt?_element, Node.place_nil]
          cases others <;> simp
        · obtain ⟨next, later, rfl⟩ := List.exists_cons_of_ne_nil proper
          rw [get?_cons_cons, meant] at found
          rw [ih found below others]
          simp
      · rw [if_neg same, if_neg fun equal => same (List.cons.inj equal).1.symm]

/-- An operation at a path works on the element at the place of the path, and on no other one. -/
theorem WellFormed.elementAt?_updateElementAt? (wf : c.WellFormed) {f : Element → Element × α}
    (updated : c.updateElementAt? f path = some (c', answer)) (q : List String) :
    (Node.container c').elementAt? q = ((Node.container c).elementAt? q).map fun e =>
      if (Node.container c).place path = q then (f e).1 else e := by
  rw [updateElementAt?] at updated
  split at updated
  · next e target =>
    have found := Node.bind_element?_eq_some_iff.mp target
    rw [elementAt?_updateAt? found updated]
    split
    · next here =>
      have proper : path ≠ [] := by
        rintro rfl
        cases found
      rw [wf.get?_eq_at?_place proper, here] at found
      rw [Node.elementAt?_eq_some_iff.mpr found]
      rfl
    · rw [Option.map_id']
  · cases updated

/-- Where an operation at a path finds no element, there is none at the place of the path. -/
theorem WellFormed.elementAt?_place_of_updateElementAt?_eq_none (wf : c.WellFormed)
    {f : Element → Element × α} (refused : c.updateElementAt? f path = none) :
    (Node.container c).elementAt? ((Node.container c).place path) = none := by
  cases path with
  | nil => rw [Node.place_nil, Node.elementAt?_container_nil]
  | cons key rest =>
    refine Option.eq_none_iff_forall_ne_some.mpr fun e there => ?_
    rw [Node.elementAt?_eq_some_iff, ← wf.get?_eq_at?_place (List.cons_ne_nil key rest)] at there
    obtain ⟨put, _, puts⟩ := updateElementAt?_of_get? there
    rw [puts] at refused
    cases refused

end Container

end Settings
