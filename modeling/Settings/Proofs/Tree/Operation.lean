import Settings.Proofs.Container.Update
import Settings.Proofs.Stored.Codec
import Settings.Tree

/-!
# Operations on trees

All that a host does to a tree, as data, so that one can speak of any run of operations. What an
operation does is said by the function of its name; one that is refused leaves the tree alone.

* `Reachable`: the trees that runs lead to.
* `Reachable.wellFormed`: they are well-formed.
-/
namespace Settings

namespace Node

inductive Operation where
  | load | save | cancel
  /-- Hands the node a persisted form. -/
  | hand (s : Stored)
  deriving Repr

def after : Operation → Node → Node
  | .load, n => n.load.result
  | .save, n => n.save.result
  | .cancel, n => n.cancel.result
  | .hand s, n => n.setSaved s

end Node

namespace Tree

inductive Operation where
  /-- Attaches a node to the container at a key. -/
  | attach (key name : String) (n : Node)
  | detach (key name : String)
  | element (key : String) (op : Element.Operation)
  | node (key : String) (op : Node.Operation)
  | load | save | cancel
  | readText (text : String) (isBase : Bool)
  | setStored (key value : String)
  | removeStored (key : String)
  /-- Hands the root another stored map. -/
  | replaceStored (entries : Level)
  deriving Repr

/-- The tree after an operation. -/
def after : Operation → Tree → Tree
  | .attach key name n, t =>
    match t.attach? key name n with
    | some (.ok r) => r.result
    | _ => t
  | .detach key name, t =>
    match t.detach? key name with
    | some (_, t') => t'
    | none => t
  | .element key op, t =>
    match t.performAt? key op with
    | some (r, _) => r.result
    | none => t
  | .node key op, t =>
    match t.updateNode? key fun n => (n.after op, ()) with
    | some (t', _) => t'
    | none => t
  | .load, t => t.load.result
  | .save, t => t.save.result
  | .cancel, t => t.cancel.result
  | .readText text isBase, t => (t.readText text isBase).result
  | .setStored key value, t =>
    match t.setStored key value with
    | .ok t' => t'
    | .error _ => t
  | .removeStored key, t =>
    match t.removeStored key with
    | .ok (t', _) => t'
    | .error _ => t
  | .replaceStored entries, t => { t with root := t.root.setStored entries }

/-- The tree after a run of operations. -/
def run (ops : List Operation) (t : Tree) : Tree := ops.foldl (fun t op => t.after op) t

/-- What the host sees to: attached nodes are well-formed, lists do not outgrow their positions, and
persisted forms from outside are sorted. -/
def Operation.Permitted (t : Tree) : Operation → Prop
  | .attach key _ n => n.WellFormed ∧ ∀ c ∈ t.container? key, c.HasRoom
  | .node _ (.hand s) => s.Canonical
  | .replaceStored entries => (Stored.level entries).Canonical
  | _ => True

/-- The trees that runs lead to if each operation is allowed where it happens. -/
inductive ReachedBy (allowed : Tree → Operation → Prop) : Tree → Prop where
  | named (name : String) : ReachedBy allowed (named name)
  | after (t : Tree) (op : Operation) (reached : ReachedBy allowed t) (fine : allowed t op) :
    ReachedBy allowed (t.after op)

theorem ReachedBy.mono {allowed allowed' : Tree → Operation → Prop} {t : Tree}
    (reached : ReachedBy allowed t) (weaker : ∀ t op, allowed t op → allowed' t op) :
    ReachedBy allowed' t := by
  induction reached with
  | named name => exact .named name
  | after t op _ fine ih => exact .after t op ih (weaker t op fine)

/-- The trees that runs of operations lead to. -/
abbrev Reachable (t : Tree) : Prop := ReachedBy (fun t op => op.Permitted t) t

/-- The root has room for any number of children unless it is a list. -/
theorem hasRoom_root {t : Tree} (shape : t.root.shape ≠ .indexed) :
    ∀ c ∈ t.container? t.name, c.HasRoom := by
  intro c there indexed
  rw [container?, if_pos rfl] at there
  cases there
  exact absurd indexed shape

abbrev WellFormed (t : Tree) : Prop := t.root.WellFormed

variable {t : Tree} {R : Node → Node → Prop} {α : Type}

/-- The relation between the roots of two trees. -/
abbrev Related (R : Node → Node → Prop) (t t' : Tree) : Prop :=
  R (.container t.root) (.container t'.root)

theorem related_setContainer (lifts : Node.Lifts R) (wf : t.WellFormed) {key : String}
    {c c' : Container Node} (there : t.container? key = some c)
    (inner : R (.container c) (.container c')) : Related R t (t.setContainer key c') := by
  unfold container? at there
  unfold setContainer
  by_cases isRoot : key = t.name
  · rw [if_pos isRoot] at there ⊢
    cases there
    exact inner
  · rw [if_neg isRoot] at there ⊢
    obtain ⟨n, found, isContainer⟩ := Option.bind_eq_some_iff.mp there
    obtain ⟨path, named, live⟩ := Option.bind_eq_some_iff.mp found
    split
    · next t' updated =>
      obtain ⟨path', named', updated⟩ := Option.bind_eq_some_iff.mp updated
      obtain ⟨⟨root, answer⟩, performed, same⟩ := Option.bind_eq_some_iff.mp updated
      cases same
      rw [named] at named'
      cases named'
      refine lifts.updateAt? wf performed fun other live' _ => ?_
      rw [live] at live'
      cases live'
      obtain rfl := Node.eq_container_of_container? isContainer
      exact inner
    · exact lifts.refl _ wf

theorem wellFormed_container? (wf : t.WellFormed) {key : String} {c : Container Node}
    (there : t.container? key = some c) : c.WellFormed := by
  unfold container? at there
  split at there
  · cases there
    exact wf
  · obtain ⟨n, found, isContainer⟩ := Option.bind_eq_some_iff.mp there
    obtain ⟨path, _, live⟩ := Option.bind_eq_some_iff.mp found
    obtain rfl := Node.eq_container_of_container? isContainer
    exact wf.wellFormed_get? live

theorem after_attach (key name : String) (n : Node) (t : Tree) :
    t.after (.attach key name n) = t ∨
      ∃ c r, t.container? key = some c ∧ c.attach name n = .ok r ∧
        t.after (.attach key name n) = t.setContainer key r.result := by
  cases there : t.container? key with
  | none => simp [after, attach?, there]
  | some c =>
    cases attached : c.attach name n with
    | error violation => simp [after, attach?, there, attached, Except.map]
    | ok r => exact .inr ⟨c, r, rfl, attached, by simp [after, attach?, there, attached, Except.map]⟩

theorem after_detach (key name : String) (t : Tree) :
    t.after (.detach key name) = t ∨
      ∃ c child c', t.container? key = some c ∧ c.detach? name = some (child, c') ∧
        t.after (.detach key name) = t.setContainer key c' := by
  cases there : t.container? key with
  | none => simp [after, detach?, there]
  | some c =>
    cases detached : c.detach? name with
    | none => simp [after, detach?, there, detached]
    | some p => exact .inr ⟨c, p.1, p.2, rfl, detached, by simp [after, detach?, there, detached]⟩

theorem related_after_element (lifts : Node.Lifts R) (wf : t.WellFormed) (key : String)
    (op : Element.Operation)
    (target : ∀ e : Element, R (.element e) (.element (e.perform op).1.result)) :
    Related R t (t.after (.element key op)) := by
  rw [after]
  split
  · next r answer performed =>
    obtain ⟨path, named, performed⟩ := Option.bind_eq_some_iff.mp performed
    obtain ⟨⟨root, notices, answer'⟩, updated, same⟩ := Option.bind_eq_some_iff.mp performed
    cases same
    exact lifts.updateElementAt? wf updated fun e _ => target e
  · exact lifts.refl _ wf

theorem related_after_node (lifts : Node.Lifts R) (wf : t.WellFormed) (key : String)
    (op : Node.Operation) (target : ∀ n : Node, n.WellFormed → R n (n.after op)) :
    Related R t (t.after (.node key op)) := by
  rw [after]
  split
  · next t' updated =>
    obtain ⟨path, named, updated⟩ := Option.bind_eq_some_iff.mp updated
    obtain ⟨⟨root, answer⟩, performed, same⟩ := Option.bind_eq_some_iff.mp updated
    cases same
    exact lifts.updateAt? wf performed fun n _ inner => target n inner
  · exact lifts.refl _ wf

theorem related_assignLine (lifts : Node.Lifts R) {c : Container Node} (wf : c.WellFormed)
    (line : Line) (target : ∀ e : Element,
      R (.element e) (.element (e.perform (.assignText line.value)).1.result)) :
    R (.container c) (.container (assignLine line c).result) := by
  unfold assignLine
  dsimp only
  split
  · next c' notices assigned =>
    refine lifts.updateElementAt? wf assigned fun e _ => ?_
    have step := target e
    rw [Element.perform] at step
    cases read : e.assignText line.value with
    | error err => rwa [read, Element.attempt] at step
    | ok r => rwa [read, Element.attempt] at step
  · exact lifts.refl _ wf

theorem wellFormed_assignLine {c : Container Node} (wf : c.WellFormed) (line : Line) :
    (assignLine line c).result.WellFormed :=
  related_assignLine Container.lifts_wellFormed wf line fun _ => .element _

theorem wellFormed_assignLines {c : Container Node} (wf : c.WellFormed) (lines : List Line) :
    (assignLines lines c).result.WellFormed := by
  induction lines generalizing c with
  | nil => exact wf
  | cons line rest ih =>
    rw [assignLines]
    exact ih (wellFormed_assignLine wf line)

end Tree

theorem Node.WellFormed.after {n : Node} (wf : n.WellFormed) (op : Node.Operation)
    (sorted : ∀ s, op = .hand s → s.Canonical) : (n.after op).WellFormed := by
  cases op with
  | load => exact wf.mapElements Element.load
  | save => exact wf.mapElements Element.save
  | cancel => exact wf.mapElements Element.cancel
  | hand s => exact wf.setSaved (sorted s rfl)

theorem Container.WellFormed.mapChildren {c : Container Node} (wf : c.WellFormed)
    (f : Element → Reported Element) :
    ({ c with children := (Node.mapChildren f c.children).result } : Container Node).WellFormed := by
  have mapped := Node.WellFormed.mapElements wf f
  rwa [Node.mapElements_container] at mapped

namespace Tree

variable {t : Tree}

/-- What the root is before the stored entries of a removal are handed down. -/
def removalRoot (path : List String) (c : Container Node) : Container Node :=
  match c.updateElementAt? (fun e => (e.setSaved none, ())) path with
  | some (root, _) => root
  | none => c

theorem related_removalRoot {R : Node → Node → Prop} (lifts : Node.Lifts R) {c : Container Node}
    (wf : c.WellFormed) (path : List String)
    (target : ∀ e : Element, R (.element e) (.element (e.setSaved none))) :
    R (.container c) (.container (removalRoot path c)) := by
  unfold removalRoot
  split
  · next root answer cleared => exact lifts.updateElementAt? wf cleared fun e _ => target e
  · exact lifts.refl _ wf

theorem storedValue?_of_path? {key : String} {path : List String} (named : t.path? key = some path) :
    t.storedValue? key = (t.snapshot.get? path).bind Stored.leaf? := by
  rw [storedValue?, named]
  rfl

theorem storedValue?_of_path?_eq_none {key : String} (nameless : t.path? key = none) :
    t.storedValue? key = none := by
  rw [storedValue?, nameless]
  rfl

theorem setStored_of_path? {key : String} {path : List String} (named : t.path? key = some path)
    (value : String) : t.setStored key value =
      .ok { t with root := t.root.setStored (t.snapshot.insertAt path (.leaf value)) } := by
  rw [setStored, named]

theorem removeStored_of_path? {key : String} {path : List String} (named : t.path? key = some path) :
    t.removeStored key = .ok ({ t with
      root := (removalRoot path t.root).setStored (t.snapshot.removeAt path).2 },
      (t.snapshot.get? path).isSome) := by
  rw [removeStored, named, ← Level.removeAt_fst]
  rfl

theorem updateNode?_name {α : Type} {key : String} {f : Node → Node × α} {t' : Tree} {answer : α}
    (updated : t.updateNode? key f = some (t', answer)) : t'.name = t.name := by
  obtain ⟨path, _, updated⟩ := Option.bind_eq_some_iff.mp updated
  obtain ⟨root, _, same⟩ := Option.bind_eq_some_iff.mp updated
  cases same
  rfl

theorem setContainer_name (key : String) (c : Container Node) (t : Tree) :
    (t.setContainer key c).name = t.name := by
  unfold setContainer
  split
  · rfl
  · split
    · next t' updated => exact updateNode?_name updated
    · rfl

/-- No operation renames a tree. -/
theorem after_name (op : Operation) (t : Tree) : (t.after op).name = t.name := by
  cases op with
  | attach key name n =>
    rcases after_attach key name n t with same | ⟨c, r, _, _, shape⟩
    · rw [same]
    · rw [shape, setContainer_name]
  | detach key name =>
    rcases after_detach key name t with same | ⟨c, child, c', _, _, shape⟩
    · rw [same]
    · rw [shape, setContainer_name]
  | element key op =>
    rw [after]
    split
    · next r answer performed =>
      obtain ⟨path, _, performed⟩ := Option.bind_eq_some_iff.mp performed
      obtain ⟨root, _, same⟩ := Option.bind_eq_some_iff.mp performed
      cases same
      rfl
    · rfl
  | node key op =>
    rw [after]
    split
    · next t' updated => exact updateNode?_name updated
    · rfl
  | load | save | cancel => rfl
  | readText text isBase => rfl
  | setStored key value =>
    rw [after]
    cases named : t.path? key with
    | none => rw [setStored, named]
    | some path => rw [setStored_of_path? named]
  | removeStored key =>
    rw [after]
    cases named : t.path? key with
    | none => rw [removeStored, named]
    | some path => rw [removeStored_of_path? named]
  | replaceStored entries => rfl

theorem run_name (ops : List Operation) (t : Tree) : (t.run ops).name = t.name := by
  induction ops generalizing t with
  | nil => rfl
  | cons op rest ih => exact (ih (t.after op)).trans (after_name op t)

theorem WellFormed.after (wf : t.WellFormed) {op : Operation} (permitted : op.Permitted t) :
    (t.after op).WellFormed := by
  have lifts := Container.lifts_wellFormed
  cases op with
  | attach key name n =>
    rcases after_attach key name n t with same | ⟨c, r, there, attached, shape⟩
    · rw [same]
      exact wf
    · rw [shape]
      have inner : c.WellFormed := wellFormed_container? wf there
      exact related_setContainer lifts wf there (inner.attach (permitted.2 c there) permitted.1 attached)
  | detach key name =>
    rcases after_detach key name t with same | ⟨c, child, c', there, detached, shape⟩
    · rw [same]
      exact wf
    · rw [shape]
      have inner : c.WellFormed := wellFormed_container? wf there
      exact related_setContainer lifts wf there (inner.detach? detached)
  | element key op => exact related_after_element lifts wf key op fun e => .element _
  | node key op =>
    refine related_after_node lifts wf key op fun n inner => inner.after op ?_
    rintro s rfl
    exact permitted
  | load => exact wf.mapChildren Element.load
  | save => exact wf.mapChildren Element.save
  | cancel => exact wf.mapChildren Element.cancel
  | readText text isBase =>
    rw [Tree.after, readText]
    cases isBase with
    | true => exact wf.setStored (Level.canonical_ofText t.name text)
    | false =>
      exact (wellFormed_assignLines wf _).setStored (Level.canonical_ofText t.name text)
  | setStored key value =>
    rw [Tree.after]
    cases named : t.path? key with
    | none => rw [setStored, named]; exact wf
    | some path =>
      rw [setStored_of_path? named]
      have leaf := Stored.canonical_leaf value
      exact wf.setStored (Level.canonical_insertAt wf.canonical_snapshot path leaf)
  | removeStored key =>
    rw [Tree.after]
    cases named : t.path? key with
    | none => rw [removeStored, named]; exact wf
    | some path =>
      rw [removeStored_of_path? named]
      have cleared : (removalRoot path t.root).WellFormed :=
        related_removalRoot lifts wf path fun e => .element _
      exact cleared.setStored (Level.canonical_removeAt wf.canonical_snapshot path)
  | replaceStored entries => exact wf.setStored permitted

theorem Reachable.wellFormed (reachable : t.Reachable) : t.WellFormed := by
  induction reachable with
  | named name => exact Container.wellFormed_empty .named
  | after t op _ permitted wf => exact wf.after permitted

end Tree

end Settings
