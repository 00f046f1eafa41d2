import Mathlib.Data.List.Forall2
import Settings.Proofs.Container.Update
import Settings.Proofs.Element.Kind

/-!
# Fresh nodes and stored entries

A fresh node takes up a stored entry on one of two ways: it is handed the entry while it is attached,
or it finds the entry in the stored map of its container when it is attached later. `Filled` says
what comes of either: everything that can be observed of the node afterwards is decided by the fresh
node and the entry.

* `Node.Filled.load_handed`, `Node.Filled.bind`: both ways fill the node.
* `Container.Filled.attach`: attaching goes on in a filled container as in the fresh one.
* `Node.Filled.observed_eq`: a node can be filled in one way only.
-/
namespace Settings

section Options

variable {α β γ δ : Type} {R S : α → β → Prop} {T : γ → δ → Prop} {x : Option α} {y : Option β}

/-- Related options have related values, and each of these is there. -/
theorem rel_some (related : Option.Rel R x y)
    (inner : ∀ a b, x = some a → y = some b → R a b → S a b) : Option.Rel S x y := by
  cases related with
  | none => exact .none
  | some holds => exact .some (inner _ _ rfl rfl holds)

theorem rel_bind (related : Option.Rel R x y) {f : α → Option γ} {g : β → Option δ}
    (inner : ∀ a b, R a b → Option.Rel T (f a) (g b)) : Option.Rel T (x.bind f) (y.bind g) := by
  cases related with
  | none => exact .none
  | some holds => exact inner _ _ holds

theorem rel_getD (related : Option.Rel R x y) {a : α} {b : β} (otherwise : R a b) :
    R (x.getD a) (y.getD b) := by
  cases related with
  | none => exact otherwise
  | some holds => exact holds

end Options

namespace Keyed

variable {α β : Type} {R : String → α → β → Prop} {xs : List (String × α)} {ys : List (String × β)}

/-- The same keys in the same order, and values that are related at each of them. -/
abbrev Related (R : String → α → β → Prop) : List (String × α) → List (String × β) → Prop :=
  List.Forall₂ fun p q => q.1 = p.1 ∧ R p.1 p.2 q.2

theorem Related.get? (related : Related R xs ys) (key : String) :
    Option.Rel (R key) (Keyed.get? key xs) (Keyed.get? key ys) := by
  induction related with
  | nil => exact .none
  | @cons p q rest others head _ ih =>
    obtain ⟨k, v⟩ := p
    obtain ⟨k', w⟩ := q
    obtain ⟨same, inner⟩ := head
    subst same
    rw [get?_cons, get?_cons]
    by_cases here : key = k'
    · subst here
      rw [if_pos rfl, if_pos rfl]
      exact .some inner
    · rw [if_neg here, if_neg here]
      exact ih

theorem Related.assign (related : Related R xs ys) {key : String} {v : α} {w : β}
    (inner : R key v w) : Related R (Keyed.assign key v xs) (Keyed.assign key w ys) := by
  induction related with
  | nil => exact .cons ⟨rfl, inner⟩ .nil
  | @cons p q rest others head tail ih =>
    obtain ⟨same, below⟩ := head
    rw [Keyed.assign, Keyed.assign, same]
    split
    · exact .cons ⟨rfl, inner⟩ tail
    · exact .cons ⟨rfl, below⟩ ih

theorem Related.insert (related : Related R xs ys) {key : String} {v : α} {w : β}
    (inner : R key v w) : Related R (Keyed.insert key v xs) (Keyed.insert key w ys) := by
  induction related with
  | nil => exact .cons ⟨rfl, inner⟩ .nil
  | @cons p q rest others head tail ih =>
    obtain ⟨same, below⟩ := head
    rw [Keyed.insert, Keyed.insert, same]
    split
    · exact .cons ⟨rfl, inner⟩ (.cons ⟨rfl, below⟩ tail)
    · split
      · exact .cons ⟨rfl, inner⟩ tail
      · exact .cons ⟨rfl, below⟩ ih

end Keyed

namespace Node

/-- Elements on their default and containers without stored entries: nothing is persisted. -/
inductive Fresh : Node → Prop where
  | element (e : Element) (sound : e.kind.Sound) (isDefault : e.isDefault = true)
    (unsaved : e.saved = none) : Fresh (.element e)
  | container (c : Container Node) (blank : c.stored = []) (children : ∀ p ∈ c.children, Fresh p.2) :
    Fresh (.container c)

/-- Elements that hosts have just made are fresh. -/
theorem fresh_ofKind {kind : Kind} (made : kind.Made) : (Node.element (.ofKind kind)).Fresh :=
  .element _ made.sound made.isDefault rfl

mutual
/-- What a fresh node comes to if an entry, or none, is stored for it: an element has the text of a
leaf and the value that it stands for, a container has the entries of a level. What does not fit
counts as nothing. -/
def Filled : Option Stored → Node → Node → Prop
  | entry, .element e, .element e' =>
    e'.saved = entry.bind Stored.leaf? ∧
      e'.valueString = (e.setSaved (entry.bind Stored.leaf?)).load.result.valueString
  | entry, .container ⟨shape, children, stored⟩, .container c' =>
    stored = [] ∧ c'.shape = shape ∧ c'.stored = Level.below entry ∧
      FilledChildren (Level.below entry) children c'.children
  | _, .element _, .container _ | _, .container _, .element _ => False

def FilledChildren : Level → List (String × Node) → List (String × Node) → Prop
  | _, [], [] => True
  | entries, (key, child) :: rest, (key', child') :: rest' =>
    (key' = key ∧ Filled (Keyed.get? key entries) child child') ∧ FilledChildren entries rest rest'
  | _, [], _ :: _ | _, _ :: _, [] => False
end

end Node

/-- Containers of which the second is what the fresh first one comes to. -/
structure Container.Filled (entry : Option Stored) (c c' : Container Node) : Prop where
  blank : c.stored = []
  shape : c'.shape = c.shape
  stored : c'.stored = Level.below entry
  children : Keyed.Related (fun key => Node.Filled (Keyed.get? key (Level.below entry)))
    c.children c'.children

namespace Node

variable {entry : Option Stored} {n n' m : Node} {c c' : Container Node}

theorem filledChildren_iff {entries : Level} {children children' : List (String × Node)} :
    FilledChildren entries children children' ↔
      Keyed.Related (fun key => Filled (Keyed.get? key entries)) children children' := by
  induction children generalizing children' with
  | nil => cases children' <;> simp [FilledChildren, Keyed.Related]
  | cons p rest ih =>
    cases children' with
    | nil => simp [FilledChildren, Keyed.Related]
    | cons q rest' => rw [FilledChildren, ih, Keyed.Related, List.forall₂_cons]

theorem filled_container_iff :
    Filled entry (.container c) (.container c') ↔ Container.Filled entry c c' := by
  rw [Filled, filledChildren_iff]
  exact ⟨fun ⟨blank, shape, stored, children⟩ => ⟨blank, shape, stored, children⟩,
    fun filled => ⟨filled.blank, filled.shape, filled.stored, filled.children⟩⟩

/-- A container comes to a container only. -/
theorem Filled.rel_container? (filled : Filled entry n n') :
    Option.Rel (fun c c' => n = .container c ∧ n' = .container c' ∧ Container.Filled entry c c')
      n.container? n'.container? := by
  cases n with
  | element e =>
    cases n' with
    | element e' => exact .none
    | container c' => exact absurd filled id
  | container c =>
    cases n' with
    | element e' => exact absurd filled id
    | container c' => exact .some ⟨rfl, rfl, filled_container_iff.mp filled⟩

/-- Nothing changes for an element that is on its default when it is loaded with nothing persisted. -/
theorem valueString_load_of_isDefault {e : Element} (sound : e.kind.Sound)
    (isDefault : e.isDefault = true) : (e.setSaved none).load.result.valueString = e.valueString :=
  Kind.encode_reset sound rfl isDefault

/-- A fresh node is what it comes to if nothing is stored for it. -/
theorem Fresh.filled_self (fresh : n.Fresh) : Filled none n n := by
  induction fresh with
  | element e sound isDefault unsaved =>
    exact ⟨unsaved, (valueString_load_of_isDefault sound isDefault).symm⟩
  | container c blank _ ih =>
    refine filled_container_iff.mpr ⟨blank, rfl, blank, ?_⟩
    exact List.forall₂_same.mpr fun p member => ⟨rfl, ih p member⟩

/-- An entry that does not fit is as an empty level to a container without stored entries. -/
theorem handed_of_blank (blank : c.stored = []) (entry : Option Stored) :
    (Node.container c).handed entry = .container (c.setStored (Level.below entry)) := by
  have untouched : handDown [] c.children = c.children := by
    rw [handDown_eq_map]
    exact List.map_id' c.children
  have same : c.setStored [] = c := by rw [Container.setStored, untouched, ← blank]
  rcases entry with _ | text | entries
  · exact congrArg Node.container same.symm
  · exact (setSaved_container_leaf text c).trans (congrArg Node.container same.symm)
  · exact setSaved_container_level entries c

/-- A node for which nothing was stored is handed its entry and loaded. -/
theorem Filled.load_handed (blank : Filled none n n) (entry : Option Stored) :
    Filled entry n (n.handed entry).load.result := by
  induction n using Node.induction generalizing entry with
  | element e =>
    rw [handed_of_unsaved blank.1, load, mapElements_element]
    exact ⟨rfl, rfl⟩
  | container c ih =>
    have own := filled_container_iff.mp blank
    rw [handed_of_blank own.blank, load, mapElements_container, filled_container_iff]
    refine ⟨own.blank, rfl, rfl, ?_⟩
    dsimp only [Container.setStored]
    rw [mapChildren_result, handDown_eq_map, List.map_map]
    refine List.forall₂_map_right_iff.mpr (List.forall₂_same.mpr fun p member => ⟨rfl, ?_⟩)
    exact ih p member (List.forall₂_same.mp own.children p member).2 _

/-- A node for which nothing was stored finds its entry in a stored map. -/
theorem Filled.bind (blank : Filled none n n) (stored : Level) (key : String) :
    Filled (Keyed.get? key stored) n (n.bind stored key).result := by
  unfold Node.bind
  cases found : Keyed.get? key stored with
  | none => exact blank
  | some s => exact blank.load_handed (some s)

/-- The key of an element, its value and its persisted form. -/
def observation (p : String × Element) : String × String × Option String :=
  (p.1, p.2.valueString, p.2.saved)

/-- What can be observed of a node: what it persists, and its elements. -/
def observed (key : String) (n : Node) : Option Stored × List (String × String × Option String) :=
  (n.snapshot, (n.elements key).map observation)

/-- What can be observed of children whose nodes agree one by one. -/
theorem observedChildren_eq {R : String → Node → Node → Prop} {fresh left right : List (String × Node)}
    (agree : ∀ p ∈ fresh, ∀ n m, R p.1 p.2 n → R p.1 p.2 m → ∀ key, n.observed key = m.observed key)
    (filled : Keyed.Related R fresh left) (filled' : Keyed.Related R fresh right) :
    (∀ stored, overlay left stored = overlay right stored) ∧
      ∀ above, (childElements above left).map observation =
        (childElements above right).map observation := by
  induction filled generalizing right with
  | nil =>
    cases filled'
    exact ⟨fun _ => rfl, fun _ => rfl⟩
  | @cons p q rest others head _ ih =>
    cases filled' with
    | @cons _ q' _ others' head' tail' =>
      obtain ⟨same, node⟩ := head
      obtain ⟨same', node'⟩ := head'
      obtain ⟨own, agree⟩ := List.forall_mem_cons.mp agree
      obtain ⟨overlays, elements⟩ := ih agree tail'
      refine ⟨fun stored => ?_, fun above => ?_⟩
      · have persisted := (Prod.mk.inj (own _ _ node node' "")).1
        rw [overlay, overlay, same, same', persisted, overlays]
      · have shown := (Prod.mk.inj (own _ _ node node' (childKey above p.1))).2
        rw [childElements, childElements, same, same', List.map_append, List.map_append, shown, elements]

/-- A fresh node can be filled in one way only. -/
theorem Filled.observed_eq (left : Filled entry n n') (right : Filled entry n m) (key : String) :
    n'.observed key = m.observed key := by
  induction n using Node.induction generalizing entry n' m key with
  | element e =>
    cases n' with
    | container c => exact absurd left id
    | element e' =>
      cases m with
      | container c => exact absurd right id
      | element e'' =>
        obtain ⟨saved, value⟩ := left
        obtain ⟨saved', value'⟩ := right
        simp [observed, observation, elements, saved, saved', value, value']
  | container c ih =>
    cases n' with
    | element e => exact absurd left id
    | container c' =>
      cases m with
      | element e => exact absurd right id
      | container c'' =>
        rw [filled_container_iff] at left right
        obtain ⟨overlays, shown⟩ := observedChildren_eq
          (fun p member n m left right key => ih p member left right key) left.children right.children
        have snapshots : c'.snapshot = c''.snapshot := by
          rw [Container.snapshot, Container.snapshot, overlays, left.stored, right.stored]
        rw [observed, observed, snapshot_container, snapshot_container, snapshots, elements, elements,
          shown]

end Node

namespace Container

variable {entry : Option Stored} {c c' : Container Node} {n m m' : Node}

theorem Filled.withChild (filled : Filled entry c c') {name : String}
    (inner : Node.Filled (Keyed.get? name (Level.below entry)) m m') :
    Filled entry (c.withChild name m) (c'.withChild name m') :=
  ⟨filled.blank, filled.shape, filled.stored, filled.children.assign inner⟩

/-- Attaching a fresh node goes on in a filled container as in the fresh one. -/
theorem Filled.attach (filled : Filled entry c c') (blank : Node.Filled none n n) (key : String) :
    (∃ violation, c.attach key n = .error violation ∧ c'.attach key n = .error violation) ∨
      ∃ r r', c.attach key n = .ok r ∧ c'.attach key n = .ok r' ∧ Filled entry r.result r'.result := by
  have keys : c'.attachKey key = c.attachKey key := by
    rw [attachKey, attachKey, filled.shape, filled.children.length_eq]
  unfold Container.attach
  rw [keys]
  cases c.attachKey key with
  | error violation => exact .inl ⟨violation, rfl, rfl⟩
  | ok name =>
    refine .inr ⟨_, _, rfl, rfl, filled.blank, filled.shape, filled.stored, ?_⟩
    have inner : Node.Filled (Keyed.get? name (Level.below entry)) (n.bind c.stored name).result
        (n.bind c'.stored name).result := by
      rw [filled.blank, filled.stored]
      exact blank.bind (Level.below entry) name
    dsimp only [placed]
    rw [filled.shape]
    cases c.shape with
    | keyed => exact filled.children.insert inner
    | named => exact filled.children.assign inner
    | indexed => exact filled.children.assign inner

/-- Nodes at a path that can be exchanged for others as long as the one fills the other. -/
def FilledAt (entry : Option Stored) (path : List String) (c c' : Container Node) (n n' : Node) :
    Prop :=
  ∃ below, Node.Filled below n n' ∧ ∀ m m', Node.Filled below m m' →
    ∃ d d', c.updateAt? (fun _ => (m, ())) path = some (d, ()) ∧
      c'.updateAt? (fun _ => (m', ())) path = some (d', ()) ∧ Filled entry d d'

section Below

variable {α : Type} {f : Node → Node × α} {key name : String} {child : Node}

/-- An update at a path is an update of the first container on the way. -/
theorem updateAt?_of_live {inner inner' : Container Node} {next : String} {rest : List String}
    {answer : α} (named : c.childName? key = some name)
    (live : Keyed.get? name c.children = some (.container inner))
    (below : inner.updateAt? f (next :: rest) = some (inner', answer)) :
    c.updateAt? f (key :: next :: rest) = some (c.withChild name (.container inner'), answer) := by
  refine (updateChild?_of_live named live _).trans ?_
  dsimp only
  rw [below]
  rfl

end Below

/-- Children that a key means in both containers, the second one being what the first one comes to. -/
structure FilledChild (entry : Option Stored) (key : String) (c c' : Container Node)
    (child child' : Node) (name : String) : Prop where
  named : c.childName? key = some name
  named' : c'.childName? key = some name
  live : Keyed.get? name c.children = some child
  live' : Keyed.get? name c'.children = some child'
  filled : Node.Filled (Keyed.get? name (Level.below entry)) child child'

theorem Filled.rel_child? (filled : Filled entry c c') (key : String) :
    Option.Rel (fun child child' => ∃ name, FilledChild entry key c c' child child' name)
      (c.child? key) (c'.child? key) := by
  have names : c'.childName? key = c.childName? key := by rw [childName?, childName?, filled.shape]
  rw [child?, child?, names]
  cases named : c.childName? key with
  | none => exact .none
  | some name =>
    rw [named] at names
    refine rel_some (filled.children.get? name) fun child child' live live' inner => ?_
    exact ⟨name, named, names, live, live', inner⟩

/-- A path leads to corresponding nodes of both containers, or to none. -/
theorem Filled.rel_get? (filled : Filled entry c c') (path : List String) :
    Option.Rel (FilledAt entry path c c') (c.get? path) (c'.get? path) := by
  induction path generalizing entry c c' with
  | nil => exact .none
  | cons key rest ih =>
    have step := filled.rel_child? key
    cases rest with
    | nil =>
      refine rel_some step ?_
      rintro child child' _ _ ⟨name, own⟩
      refine ⟨_, own.filled, fun m m' inner => ⟨_, _, ?_, ?_, filled.withChild inner⟩⟩
      · exact updateChild?_of_live own.named own.live _
      · exact updateChild?_of_live own.named' own.live' _
    | cons next rest =>
      rw [get?_cons_cons, get?_cons_cons, Option.bind_assoc, Option.bind_assoc]
      refine rel_bind step ?_
      rintro child child' ⟨name, own⟩
      refine rel_bind own.filled.rel_container? ?_
      rintro inner inner' ⟨rfl, rfl, nested⟩
      refine rel_some (ih nested) ?_
      rintro n n' _ _ ⟨below, there, exchange⟩
      refine ⟨below, there, fun m m' other => ?_⟩
      obtain ⟨d, d', done, done', whole⟩ := exchange m m' other
      exact ⟨_, _, updateAt?_of_live own.named own.live done,
        updateAt?_of_live own.named' own.live' done',
        filled.withChild (Node.filled_container_iff.mpr whole)⟩

end Container

end Settings
