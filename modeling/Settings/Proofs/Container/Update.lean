import Settings.Proofs.Container.WellFormed

/-!
# Operations below a path

An operation at a path puts another node in the place of one child, of a child of that child and so
on. So a relation that passes from a child to its container holds between the whole tree before and
after as soon as it holds at the place of the operation.

* `Lifts.updateAt?`, `Lifts.updateElementAt?`: from the place of an operation to the whole.
* `updateElementAt?_of_get?`: an operation at a path puts the element back in its place.
* `WellFormed.attach`, `WellFormed.detach?`: children come and go in well-formed containers.
-/
namespace Settings

namespace Node

/-- The node that a path of exact keys leads to. -/
def at? : List String → Node → Option Node
  | [], n => some n
  | _ :: _, .element _ => none
  | key :: rest, .container c => (Keyed.get? key c.children).bind (at? rest)

@[simp] theorem at?_nil (n : Node) : n.at? [] = some n := by cases n <;> rfl

@[simp] theorem at?_cons_element (key : String) (rest : List String) (e : Element) :
    (Node.element e).at? (key :: rest) = none := rfl

@[simp] theorem at?_cons_container (key : String) (rest : List String) (c : Container Node) :
    (Node.container c).at? (key :: rest) = (Keyed.get? key c.children).bind (at? rest) := rfl

/-- Below a container, a path goes on from the child on the way. -/
theorem at?_cons_of_live {c : Container Node} {key : String} {child : Node}
    (live : Keyed.get? key c.children = some child) (rest : List String) :
    (Node.container c).at? (key :: rest) = child.at? rest := by
  rw [at?_cons_container, live, Option.bind_some]

theorem at?_append (p q : List String) (n : Node) : n.at? (p ++ q) = (n.at? p).bind (at? q) := by
  induction p generalizing n with
  | nil => simp
  | cons key rest ih =>
    cases n with
    | element e => rfl
    | container c =>
      rw [List.cons_append, at?_cons_container, at?_cons_container]
      cases Keyed.get? key c.children with
      | none => rfl
      | some child => exact ih child

/-- Operations on elements do not change where nodes sit. -/
theorem at?_mapElements (f : Element → Reported Element) (path : List String) (n : Node) :
    (n.mapElements f).result.at? path = (n.at? path).map fun m => (m.mapElements f).result := by
  induction path generalizing n with
  | nil => simp
  | cons key rest ih =>
    cases n with
    | element e =>
      rw [mapElements_element]
      rfl
    | container c =>
      rw [mapElements_container, at?_cons_container, at?_cons_container, Container.get?_mapChildren]
      cases Keyed.get? key c.children with
      | none => rfl
      | some child => exact ih child

/-- An element of a container after an operation on all of them. -/
theorem at?_mapChildren {f : Element → Reported Element} {c : Container Node} {path : List String}
    {e : Element} (live : (container c).at? path = some (.element e)) :
    (container { c with children := (mapChildren f c.children).result }).at? path =
      some (.element (f e).result) := by
  rw [← mapElements_container, at?_mapElements, live, Option.map_some, mapElements_element]

theorem WellFormed.of_at? {n m : Node} (wf : n.WellFormed) {path : List String}
    (live : n.at? path = some m) : m.WellFormed := by
  induction path generalizing n with
  | nil =>
    rw [at?_nil] at live
    cases live
    exact wf
  | cons key rest ih =>
    cases n with
    | element e => cases live
    | container c =>
      rw [at?_cons_container] at live
      obtain ⟨child, here, below⟩ := Option.bind_eq_some_iff.mp live
      exact ih (Container.WellFormed.child wf here) below

/-- A relation between a well-formed node before and after an operation that holds where nothing
happens and passes from a child to its container. -/
structure Lifts (R : Node → Node → Prop) : Prop where
  refl : ∀ n : Node, n.WellFormed → R n n
  child : ∀ (c : Container Node) (name : String) (child child' : Node), c.WellFormed →
    Keyed.get? name c.children = some child → R child child' →
    R (.container c) (.container (c.withChild name child'))

end Node

namespace Container

variable {c c' : Container Node} {α : Type}

theorem keys_withChild {name : String} {child : Node}
    (live : Keyed.get? name c.children = some child) (child' : Node) :
    Keyed.keys (c.withChild name child').children = Keyed.keys c.children := by
  rw [withChild, Keyed.keys_assign, if_pos (Keyed.mem_keys_of_get? live)]

theorem get?_withChild (name : String) (child : Node) (c : Container Node) (key : String) :
    Keyed.get? key (c.withChild name child).children =
      if key = name then some child else Keyed.get? key c.children :=
  Keyed.get?_assign name key child c.children

theorem withChild_self {name : String} {child : Node}
    (live : Keyed.get? name c.children = some child) : c.withChild name child = c := by
  rw [withChild, Keyed.assign_of_get? live]

theorem WellFormed.withChild (wf : c.WellFormed) {name : String} {child child' : Node}
    (live : Keyed.get? name c.children = some child) (inner : child'.WellFormed) :
    (c.withChild name child').WellFormed := by
  refine wellFormed_of_get? ?_ wf.canonical fun key other found => ?_
  · rw [keys_withChild live]
    exact wf.admits
  · rw [get?_withChild] at found
    split at found
    · cases found
      exact inner
    · exact wf.child found

theorem lifts_wellFormed : Node.Lifts fun _ after => after.WellFormed where
  refl _ wf := wf
  child _ _ _ _ wf live inner := wf.withChild live inner

/-- A live child is meant by its own key. -/
theorem WellFormed.childName?_of_live (wf : c.WellFormed) {key : String} {child : Node}
    (live : Keyed.get? key c.children = some child) : c.childName? key = some key := by
  have admits := wf.admits
  unfold childName?
  cases shape : c.shape with
  | named => rfl
  | keyed => rfl
  | indexed =>
    rw [shape] at admits
    obtain ⟨keys, bounded⟩ := admits
    have member := Keyed.mem_keys_of_get? live
    rw [keys] at member
    obtain ⟨i, below, rfl⟩ := List.mem_map.mp member
    have inside : i < Numeral.positionBound := Nat.lt_of_lt_of_le (List.mem_range.mp below) bounded
    rw [Numeral.text_natCast, String.toList_ofList, Numeral.position?_digits inside]
    simp [Numeral.text_natCast]

theorem child?_of_live {key name : String} {child : Node} (named : c.childName? key = some name)
    (live : Keyed.get? name c.children = some child) : c.child? key = some child := by
  rw [child?, named, Option.bind_some, live]

theorem updateChild?_of_live {key name : String} {child : Node} (named : c.childName? key = some name)
    (live : Keyed.get? name c.children = some child) (f : Node → Option (Node × α)) :
    c.updateChild? f key = (f child).map fun done => (c.withChild name done.1, done.2) := by
  rw [updateChild?, named, Option.bind_eq_bind, Option.bind_some, live, Option.bind_eq_bind,
    Option.bind_some]
  cases f child <;> rfl

theorem updateChild?_eq_some {f : Node → Option (Node × α)} {key : String} {answer : α}
    (updated : c.updateChild? f key = some (c', answer)) :
    ∃ name child child', c.childName? key = some name ∧ Keyed.get? name c.children = some child ∧
      f child = some (child', answer) ∧ c' = c.withChild name child' := by
  obtain ⟨name, named, updated⟩ := Option.bind_eq_some_iff.mp updated
  obtain ⟨child, live, updated⟩ := Option.bind_eq_some_iff.mp updated
  obtain ⟨⟨child', given⟩, performed, updated⟩ := Option.bind_eq_some_iff.mp updated
  cases updated
  exact ⟨name, child, child', named, live, performed, rfl⟩

/-- What an operation at a path does to the first container on the way. -/
theorem updateAt?_cons {f : Node → Node × α} {key : String} {rest : List String} {answer : α}
    (updated : c.updateAt? f (key :: rest) = some (c', answer)) :
    ∃ name child child', c.childName? key = some name ∧ Keyed.get? name c.children = some child ∧
      c' = c.withChild name child' ∧
      (rest = [] ∧ (child', answer) = f child ∨
        ∃ inner inner', rest ≠ [] ∧ child = .container inner ∧ child' = .container inner' ∧
          inner.updateAt? f rest = some (inner', answer)) := by
  cases rest with
  | nil =>
    obtain ⟨name, child, child', named, live, performed, shape⟩ := updateChild?_eq_some updated
    exact ⟨name, child, child', named, live, shape, .inl ⟨rfl, (Option.some.inj performed).symm⟩⟩
  | cons next rest =>
    obtain ⟨name, child, child', named, live, performed, shape⟩ := updateChild?_eq_some updated
    refine ⟨name, child, child', named, live, shape, .inr ?_⟩
    cases child with
    | element e => cases performed
    | container inner =>
      obtain ⟨⟨inner', reported⟩, below, same⟩ := Option.map_eq_some_iff.mp performed
      cases same
      exact ⟨inner, inner', List.cons_ne_nil _ _, rfl, rfl, below⟩

theorem get?_singleton (key : String) : c.get? [key] = c.child? key := rfl

theorem get?_cons_cons (key next : String) (rest : List String) :
    c.get? (key :: next :: rest) =
      ((c.child? key).bind Node.container?).bind (get? (next :: rest)) := rfl

/-- The node at a path is found below the first child on the way. -/
theorem get?_cons_eq_some {n : Node} {key : String} {rest : List String}
    (found : c.get? (key :: rest) = some n) :
    ∃ name child, c.childName? key = some name ∧ Keyed.get? name c.children = some child ∧
      (rest = [] ∧ child = n ∨
        ∃ inner, rest ≠ [] ∧ child = .container inner ∧ inner.get? rest = some n) := by
  cases rest with
  | nil =>
    obtain ⟨name, named, live⟩ := Option.bind_eq_some_iff.mp found
    exact ⟨name, n, named, live, .inl ⟨rfl, rfl⟩⟩
  | cons next rest =>
    rw [get?_cons_cons] at found
    obtain ⟨inner, meant, below⟩ := Option.bind_eq_some_iff.mp found
    obtain ⟨child, step, isContainer⟩ := Option.bind_eq_some_iff.mp meant
    obtain ⟨name, named, live⟩ := Option.bind_eq_some_iff.mp step
    exact ⟨name, child, named, live, .inr ⟨inner, List.cons_ne_nil _ _,
      Node.eq_container_of_container? isContainer, below⟩⟩

end Container

namespace Node.Lifts

variable {R : Node → Node → Prop} {c c' : Container Node} {α : Type}

theorem updateAt? (lifts : Lifts R) {f : Node → Node × α} {path : List String} {answer : α}
    (wf : c.WellFormed) (updated : c.updateAt? f path = some (c', answer))
    (target : ∀ n, c.get? path = some n → n.WellFormed → R n (f n).1) :
    R (.container c) (.container c') := by
  induction path generalizing c c' with
  | nil => cases updated
  | cons key rest ih =>
    obtain ⟨name, child, child', named, live, rfl, performed⟩ := Container.updateAt?_cons updated
    refine lifts.child c name child child' wf live ?_
    have meant := Container.child?_of_live named live
    rcases performed with ⟨rfl, same⟩ | ⟨inner, inner', proper, rfl, rfl, below⟩
    · have result : child' = (f child).1 := congrArg Prod.fst same
      rw [result]
      refine target child ?_ (wf.child live)
      rw [Container.get?_singleton, meant]
    · obtain ⟨next, others, rfl⟩ := List.exists_cons_of_ne_nil proper
      refine ih (wf.child live) below fun n found => target n ?_
      rw [Container.get?_cons_cons, meant]
      exact found

theorem updateElementAt? (lifts : Lifts R) {f : Element → Element × α} {path : List String}
    {answer : α} (wf : c.WellFormed) (updated : c.updateElementAt? f path = some (c', answer))
    (target : ∀ e, c.get? path = some (.element e) → R (.element e) (.element (f e).1)) :
    R (.container c) (.container c') := by
  unfold Container.updateElementAt? at updated
  split at updated
  · next e found =>
    have there := Node.bind_element?_eq_some_iff.mp found
    refine lifts.updateAt? wf updated fun n found' _ => ?_
    rw [there] at found'
    cases found'
    exact target e there
  · cases updated

end Node.Lifts

namespace Container

variable {c c' : Container Node} {n child : Node}

theorem WellFormed.wellFormed_get? (wf : c.WellFormed) {path : List String}
    (found : c.get? path = some n) : n.WellFormed := by
  induction path generalizing c with
  | nil => cases found
  | cons key rest ih =>
    obtain ⟨name, child, _, live, ⟨_, rfl⟩ | ⟨inner, _, rfl, below⟩⟩ := get?_cons_eq_some found
    · exact wf.child live
    · exact ih (wf.child live) below

/-- All operations at a path put their node in one place, in which the old node is the old container. -/
theorem updateAt?_of_get? {path : List String} (found : c.get? path = some n) :
    ∃ put : Node → Container Node, put n = c ∧
      ∀ {α : Type} (f : Node → Node × α), c.updateAt? f path = some (put (f n).1, (f n).2) := by
  induction path generalizing c with
  | nil => cases found
  | cons key rest ih =>
    obtain ⟨name, child, named, live, ⟨rfl, rfl⟩ | ⟨inner, proper, rfl, below⟩⟩ :=
      get?_cons_eq_some found
    · refine ⟨fun m => c.withChild name m, withChild_self live, fun f => ?_⟩
      exact updateChild?_of_live named live _
    · obtain ⟨put, same, puts⟩ := ih below
      refine ⟨fun m => c.withChild name (.container (put m)), ?_, fun f => ?_⟩
      · dsimp only
        rw [same, withChild_self live]
      · obtain ⟨next, others, rfl⟩ := List.exists_cons_of_ne_nil proper
        refine (updateChild?_of_live named live _).trans ?_
        dsimp only
        rw [puts]
        rfl

theorem updateElementAt?_of_get? {path : List String} {e : Element}
    (found : c.get? path = some (.element e)) :
    ∃ put : Element → Container Node, put e = c ∧
      ∀ {α : Type} (f : Element → Element × α),
        c.updateElementAt? f path = some (put (f e).1, (f e).2) := by
  obtain ⟨put, same, puts⟩ := updateAt?_of_get? found
  refine ⟨fun e => put (.element e), same, fun f => ?_⟩
  rw [updateElementAt?, found]
  exact puts _

theorem attach_eq_ok {key : String} {r : Reported (Container Node)}
    (attached : c.attach key n = .ok r) :
    ∃ name, c.attachKey key = .ok name ∧
      r.result = { c with children := c.placed name (n.bind c.stored name).result } := by
  unfold attach at attached
  cases named : c.attachKey key with
  | error violation => rw [named] at attached; cases attached
  | ok name =>
    rw [named] at attached
    cases attached
    exact ⟨name, rfl, rfl⟩

theorem get?_placed (name : String) (n : Node) (c : Container Node) (key : String) :
    Keyed.get? key (c.placed name n) = if key = name then some n else Keyed.get? key c.children := by
  unfold placed
  split
  · exact Keyed.get?_insert name key n c.children
  · exact Keyed.get?_assign name key n c.children
  · exact Keyed.get?_assign name key n c.children

/-- A list has a position left for one more child. -/
def HasRoom (c : Container Node) : Prop :=
  c.shape = .indexed → c.children.length < Numeral.positionBound

instance (c : Container Node) : Decidable c.HasRoom :=
  inferInstanceAs (Decidable (c.shape = .indexed → c.children.length < Numeral.positionBound))

theorem positions_succ (size : Nat) :
    positions (size + 1) = positions size ++ [Numeral.text size] := by
  simp [positions, List.range_succ]

theorem text_size_not_mem_positions (size : Nat) : Numeral.text size ∉ positions size := by
  intro member
  obtain ⟨i, below, same⟩ := List.mem_map.mp member
  have equal := Numeral.text_natCast_injective same
  rw [List.mem_range] at below
  omega

/-- The key of a new child in a list is the next position. -/
theorem WellFormed.vacant_of_indexed (wf : c.WellFormed) (indexed : c.shape = .indexed)
    {key name : String} (named : c.attachKey key = .ok name) : Keyed.get? name c.children = none := by
  have admits := wf.admits
  rw [indexed] at admits
  unfold attachKey at named
  rw [indexed] at named
  cases named
  rw [Keyed.get?_eq_none_iff, admits.1, Keyed.keys, List.length_map]
  exact text_size_not_mem_positions _

/-- A key that is not a position is taken as it is, if it can be a segment of a line. -/
theorem attachKey_eq_ok (notIndexed : c.shape ≠ .indexed) {key name : String}
    (named : c.attachKey key = .ok name) : name = key ∧ isValidKey name = true := by
  unfold attachKey at named
  cases shape : c.shape with
  | indexed => exact absurd shape notIndexed
  | named | keyed =>
    rw [shape] at named
    dsimp only at named
    split at named
    · next valid =>
      cases named
      exact ⟨rfl, valid⟩
    · cases named

theorem WellFormed.admits_placed (wf : c.WellFormed) (room : c.HasRoom) {key name : String}
    (named : c.attachKey key = .ok name) (n : Node) :
    c.shape.Admits (Keyed.keys (c.placed name n)) := by
  have admits := wf.admits
  unfold placed
  cases shape : c.shape with
  | named =>
    rw [shape] at admits
    have valid := (attachKey_eq_ok (by simp [shape]) named).2
    dsimp only
    rw [Keyed.keys_assign]
    split
    · exact admits
    · next absent =>
      refine ⟨List.nodup_append.mpr ⟨admits.1, List.pairwise_singleton _ _, ?_⟩, ?_⟩
      · intro other member last single same
        rw [List.mem_singleton.mp single] at same
        exact absent (same ▸ member)
      · intro other member
        rcases List.mem_append.mp member with old | new
        · exact admits.2 other old
        · rw [List.mem_singleton.mp new]
          exact valid
  | keyed =>
    rw [shape] at admits
    have valid := (attachKey_eq_ok (by simp [shape]) named).2
    refine ⟨Keyed.Sorted.insert admits.1 name n, fun other member => ?_⟩
    rcases Keyed.mem_keys_insert.mp member with same | old
    · rw [same]
      exact valid
    · exact admits.2 other old
  | indexed =>
    rw [shape] at admits
    have absent := Keyed.get?_eq_none_iff.mp (wf.vacant_of_indexed shape named)
    unfold attachKey at named
    rw [shape] at named
    cases named
    have size : (Keyed.keys c.children).length = c.children.length := List.length_map _
    dsimp only
    rw [Keyed.keys_assign, if_neg absent]
    refine ⟨?_, ?_⟩
    · rw [List.length_append, size, List.length_singleton, positions_succ, ← size, ← admits.1]
    · have bounded := room shape
      rw [List.length_append, size, List.length_singleton]
      omega

theorem WellFormed.attach (wf : c.WellFormed) (room : c.HasRoom) (inner : n.WellFormed) {key : String}
    {r : Reported (Container Node)} (attached : c.attach key n = .ok r) : r.result.WellFormed := by
  obtain ⟨name, named, shape⟩ := attach_eq_ok attached
  rw [shape]
  refine wellFormed_of_get? (wf.admits_placed room named _) wf.canonical fun other child found => ?_
  rw [get?_placed] at found
  split at found
  · cases found
    exact inner.bind wf.canonical name
  · exact wf.child found

theorem detach?_eq_some {key : String} (detached : c.detach? key = some (child, c')) :
    c.shape ≠ .indexed ∧ Keyed.get? key c.children = some child ∧
      c' = { c with
        children := Keyed.erase key c.children
        stored := c.stored.record key child.snapshot } := by
  unfold detach? at detached
  cases shape : c.shape with
  | indexed =>
    rw [shape] at detached
    cases detached
  | named | keyed =>
    rw [shape] at detached
    obtain ⟨other, live, same⟩ := Option.bind_eq_some_iff.mp detached
    cases same
    exact ⟨nofun, live, rfl⟩

/-- A child that is detached leaves its persisted form in the stored map. -/
theorem WellFormed.get?_stored_detach? (wf : c.WellFormed) {key : String}
    (detached : c.detach? key = some (child, c')) (other : String) :
    Keyed.get? other c'.stored = if other = key then child.snapshot else Keyed.get? other c.stored := by
  obtain ⟨_, _, rfl⟩ := detach?_eq_some detached
  exact Level.get?_record wf.canonical key _ other

/-- The other children stay. -/
theorem WellFormed.get?_children_detach? (wf : c.WellFormed) {key : String}
    (detached : c.detach? key = some (child, c')) (other : String) :
    Keyed.get? other c'.children = if other = key then none else Keyed.get? other c.children := by
  obtain ⟨_, _, rfl⟩ := detach?_eq_some detached
  exact Keyed.get?_erase wf.distinct key other

theorem WellFormed.detach? (wf : c.WellFormed) {key : String}
    (detached : c.detach? key = some (child, c')) : c'.WellFormed := by
  obtain ⟨notIndexed, live, rfl⟩ := detach?_eq_some detached
  have admits := wf.admits
  refine wellFormed_of_get? ?_ ?_ fun other sibling found => ?_
  · dsimp only
    rw [Keyed.keys_erase]
    cases shape : c.shape with
    | named =>
      rw [shape] at admits
      exact ⟨admits.1.sublist List.erase_sublist, fun other member =>
        admits.2 other (List.mem_of_mem_erase member)⟩
    | keyed =>
      rw [shape] at admits
      exact ⟨admits.1.sublist List.erase_sublist, fun other member =>
        admits.2 other (List.mem_of_mem_erase member)⟩
    | indexed => exact absurd shape notIndexed
  · exact Level.canonical_record wf.canonical key (wf.child live).canonical_snapshot
  · rw [Keyed.get?_erase wf.distinct] at found
    split at found
    · cases found
    · exact wf.child found

end Container

end Settings
