import Settings.Proofs.Container.Writing

/-!
# The places that paths mean

A path means a live node by what each of its segments stands for: the name of a child or, in a list, any
way to write its position. The place of the node is the path of the names that its containers have for
it. A path is its own place exactly if it writes every position as the lists do.

* `WellFormed.get?_eq_at?_place`: a path means the node at its place.
* `WellFormed.place_eq_iff_plain`: the paths that are their own places.
* `WellFormed.accepts_of_get?`: a path that means an element can be written to.
-/
namespace Settings

namespace Node

/-- The path with each segment that means a live child replaced by the name of the child. -/
def place : List String → Node → List String
  | [], _ => []
  | key :: rest, .element _ => key :: rest
  | key :: rest, .container c =>
    match c.childName? key with
    | some name =>
      match Keyed.get? name c.children with
      | some child => name :: child.place rest
      | none => key :: rest
    | none => key :: rest

/-- No position in a live list is written with a plus sign or with leading zeros. -/
def Plain : List String → Node → Prop
  | [], _ => True
  | _ :: _, .element _ => True
  | key :: rest, .container c =>
    (c.shape = .indexed → Numeral.Plain key.toList) ∧ ∀ child ∈ c.child? key, child.Plain rest

instance decidablePlain : (path : List String) → (n : Node) → Decidable (n.Plain path)
  | [], _ => .isTrue trivial
  | _ :: _, .element _ => .isTrue trivial
  | key :: rest, .container c =>
    have : DecidablePred fun child : Node => child.Plain rest := fun child => decidablePlain rest child
    inferInstanceAs (Decidable ((c.shape = .indexed → Numeral.Plain key.toList) ∧
      ∀ child ∈ c.child? key, child.Plain rest))

@[simp] theorem place_nil (n : Node) : n.place [] = [] := by cases n <;> rfl

end Node

namespace Container

variable {c : Container Node} {n child : Node} {key name : String} {path rest : List String}

theorem place_cons_of_live (named : c.childName? key = some name)
    (live : Keyed.get? name c.children = some child) (rest : List String) :
    (Node.container c).place (key :: rest) = name :: child.place rest := by
  rw [Node.place, named]
  dsimp only
  rw [live]

theorem place_cons_of_absent (absent : c.child? key = none) (rest : List String) :
    (Node.container c).place (key :: rest) = key :: rest := by
  rw [Node.place]
  split
  · next name named =>
    rw [child?, named, Option.bind_some] at absent
    rw [absent]
  · rfl

/-- A key that means no child is no name of a child. -/
theorem WellFormed.get?_children_of_absent (wf : c.WellFormed) (absent : c.child? key = none) :
    Keyed.get? key c.children = none := by
  cases live : Keyed.get? key c.children with
  | none => rfl
  | some child =>
    rw [child?_of_live (wf.childName?_of_live live) live] at absent
    cases absent

/-- A path means the node at its place. -/
theorem WellFormed.get?_eq_at?_place (wf : c.WellFormed) (proper : path ≠ []) :
    c.get? path = (Node.container c).at? ((Node.container c).place path) := by
  induction path generalizing c with
  | nil => exact absurd rfl proper
  | cons key rest ih =>
    cases meant : c.child? key with
    | none =>
      rw [place_cons_of_absent meant, Node.at?_cons_container, wf.get?_children_of_absent meant]
      cases rest with
      | nil => exact meant
      | cons next rest => rw [get?_cons_cons, meant]; rfl
    | some child =>
      obtain ⟨name, named, live⟩ := Option.bind_eq_some_iff.mp meant
      rw [place_cons_of_live named live, Node.at?_cons_of_live live]
      cases rest with
      | nil => rw [Node.place_nil, Node.at?_nil]; exact meant
      | cons next rest =>
        rw [get?_cons_cons, meant]
        cases child with
        | element e => rfl
        | container inner => exact ih (wf.child live) (List.cons_ne_nil _ _)

/-- A key is the name of the child that it means exactly if it is a plain position, in lists. -/
theorem childName?_eq_iff_plain (named : c.childName? key = some name) :
    name = key ↔ (c.shape = .indexed → Numeral.Plain key.toList) := by
  unfold childName? at named
  cases shape : c.shape with
  | indexed =>
    rw [shape] at named
    obtain ⟨number, counted, rfl⟩ := Option.map_eq_some_iff.mp named
    obtain ⟨i, read, cast⟩ := Option.bind_eq_some_iff.mp counted
    cases cast
    have own : Numeral.text (i : Int) = key ↔ Numeral.digits i = key.toList := by
      rw [Numeral.text_natCast]
      exact ⟨fun same => by rw [← same, String.toList_ofList],
        fun same => by rw [same, String.ofList_toList]⟩
    rw [own, Numeral.digits_eq_iff_plain read]
    exact ⟨fun plain _ => plain, fun plain => plain rfl⟩
  | named | keyed =>
    rw [shape] at named
    cases named
    simp

/-- A path that means a node is its own place exactly if it is plain. -/
theorem place_eq_iff_plain (found : c.get? path = some n) :
    (Node.container c).place path = path ↔ (Node.container c).Plain path := by
  induction path generalizing c with
  | nil => cases found
  | cons key rest ih =>
    obtain ⟨name, child, named, live, below⟩ := get?_cons_eq_some found
    have inside : child.place rest = rest ↔ child.Plain rest := by
      rcases below with ⟨rfl, _⟩ | ⟨inner, _, rfl, reached⟩
      · rw [Node.place_nil]
        cases child <;> simp [Node.Plain]
      · exact ih reached
    rw [place_cons_of_live named live, List.cons.injEq, childName?_eq_iff_plain named, inside, Node.Plain,
      child?_of_live named live]
    simp

theorem place_ne_nil (found : c.get? path = some n) : (Node.container c).place path ≠ [] := by
  cases path with
  | nil => cases found
  | cons key rest =>
    obtain ⟨name, child, named, live, _⟩ := get?_cons_eq_some found
    rw [place_cons_of_live named live]
    exact List.cons_ne_nil _ _

end Container

namespace Node

variable {n m : Node} {q : List String}

/-- The path of a live node is its own place, and what follows is found from there. -/
theorem WellFormed.place_append (wf : n.WellFormed) (live : n.at? q = some m) (rest : List String) :
    n.place (q ++ rest) = q ++ m.place rest := by
  induction q generalizing n with
  | nil =>
    rw [at?_nil] at live
    cases live
    rfl
  | cons key others ih =>
    cases n with
    | element e => cases live
    | container c =>
      obtain ⟨child, here, below⟩ := Option.bind_eq_some_iff.mp live
      have wf : c.WellFormed := wf
      rw [List.cons_append, Container.place_cons_of_live (wf.childName?_of_live here) here,
        ih (wf.child here) below, List.cons_append]

theorem WellFormed.place_of_at? (wf : n.WellFormed) (live : n.at? q = some m) : n.place q = q := by
  have whole := wf.place_append live []
  rwa [List.append_nil, place_nil, List.append_nil] at whole

/-- The names of live children can be segments of a key. -/
theorem WellFormed.isValidKey_of_at? (wf : n.WellFormed) (live : n.at? q = some m) :
    ∀ name ∈ q, isValidKey name = true := by
  induction q generalizing n with
  | nil => exact fun _ member => nomatch member
  | cons key others ih =>
    cases n with
    | element e => cases live
    | container c =>
      obtain ⟨child, here, below⟩ := Option.bind_eq_some_iff.mp live
      have wf : c.WellFormed := wf
      exact List.forall_mem_cons.mpr
        ⟨wf.admits.valid (Keyed.mem_keys_of_get? here), ih (wf.child here) below⟩

end Node

namespace Container

variable {c : Container Node} {path : List String} {e : Element}

/-- A path that means an element can be written to: a live element on its way, or a live container at
its end, would be what it means or stand in its way. -/
theorem WellFormed.accepts_of_get? (wf : c.WellFormed) (found : c.get? path = some (.element e)) :
    (Node.container c).Accepts path := by
  have proper : path ≠ [] := by
    rintro rfl
    cases found
  rw [wf.get?_eq_at?_place proper] at found
  constructor
  · rintro q other ⟨rest, rfl⟩ different there
    rw [Node.WellFormed.place_append wf there, Node.at?_append, there] at found
    cases rest with
    | nil => exact different (List.append_nil q).symm
    | cons next later => cases found
  · intro inner there
    rw [Node.WellFormed.place_of_at? wf there, there] at found
    cases found

end Container

end Settings
