import Settings.Proofs.Container.Fits
import Settings.Proofs.Element.Evolution
import Settings.Proofs.Stored.Codec

/-!
# Handing on what another node has persisted

The outline of a node says which containers and which elements sit where, and how the elements were
made. What one node persists fits every other node with the same outline, and can be written as a
settings text if its elements have saved nothing else.

* `outline_mapElements`, `outline_setSaved`, `lifts_outline`: operations keep the outline.
* `fits_of_outline`: from one node to another.
* `holds_of_value?`, `writable_snapshot`, `printable_snapshot`: what can be written.
-/
namespace Settings

namespace Node

/-- What was decided about a node when it was made. -/
inductive Label where
  | element (setup : Kind.Setup)
  | container (shape : Shape)
  deriving DecidableEq

def label : Node → Label
  | .element e => .element e.kind.setup
  | .container c => .container c.shape

/-- The label of the live node at each path. -/
def outline (n : Node) (path : List String) : Option Label := (n.at? path).map label

variable {n n' m : Node} {c : Container Node} {path : List String}

theorem outline_element (e : Element) (path : List String) :
    (Node.element e).outline path = if path = [] then some (.element e.kind.setup) else none := by
  cases path with
  | nil => rw [outline, at?_nil]; rfl
  | cons key rest => rw [if_neg (List.cons_ne_nil _ _)]; rfl

theorem outline_element_of_setup {e e' : Element} (same : e'.kind.setup = e.kind.setup) :
    (Node.element e').outline = (Node.element e).outline := by
  funext path
  rw [outline_element, outline_element, same]

theorem outline_container_cons (key : String) (rest : List String) (c : Container Node) :
    (Node.container c).outline (key :: rest) =
      (Keyed.get? key c.children).bind fun child => child.outline rest := by
  rw [outline, at?_cons_container]
  cases Keyed.get? key c.children <;> rfl

theorem outline_mapElements {f : Element → Reported Element}
    (keeps : ∀ e, (f e).result.kind.setup = e.kind.setup) (n : Node) :
    (n.mapElements f).result.outline = n.outline := by
  funext path
  rw [outline, at?_mapElements, outline]
  cases n.at? path with
  | none => rfl
  | some m =>
    refine congrArg some ?_
    dsimp only
    cases m with
    | element e =>
      rw [mapElements_element]
      exact congrArg Label.element (keeps e)
    | container c =>
      rw [mapElements_container]
      rfl

theorem label_handed (entry : Option Stored) (n : Node) : (n.handed entry).label = n.label := by
  rcases entry with _ | text | entries
  · rfl
  · cases n <;> simp [label, Element.setSaved]
  · cases n <;> simp [label]

theorem outline_setSaved (s : Stored) (n : Node) : (n.setSaved s).outline = n.outline := by
  funext path
  rw [outline, at?_setSaved, outline, Option.map_map]
  exact congrArg (fun f => Option.map f (n.at? path)) (funext fun m => label_handed (s.at? path) m)

/-- An operation that keeps the outline of a node keeps those of the containers above. -/
theorem lifts_outline : Lifts fun n n' => n'.outline = n.outline where
  refl _ _ := rfl
  child c name child child' _ live inner := by
    funext path
    cases path with
    | nil => rw [outline, outline, at?_nil, at?_nil]; rfl
    | cons key rest =>
      rw [outline_container_cons, outline_container_cons, Container.get?_withChild]
      by_cases same : key = name
      · rw [if_pos same, same, live]
        exact congrFun inner rest
      · rw [if_neg same]

theorem exists_element_of_outline (same : n'.outline = n.outline) {e : Element}
    (live : n.at? path = some (.element e)) :
    ∃ e', n'.at? path = some (.element e') ∧ e'.kind.setup = e.kind.setup := by
  have labels := congrFun same path
  rw [outline, outline, live] at labels
  obtain ⟨m, there, label⟩ := Option.map_eq_some_iff.mp labels
  cases m with
  | element e' => exact ⟨e', there, Label.element.inj label⟩
  | container c => cases label

/-- Operations on elements that leave the saved forms alone leave all that is persisted alone. -/
theorem snapshot_mapElements (wf : n.WellFormed) {f : Element → Reported Element}
    (keeps : ∀ e, (f e).result.saved = e.saved) : (n.mapElements f).result.snapshot = n.snapshot := by
  induction wf with
  | element e => rw [mapElements_element, snapshot_element, snapshot_element, keeps]
  | container c admits canonical children ih =>
    have wf : c.WellFormed := .container c admits canonical children
    have mapped := Node.WellFormed.mapElements wf f
    rw [mapElements_container] at mapped ⊢
    have wf' : Container.WellFormed { c with children := (mapChildren f c.children).result } := mapped
    have same := wf'.canonical_snapshot.sorted.ext wf.canonical_snapshot.sorted fun key => by
      rw [wf'.get?_snapshot, Container.get?_mapChildren, wf.get?_snapshot]
      cases live : Keyed.get? key c.children with
      | none => rfl
      | some child => exact ih _ (Keyed.mem_of_get? live)
    rw [snapshot_container, snapshot_container, same]

/-- A node without saved forms and stored maps persists nothing. -/
theorem snapshot_eq_none_of_blank (wf : n.WellFormed)
    (blank : n.Throughout (fun e => e.saved = none) (· = [])) : n.snapshot = none := by
  induction wf with
  | element e =>
    rw [snapshot_element, blank.element [] e (at?_nil _)]
    rfl
  | container c admits canonical children ih =>
    have wf : c.WellFormed := .container c admits canonical children
    obtain ⟨own, inner⟩ := throughout_container_iff.mp blank
    refine snapshot_container_of_nil (wf.snapshot_eq_nil fun key => ?_)
    cases live : Keyed.get? key c.children with
    | none => rw [own]; rfl
    | some child => exact ih _ (Keyed.mem_of_get? live) (inner key child live)

theorem snapshot_of_at? (wf : n.WellFormed) (live : n.at? path = some m) :
    n.persisted? path = m.snapshot := by
  have below := persisted?_append_of_at? wf live []
  rw [List.append_nil] at below
  rw [below, persisted?]
  cases m.snapshot <;> simp

/-- What one node persists fits every other node with the same outline. -/
theorem fits_of_outline (wf : n.WellFormed) (same : n'.outline = n.outline) {s : Stored}
    (persisted : n.snapshot = some s) : s.Fits n' := by
  intro path m entry there found
  have labels := congrFun same path
  rw [outline, outline, there] at labels
  obtain ⟨own, live, label⟩ := Option.map_eq_some_iff.mp labels.symm
  have here : own.snapshot = some entry := by
    rw [← snapshot_of_at? wf live, Node.persisted?, persisted, Option.bind_some, found]
  cases own with
  | element e =>
    cases m with
    | element other =>
      rw [snapshot_element] at here
      obtain ⟨text, _, rfl⟩ := Option.map_eq_some_iff.mp here
      rfl
    | container c => cases label
  | container c =>
    cases m with
    | element other => cases label
    | container d =>
      rw [snapshot_container] at here
      split at here
      · cases here
      · cases here
        rfl

/-- A condition on persisted values that passes from a child to its container holds of all that a node
persists, if it holds of what the elements have saved and of the stored maps. -/
theorem holds_of_value? {P : Line → Prop}
    (passes : ∀ (line : Line) (name : String), P line → isValidKey name = true → P (line.below name))
    (wf : n.WellFormed)
    (all : n.Throughout (fun e => ∀ text, e.saved = some text → P ⟨[], text⟩) fun entries =>
      ∀ path value, (Stored.level entries).at? path = some (.leaf value) → P ⟨path, value⟩)
    {value : String} (found : n.value? path = some value) : P ⟨path, value⟩ := by
  induction path generalizing n with
  | nil =>
    cases n with
    | element e =>
      rw [value?_element_nil] at found
      exact all.element [] e (at?_nil _) value found
    | container c =>
      rw [value?_container_nil] at found
      cases found
  | cons key rest ih =>
    cases n with
    | element e =>
      rw [value?_element_cons] at found
      cases found
    | container c =>
      have wf : c.WellFormed := wf
      obtain ⟨own, children⟩ := throughout_container_iff.mp all
      cases live : Keyed.get? key c.children with
      | none =>
        rw [wf.value?_of_absent live, Stored.bind_leaf?_eq_some_iff, ← Stored.at?_cons_level] at found
        exact own _ _ found
      | some child =>
        rw [wf.value?_of_live live] at found
        have below := ih (wf.child live) (children key child live) found
        exact passes _ key below (wf.admits.valid (Keyed.mem_keys_of_get? live))

end Node

namespace Container

theorem holds_of_leaf {c : Container Node} {P : Line → Prop}
    (passes : ∀ (line : Line) (name : String), P line → isValidKey name = true → P (line.below name))
    (wf : c.WellFormed)
    (all : c.Throughout (fun e => ∀ text, e.saved = some text → P ⟨[], text⟩) fun entries =>
      ∀ path value, (Stored.level entries).at? path = some (.leaf value) → P ⟨path, value⟩)
    {path : List String} {value : String}
    (found : (Stored.level c.snapshot).at? path = some (.leaf value)) : P ⟨path, value⟩ := by
  have proper : path ≠ [] := by
    rintro rfl
    cases found
  exact Node.holds_of_value? passes wf all ((Container.value?_eq_some_iff c proper).mpr found)

/-- What a container persists can be written. -/
theorem writable_snapshot {c : Container Node} (wf : c.WellFormed)
    (all : c.Throughout (fun e => ∀ text, e.saved = some text → Text.Legible text) Level.Writable) :
    Level.Writable c.snapshot := by
  have lines := Node.Throughout.mono all fun e legible text saved =>
    Line.writable_of_legible (legible text saved)
  exact fun _ _ found => holds_of_leaf (fun _ _ writable valid => writable.below valid) wf lines found

/-- What a container persists is written on lines of its own, if no element has saved a line end. -/
theorem printable_snapshot {c : Container Node} (wf : c.WellFormed)
    (all : c.Throughout (fun e => ∀ text, e.saved = some text → '\n' ∉ text.toList) Level.Printable) :
    Level.Printable c.snapshot := by
  have lines := Node.Throughout.mono all fun e single text saved =>
    Line.printable_of_single (single text saved)
  exact fun _ _ found => holds_of_leaf (fun _ _ printable valid => printable.below valid) wf lines found

end Container

end Settings
