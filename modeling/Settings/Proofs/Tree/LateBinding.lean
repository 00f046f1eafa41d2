import Settings.Proofs.Container.LateBinding
import Settings.Proofs.Tree.Operation

/-!
# Features that come late

A feature may attach its nodes before a settings text is read or after it. In both cases its elements
have the values and the persisted forms that the text has for them, and the same text is written.

* `Filled.attachAll`: attaching goes on in a tree that has read a text as in the fresh tree.
* `observed_late_eq_early`: it does not matter when nodes are attached.
-/
namespace Settings.Tree

/-- A node that is to be attached to the container at a key. -/
structure Attachment where
  key : String
  name : String
  node : Node
  deriving Repr

/-- Attaches nodes, one after the other; those that are refused stay out. -/
def attachAll (attachments : List Attachment) (t : Tree) : Tree :=
  t.run (attachments.map fun a => .attach a.key a.name a.node)

/-- Reads a settings text as the base of what the tree holds, and loads it. -/
def loadText (text : String) (t : Tree) : Tree := (t.readText text true).result.load.result

/-- What can be observed of a tree: the text that it writes, and for each element under its full key
the value and the persisted form. -/
def observed (t : Tree) : String × List (String × String × Option String) :=
  (t.text, t.elements.map Node.observation)

/-- Trees of which the second is what the fresh first one comes to with a stored map. -/
structure Filled (entries : Level) (t t' : Tree) : Prop where
  name : t'.name = t.name
  root : Container.Filled (some (.level entries)) t.root t'.root

/-- Containers at a key that can be exchanged for others as long as the one fills the other. -/
def FilledAt (entries : Level) (key : String) (t t' : Tree) (c c' : Container Node) : Prop :=
  ∃ below, Container.Filled below c c' ∧ ∀ d d', Container.Filled below d d' →
    Filled entries (t.setContainer key d) (t'.setContainer key d')

variable {entries : Level} {t t' : Tree}

theorem setContainer_of_updateAt? {key : String} (notRoot : key ≠ t.name) {path : List String}
    (named : t.path? key = some path) {c root : Container Node}
    (updated : t.root.updateAt? (fun _ => (.container c, ())) path = some (root, ())) :
    t.setContainer key c = { t with root := root } := by
  rw [setContainer, if_neg notRoot, updateNode?, named, Option.bind_eq_bind, Option.bind_some, updated]
  rfl

/-- A key leads to corresponding containers of both trees, or to none. -/
theorem Filled.rel_container? (filled : Filled entries t t') (key : String) :
    Option.Rel (FilledAt entries key t t') (t.container? key) (t'.container? key) := by
  unfold container?
  rw [filled.name]
  by_cases isRoot : key = t.name
  · rw [if_pos isRoot, if_pos isRoot]
    refine .some ⟨_, filled.root, fun d d' inner => ?_⟩
    rw [setContainer, setContainer, if_pos isRoot, if_pos (filled.name ▸ isRoot)]
    exact ⟨filled.name, inner⟩
  · rw [if_neg isRoot, if_neg isRoot, node?, node?]
    have paths : t'.path? key = t.path? key := by rw [path?, path?, filled.name]
    rw [paths]
    cases named : t.path? key with
    | none => exact .none
    | some path =>
      rw [Option.bind_some, Option.bind_some]
      refine rel_bind (filled.root.rel_get? path) ?_
      rintro n n' ⟨below, there, exchange⟩
      refine rel_some there.rel_container? ?_
      rintro c c' _ _ ⟨rfl, rfl, inner⟩
      refine ⟨below, inner, fun d d' other => ?_⟩
      obtain ⟨root, root', done, done', whole⟩ := exchange _ _ (Node.filled_container_iff.mpr other)
      have notRoot' : key ≠ t'.name := filled.name ▸ isRoot
      rw [setContainer_of_updateAt? isRoot named done,
        setContainer_of_updateAt? notRoot' (paths.trans named) done']
      exact ⟨filled.name, whole⟩

theorem after_attach_eq_getD (key name : String) (n : Node) (t : Tree) :
    t.after (.attach key name n) = ((t.container? key).bind fun c =>
      (c.attach name n).toOption.map fun r => t.setContainer key r.result).getD t := by
  cases there : t.container? key with
  | none => simp [after, attach?, there]
  | some c =>
    cases attached : c.attach name n <;>
      simp [after, attach?, there, attached, Except.map, Except.toOption]

/-- A node is attached to both trees or to none of them. -/
theorem Filled.after_attach (filled : Filled entries t t') {n : Node} (blank : Node.Filled none n n)
    (key name : String) :
    Filled entries (t.after (.attach key name n)) (t'.after (.attach key name n)) := by
  rw [after_attach_eq_getD, after_attach_eq_getD]
  refine rel_getD (rel_bind (filled.rel_container? key) ?_) filled
  rintro c c' ⟨below, here, exchange⟩
  rcases here.attach blank name with ⟨violation, refused, refused'⟩ | ⟨r, r', done, done', both⟩
  · rw [refused, refused']
    exact .none
  · rw [done, done']
    exact .some (exchange _ _ both)

/-- Attaching goes on in a tree that has read a text as in the fresh tree. -/
theorem Filled.attachAll (filled : Filled entries t t') {attachments : List Attachment}
    (fresh : ∀ a ∈ attachments, a.node.Fresh) :
    Filled entries (t.attachAll attachments) (t'.attachAll attachments) := by
  induction attachments generalizing t t' with
  | nil => exact filled
  | cons a rest ih =>
    obtain ⟨first, others⟩ := List.forall_mem_cons.mp fresh
    exact ih (filled.after_attach first.filled_self a.key a.name) others

theorem attachAll_append (first second : List Attachment) (t : Tree) :
    t.attachAll (first ++ second) = (t.attachAll first).attachAll second := by
  rw [attachAll, List.map_append]
  exact List.foldl_append

theorem attachAll_name (attachments : List Attachment) (t : Tree) :
    (t.attachAll attachments).name = t.name :=
  run_name _ t

/-- Nothing is stored in a tree to which only fresh nodes were attached. -/
theorem filled_attachAll (name : String) {attachments : List Attachment}
    (fresh : ∀ a ∈ attachments, a.node.Fresh) :
    Filled [] ((named name).attachAll attachments) ((named name).attachAll attachments) := by
  have start : Filled [] (named name) (named name) := ⟨rfl, rfl, rfl, rfl, .nil⟩
  exact start.attachAll fresh

/-- A tree without stored entries reads a text and loads it. -/
theorem Filled.loadText (blank : Filled [] t t) (text : String) :
    Filled (Level.ofText t.name text) t (t.loadText text) := by
  have empty : Node.Filled none (.container t.root) (.container t.root) := by
    rw [Node.filled_container_iff]
    exact ⟨blank.root.blank, rfl, blank.root.blank, blank.root.children⟩
  have loaded := empty.load_handed (some (.level (Level.ofText t.name text)))
  rw [Node.handed_some, Node.setSaved_container_level, Node.load, Node.mapElements_container,
    Node.filled_container_iff] at loaded
  exact ⟨rfl, loaded⟩

/-- Fresh trees come to the same with the same stored map. -/
theorem Filled.observed_eq {u : Tree} (left : Filled entries t t') (right : Filled entries t u) :
    t'.observed = u.observed := by
  have same := Node.Filled.observed_eq (Node.filled_container_iff.mpr left.root)
    (Node.filled_container_iff.mpr right.root) t.name
  obtain ⟨snapshots, shown⟩ := Prod.mk.inj same
  have persisted : t'.snapshot = u.snapshot := Node.snapshot_container_inj snapshots
  rw [Node.elements, Node.elements] at shown
  rw [observed, observed, text, text, elements, elements, left.name, right.name, persisted]
  exact congrArg _ shown

/-- It does not matter when nodes are attached: if some are attached after a text was read and loaded,
every element has the same value and the same persisted form as if all had been attached before, and
the same text is written. -/
theorem observed_late_eq_early (name : String) (first second : List Attachment)
    (fresh : ∀ a ∈ first ++ second, a.node.Fresh) (text : String) :
    (((named name).attachAll first).loadText text |>.attachAll second).observed =
      (((named name).attachAll (first ++ second)).loadText text).observed := by
  obtain ⟨early, late⟩ := List.forall_mem_append.mp fresh
  have part := ((filled_attachAll name early).loadText text).attachAll late
  have whole := (filled_attachAll name fresh).loadText text
  rw [attachAll_name, ← attachAll_append] at part
  rw [attachAll_name] at whole
  exact part.observed_eq whole

/-- A switch that is off by default. -/
def offSwitch : Node := .element (.ofKind (.switch (.plain false)))

/-- A section that is there from the start. -/
def deskFirst : List Attachment :=
  [⟨"config", "desk", .container ⟨.named, [("lamp", offSwitch)], []⟩⟩]

/-- A switch for the section and a list with a switch. -/
def fanLater : List Attachment :=
  [⟨"config.desk", "fan", offSwitch⟩,
    ⟨"config", "shelf", .container ⟨.indexed, [("0", offSwitch)], []⟩⟩]

theorem fresh_deskFirst_fanLater : ∀ a ∈ deskFirst ++ fanLater, a.node.Fresh := by
  have switch : offSwitch.Fresh := Node.fresh_ofKind (.switch _ (.plain false))
  have single : ∀ shape name, (Node.container ⟨shape, [(name, offSwitch)], []⟩).Fresh := by
    intro shape name
    refine .container _ rfl fun p member => ?_
    rw [List.mem_singleton.mp member]
    exact switch
  simp [deskFirst, fanLater, switch, single]

/-- The lamp is given a level, which does not fit it. -/
def deskText : String := "config.desk.fan=on\nconfig.desk.lamp.bulb=on\nconfig.shelf.0=1\n"

theorem observed_fanLater :
    (((named "config").attachAll deskFirst).loadText deskText |>.attachAll fanLater).elements.map
        Node.observation =
      [("config.desk.lamp", "False", none), ("config.desk.fan", "True", some "on"),
        ("config.shelf.0", "True", some "1")] ∧
    (((named "config").attachAll deskFirst).loadText deskText |>.attachAll fanLater).text =
      (((named "config").attachAll (deskFirst ++ fanLater)).loadText deskText).text := by
  have same :=
    observed_late_eq_early "config" deskFirst fanLater fresh_deskFirst_fanLater deskText
  obtain ⟨texts, values⟩ := Prod.mk.inj same
  have early : (((named "config").attachAll (deskFirst ++ fanLater)).loadText
      deskText).elements.map Node.observation =
      [("config.desk.lamp", "False", none), ("config.desk.fan", "True", some "on"),
        ("config.shelf.0", "True", some "1")] := by decide +kernel
  exact ⟨values.trans early, texts⟩

end Settings.Tree
