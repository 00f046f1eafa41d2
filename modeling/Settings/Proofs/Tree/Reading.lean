import Settings.Proofs.Container.Fits
import Settings.Proofs.Tree.Throughout

/-!
# Reading settings texts

What a tree persists after it has read a settings text. The stored map of the text is handed down;
a live node that the text does not mention is not handed anything and keeps its persisted form.

* `readText_text_eq_iff`: when the tree persists exactly what the text says.
-/
namespace Settings

namespace Tree

variable {t : Tree}

/-- Persisted forms come from settings texts and from the elements; no maps are handed in that were
put together elsewhere. -/
def Operation.Ordinary : Operation → Prop
  | .attach _ _ n => n.Compact
  | .node _ (.hand _) | .replaceStored _ => False
  | _ => True

/-- The trees that ordinary operations lead to. -/
abbrev OrdinarilyReachable (t : Tree) : Prop :=
  ReachedBy (fun t op => op.Permitted t ∧ op.Ordinary) t

theorem lasting_compact : Lasting (fun _ => True) Level.Compact where
  saves _ _ _ := trivial
  loads _ _ := trivial
  assigns _ _ _ := trivial
  hereditary := Node.hereditary_compact
  reads := Level.compact_ofText

theorem compact_after (wf : t.WellFormed) (compact : t.root.Compact) {op : Operation}
    (permitted : op.Permitted t) (ordinary : op.Ordinary) : (t.after op).root.Compact := by
  have lifts := Node.lifts_keepsCompact
  have all := Node.compact_iff_throughout.mp compact
  cases op with
  | attach key name n =>
    exact Node.compact_iff_throughout.mpr (Throughout.after_attach lasting_compact wf all key name
      (Node.compact_iff_throughout.mp ordinary))
  | detach key name =>
    rcases after_detach key name t with same | ⟨c, child, c', there, detached, shape⟩
    · rw [same]
      exact compact
    · rw [shape]
      refine related_setContainer lifts wf there (fun inner => ?_) compact
      exact Container.Compact.detach? (wellFormed_container? wf there) inner detached
  | element key op =>
    exact related_after_element lifts wf key op (fun e _ => Node.compact_element _) compact
  | node key op =>
    refine related_after_node lifts wf key op (fun n inner fine => ?_) compact
    cases op with
    | load => exact fine.mapElements Element.load
    | save => exact fine.mapElements Element.save
    | cancel => exact fine.mapElements Element.cancel
    | hand s => exact absurd ordinary id
  | load => exact Node.compact_iff_throughout.mpr (Throughout.load all fun _ _ => trivial)
  | save => exact Node.compact_iff_throughout.mpr (Throughout.save all fun _ _ => trivial)
  | cancel => exact Node.compact_iff_throughout.mpr (Throughout.cancel all fun _ _ => trivial)
  | readText text isBase =>
    exact Node.compact_iff_throughout.mpr (Throughout.readText lasting_compact wf all text isBase)
  | setStored key value =>
    rw [after]
    cases named : t.path? key with
    | none => rw [setStored, named]; exact compact
    | some path =>
      rw [setStored_of_path? named]
      exact compact.setStored ((compact.snapshot wf).insertAt path (Stored.compact_leaf value))
  | removeStored key =>
    rw [after]
    cases named : t.path? key with
    | none => rw [removeStored, named]; exact compact
    | some path =>
      rw [removeStored_of_path? named]
      have cleared : (removalRoot path t.root).Compact :=
        related_removalRoot lifts wf path (fun e _ => Node.compact_element _) compact
      exact cleared.setStored ((compact.snapshot wf).removeAt wf.canonical_snapshot path)
  | replaceStored entries => exact absurd ordinary id

theorem compact_empty (shape : Shape) : (Container.empty shape).Compact :=
  Node.compact_container_iff.mpr ⟨Level.compact_empty, fun _ _ found => nomatch found⟩

namespace OrdinarilyReachable

theorem reachable (reached : t.OrdinarilyReachable) : t.Reachable :=
  reached.mono fun _ _ fine => fine.1

theorem compact (reached : t.OrdinarilyReachable) : t.root.Compact := by
  induction reached with
  | named name => exact compact_empty .named
  | after t op before fine ih =>
    have wf : t.WellFormed := (reachable before).wellFormed
    exact compact_after wf ih fine.1 fine.2

end OrdinarilyReachable

/-- A persisted form that the text does not mention shows in the text of the tree. -/
theorem covers_of_text_eq (wf : t.WellFormed) (compact : t.root.Compact) {text : String}
    (fits : (Stored.level (Level.ofText t.name text)).Fits (.container t.root))
    (same : (t.readText text true).result.text = (Level.ofText t.name text).text t.name) :
    (Stored.level (Level.ofText t.name text)).Covers (.container t.root) := by
  intro path m live absent
  have canonical := Level.canonical_ofText t.name text
  have wf' := wf.setStored canonical
  cases persisted : m.snapshot with
  | none => rfl
  | some s =>
    have proper : ∀ rest, path ++ rest ≠ [] := by
      intro rest empty
      rw [(List.append_eq_nil_iff.mp empty).1, Stored.at?_nil] at absent
      cases absent
    have inner : s.Compact :=
      Node.compact_snapshot (Node.WellFormed.of_at? wf live) (compact.of_at? live) s persisted
    obtain ⟨rest, value, leaf⟩ := inner.exists_leaf
    have kept : (Node.container (t.root.setStored (Level.ofText t.name text))).at? path = some m := by
      rw [← Node.setSaved_container_level]
      exact Node.at?_setSaved_of_absent live absent
    have more : (Node.container (t.root.setStored (Level.ofText t.name text))).value? (path ++ rest) =
        some value := by
      rw [Node.value?_append_of_at? wf' kept, Node.value?, Node.persisted?, persisted, Option.bind_some,
        leaf]
      rfl
    refine absurd same (Level.text_ne_of_leaf wf'.canonical_snapshot canonical ?_
      ((Container.value?_eq_some_iff _ (proper rest)).mp more) ?_ t.name)
    · intro other v found
      have proper' : other ≠ [] := by
        rintro rfl
        rw [Stored.at?_nil] at found
        cases found
      have present := Node.value?_setSaved_of_fits wf canonical fits found
      rw [Node.setSaved_container_level] at present
      exact (Container.value?_eq_some_iff _ proper').mp present
    · rw [Stored.at?_append, absent]
      rfl

/-- After a settings text was read, the tree persists exactly what the text says if and only if no live
node that the text does not mention has something persisted; such nodes are left as they were. An
unmentioned element that has nothing persisted is on its default after the next load. -/
theorem readText_text_eq_iff (reached : t.OrdinarilyReachable) (text : String)
    (fits : (Stored.level (Level.ofText t.name text)).Fits (.container t.root)) :
    ((t.readText text true).result.text = (Level.ofText t.name text).text t.name ↔
      (Stored.level (Level.ofText t.name text)).Covers (.container t.root)) ∧
    (∀ path n, (Node.container t.root).at? path = some n →
      (Stored.level (Level.ofText t.name text)).at? path = none →
      (Node.container (t.readText text true).result.root).at? path = some n) ∧
    ∀ path e, (Node.container t.root).at? path = some (.element e) →
      (Stored.level (Level.ofText t.name text)).at? path = none → e.saved = none →
      ∃ e', (Node.container (t.readText text true).result.load.result.root).at? path =
        some (.element e') ∧ e'.kind = e.kind.reset := by
  have wf : t.WellFormed := reached.reachable.wellFormed
  have canonical := Level.canonical_ofText t.name text
  have wf' := wf.setStored canonical
  have left : ∀ path n, (Node.container t.root).at? path = some n →
      (Stored.level (Level.ofText t.name text)).at? path = none →
      (Node.container (t.readText text true).result.root).at? path = some n := by
    intro path n live absent
    have kept := Node.at?_setSaved_of_absent live absent
    rwa [Node.setSaved_container_level] at kept
  refine ⟨⟨fun same => ?_, fun covers => ?_⟩, left, ?_⟩
  · exact covers_of_text_eq wf reached.compact fits same
  · have compact := Level.compact_ofText t.name text
    have snapshot := wf.snapshot_setStored_of_fits canonical compact fits covers
    exact congrArg (Level.text t.name) snapshot
  · intro path e live absent nothing
    refine ⟨e.load.result, ?_, ?_⟩
    · have loaded := Node.at?_mapElements Element.load path
        (Node.container (t.readText text true).result.root)
      rw [Node.mapElements_container, left path _ live absent] at loaded
      exact loaded
    · simp only [Element.load, Element.changed, Element.loadedKind, nothing]

/-- A tree with one live switch. -/
def lampTree : Tree :=
  (named "config").after (.attach "config" "lamp" (.element (.ofKind (.switch (.plain false)))))

theorem reachable_lampTree : lampTree.OrdinarilyReachable := by
  have room := hasRoom_root (t := named "config") (by decide)
  exact .after _ _ (.named "config") ⟨⟨.element _, room⟩, Node.compact_element _⟩

theorem readText_lampTree : (lampTree.readText "" true).result.text = "" := by
  have read : Level.ofText lampTree.name "" = [] := by decide +kernel
  have fits : (Stored.level (Level.ofText lampTree.name "")).Fits (.container lampTree.root) := by
    rw [read]
    exact Stored.fits_empty _
  have iff := (readText_text_eq_iff reachable_lampTree "" fits).1
  have nothing : lampTree.root.snapshot = [] := by decide +kernel
  rw [iff.mpr (Node.covers_of_snapshot_eq_none reachable_lampTree.reachable.wellFormed
    (Node.snapshot_container_of_nil nothing))]
  decide +kernel

/-- The same tree after it has read a text that mentions the switch. -/
def litTree : Tree := lampTree.after (.readText "config.lamp=True" true)

theorem reachable_litTree : litTree.OrdinarilyReachable :=
  .after lampTree (.readText "config.lamp=True" true) reachable_lampTree ⟨trivial, trivial⟩

/-- A text that does not mention the switch leaves it with what it had. -/
theorem readText_keeps_unmentioned :
    ¬ ∀ (t : Tree) (text : String), t.OrdinarilyReachable →
      (Stored.level (Level.ofText t.name text)).Fits (.container t.root) →
      (t.readText text true).result.text = (Level.ofText t.name text).text t.name := by
  intro replaces
  have read : Level.ofText litTree.name "" = [] := by decide +kernel
  have fits : (Stored.level (Level.ofText litTree.name "")).Fits (.container litTree.root) := by
    rw [read]
    exact Stored.fits_empty _
  have different : (litTree.readText "" true).result.text ≠
      (Level.ofText litTree.name "").text litTree.name := by
    decide +kernel
  exact different (replaces litTree "" reachable_litTree fits)

end Tree

end Settings
