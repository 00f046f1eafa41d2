import Settings.Proofs.Container.Attaching
import Settings.Proofs.Tree.LateBinding

/-!
# Attaching in a tree that is in use

Two ways in which an attached node can cost a stored value. Over a live child it takes up what the
container was last handed, not what the child persists; under the key of an entry that does not fit it,
it takes the place of the entry.

* `replaced_eq_readded_iff`: when replacing a child is the same as taking it out first.
* `attach_misfit_keeps_iff`: which values are kept if the entry does not fit.
-/
namespace Settings

namespace Tree

variable {t : Tree} {path : List String} {c : Container Node}

/-- A renewed child can always be attached over the live one, and also after that one was taken out. The
latter keeps all that is persisted. Both leave the same persisted forms and the same value exactly if
the entry that the container holds under the name, as far as it fits, is what the live child persists. -/
theorem replaced_eq_readded_iff (reachable : t.Reachable)
    (there : (Node.container t.root).at? path = some (.container c)) (removable : c.shape ≠ .indexed)
    {name : String} {old n : Node} (live : Keyed.get? name c.children = some old)
    (renews : n.Renews old) :
    ∃ r c₁ r₁ m m₁, c.attach name n = .ok r ∧ c.detach? name = some (old, c₁) ∧
      c₁.attach name n = .ok r₁ ∧ Keyed.get? name r.result.children = some m ∧
      Keyed.get? name r₁.result.children = some m₁ ∧ r₁.result.snapshot = c.snapshot ∧
      ((r.result.snapshot = r₁.result.snapshot ∧ m.observed name = m₁.observed name) ↔
        old.fitting (Keyed.get? name c.stored) = old.snapshot) := by
  have wf : c.WellFormed := Node.WellFormed.of_at? reachable.wellFormed there
  obtain ⟨r, c₁, r₁, replaced, detached, readded, here, here₁⟩ := wf.exists_replaced removable live n
  have kept := wf.snapshot_readded renews detached readded
  have iff := wf.snapshot_replaced_iff removable renews live replaced
  refine ⟨r, c₁, r₁, _, _, replaced, detached, readded, here, here₁, kept, ?_⟩
  rw [kept]
  constructor
  · rintro ⟨same, _⟩
    exact iff.mp same
  · intro upToDate
    exact ⟨iff.mpr upToDate, wf.observed_bind_of_detach? renews detached upToDate name⟩

/-- A switch that is off by default is renewed by another one. -/
theorem exists_offSwitch (name : String) (saved : Option String) {children : List (String × Node)}
    (isLive : ((Keyed.get? name children).bind Node.element?).map
      (fun e => (e.kind.setup, e.saved)) = some ((Kind.switch (.plain false)).setup, saved)) :
    ∃ e, Keyed.get? name children = some (.element e) ∧ offSwitch.Renews (.element e) ∧
      e.saved = saved := by
  obtain ⟨e, found, same⟩ := Option.map_eq_some_iff.mp isLive
  have live := Node.bind_element?_eq_some_iff.mp found
  obtain ⟨setup, same⟩ := Prod.mk.inj same
  have fresh : offSwitch.Fresh := Node.fresh_ofKind (.switch _ (.plain false))
  exact ⟨e, live, .element _ e fresh setup.symm, same⟩

/-- A tree with a text that was persisted for a switch before the switch was attached. -/
def mirrorTree : Tree :=
  ((named "config").after (.setStored "config.mirror" "True")).after
    (.attach "config" "mirror" offSwitch)

theorem reachable_mirrorTree : mirrorTree.Reachable := by
  have room := hasRoom_root (t := (named "config").after (.setStored "config.mirror" "True"))
    (by decide)
  exact .after _ _ (.after _ _ (.named "config") trivial) ⟨.element _, room⟩

theorem replaced_mirrorTree :
    ∃ old r c₁ r₁, mirrorTree.root.attach "mirror" offSwitch = .ok r ∧
      mirrorTree.root.detach? "mirror" = some (old, c₁) ∧ c₁.attach "mirror" offSwitch = .ok r₁ ∧
      r.result.snapshot = r₁.result.snapshot := by
  have isLive : ((Keyed.get? "mirror" mirrorTree.root.children).bind Node.element?).map
      (fun e => (e.kind.setup, e.saved)) = some ((Kind.switch (.plain false)).setup, some "True") := by
    decide
  obtain ⟨e, live, renews, saved⟩ := exists_offSwitch "mirror" _ isLive
  obtain ⟨r, c₁, r₁, m, m₁, replaced, detached, readded, _, _, _, iff⟩ := replaced_eq_readded_iff
    reachable_mirrorTree (Node.at?_nil _) (by decide) live renews
  refine ⟨.element e, r, c₁, r₁, replaced, detached, readded, (iff.mpr ?_).1⟩
  have stored : Keyed.get? "mirror" mirrorTree.root.stored = some (.leaf "True") := by
    decide
  rw [stored, Node.snapshot_element, saved]
  rfl

/-- A tree with a switch that was turned on and saved. -/
def heatedTree : Tree :=
  (((named "config").after (.attach "config" "heater" offSwitch)).after
    (.element "config.heater" (.assignText "True"))).after .save

theorem reachable_heatedTree : heatedTree.Reachable := by
  have room := hasRoom_root (t := named "config") (by decide)
  have attached : ((named "config").after (.attach "config" "heater" offSwitch)).Reachable :=
    .after _ _ (.named "config") ⟨.element _, room⟩
  exact .after _ _ (.after _ _ attached trivial) trivial

/-- What was saved is not in the stored map, so it is lost with the old switch. -/
theorem replacing_loses_saved_form :
    ¬ ∀ (t : Tree) (path : List String) (c c₁ : Container Node) (name : String) (old n : Node)
      (r r₁ : Reported (Container Node)), t.Reachable →
      (Node.container t.root).at? path = some (.container c) → c.shape ≠ .indexed →
      Keyed.get? name c.children = some old → n.Renews old → c.attach name n = .ok r →
      c.detach? name = some (old, c₁) → c₁.attach name n = .ok r₁ →
      r.result.snapshot = r₁.result.snapshot := by
  intro agree
  have isLive : ((Keyed.get? "heater" heatedTree.root.children).bind Node.element?).map
      (fun e => (e.kind.setup, e.saved)) = some ((Kind.switch (.plain false)).setup, some "True") := by
    decide
  obtain ⟨e, live, renews, saved⟩ := exists_offSwitch "heater" _ isLive
  have wf : heatedTree.root.WellFormed := reachable_heatedTree.wellFormed
  have removable : heatedTree.root.shape ≠ .indexed := by decide
  obtain ⟨r, c₁, r₁, replaced, detached, readded, _⟩ := wf.exists_replaced removable live offSwitch
  have same := agree heatedTree [] _ c₁ "heater" _ _ r r₁ reachable_heatedTree (Node.at?_nil _) removable
    live renews replaced detached readded
  rw [wf.snapshot_readded renews detached readded,
    wf.snapshot_replaced_iff removable renews live replaced] at same
  have stored : Keyed.get? "heater" heatedTree.root.stored = none := by decide
  rw [stored, Node.snapshot_element, saved] at same
  cases same

/-- If a node with nothing persisted is attached to an entry that does not fit it, the entry stays in the
stored map of the container, but the node persists nothing in its place. So of the persisted values
exactly those at the key of the node and below it are gone. -/
theorem attach_misfit_keeps_iff (reachable : t.Reachable)
    (there : (Node.container t.root).at? path = some (.container c)) (room : c.HasRoom) {n : Node}
    (inner : n.WellFormed) (nothing : n.snapshot = none) {key place : String}
    (named : c.attachKey key = .ok place) {s : Stored} (found : Keyed.get? place c.stored = some s)
    (misfit : s.leaf?.isSome ≠ n.element?.isSome) :
    ∃ r m, c.attach key n = .ok r ∧ Keyed.get? place r.result.children = some m ∧ m.snapshot = none ∧
      r.result.stored = c.stored ∧ ∀ q value, c.snapshot.get? q = some (.leaf value) →
        (r.result.snapshot.get? q = some (.leaf value) ↔ ¬ [place] <+: q) := by
  have wf : c.WellFormed := Node.WellFormed.of_at? reachable.wellFormed there
  have attached := Container.attach_of_attachKey named n
  have persisted := wf.snapshot_attach_of_misfit room inner nothing named found misfit attached
  refine ⟨_, _, attached, (Container.get?_placed place _ _ place).trans (if_pos rfl), ?_, rfl,
    fun q value leaf => ?_⟩
  · rw [inner.snapshot_bind_of_misfit wf.canonical found misfit, nothing]
  · rw [persisted]
    exact Level.get?_erase_eq_some_iff wf.canonical_snapshot.sorted place leaf

/-- A tree with a level at a key where a switch is to come. -/
def cellarTree : Tree :=
  ((named "config").after (.setStored "config.cellar.door" "oak")).after
    (.setStored "config.roof" "slate")

theorem reachable_cellarTree : cellarTree.Reachable :=
  .after _ _ (.after _ _ (.named "config") trivial) trivial

theorem stored_cellarTree :
    Keyed.get? "cellar" cellarTree.root.stored = some (.level [("door", .leaf "oak")]) := by
  decide +kernel

theorem attachKey_cellarTree : cellarTree.root.attachKey "cellar" = .ok "cellar" :=
  (Container.attachKey_of_notIndexed (by decide) (by decide)).1

theorem attach_misfit_cellarTree :
    ∃ r, cellarTree.root.attach "cellar" offSwitch = .ok r ∧
      r.result.snapshot.get? ["roof"] = some (.leaf "slate") ∧
      r.result.snapshot.get? ["cellar", "door"] ≠ some (.leaf "oak") := by
  obtain ⟨r, m, attached, _, _, _, kept⟩ := attach_misfit_keeps_iff (n := offSwitch)
    reachable_cellarTree (Node.at?_nil _) (by decide) (.element _) (by decide) attachKey_cellarTree
    stored_cellarTree (by decide)
  refine ⟨r, attached, (kept ["roof"] "slate" (by decide)).mpr (by decide), fun still => ?_⟩
  exact (kept ["cellar", "door"] "oak" (by decide)).mp still (by decide)

/-- The level is not persisted any more after the switch was attached. -/
theorem attaching_drops_misfit :
    ¬ ∀ (t : Tree) (path : List String) (c : Container Node) (key place : String) (n m : Node)
      (s : Stored) (r : Reported (Container Node)) (q : List String) (value : String), t.Reachable →
      (Node.container t.root).at? path = some (.container c) → c.HasRoom → n.WellFormed → n.Fresh →
      c.attachKey key = .ok place → Keyed.get? place c.stored = some s →
      s.leaf?.isSome ≠ n.element?.isSome → c.attach key n = .ok r →
      Keyed.get? place r.result.children = some m → m.snapshot = none →
      c.snapshot.get? q = some (.leaf value) → r.result.snapshot.get? q = some (.leaf value) := by
  intro keeps
  have wf : cellarTree.root.WellFormed := reachable_cellarTree.wellFormed
  have inner : offSwitch.WellFormed := .element _
  have attached := Container.attach_of_attachKey attachKey_cellarTree offSwitch
  have here := Container.get?_placed "cellar" (offSwitch.bind cellarTree.root.stored "cellar").result
    cellarTree.root "cellar"
  rw [if_pos rfl] at here
  have nothing := inner.snapshot_bind_of_misfit wf.canonical stored_cellarTree (by decide)
  have oak : cellarTree.root.snapshot.get? ["cellar", "door"] = some (.leaf "oak") := by decide
  have still := keeps cellarTree [] _ "cellar" "cellar" offSwitch _ _ _ ["cellar", "door"] "oak"
    reachable_cellarTree (Node.at?_nil _) (by decide) inner
    (Node.fresh_ofKind (.switch _ (.plain false))) attachKey_cellarTree stored_cellarTree (by decide)
    attached here nothing oak
  rw [wf.snapshot_attach_of_misfit (by decide) inner (by decide) attachKey_cellarTree
    stored_cellarTree (by decide) attached] at still
  exact (Level.get?_erase_eq_some_iff wf.canonical_snapshot.sorted "cellar" oak).mp still (by decide)

end Tree

end Settings
