import Settings.Proofs.Editor.Choices
import Settings.Proofs.Element.Closed
import Settings.Proofs.Element.Kind

/-!
# Choices, after every run

Whatever is done to a selection, its value and its default are those of choices that it has then, also if
several choices have one string form, and also if the choices were replaced, by none or by others. New
choices keep the string form if one of them has it.

* `Kind.Edited.selection`: what becomes of a selection while the focus does not change.
* `Kind.closed_selection`: what edits of selections keep.
* `settled_run`, `placed_run`: the value, the default and the position after any run.
-/
namespace Settings

namespace Kind

variable {s : Selection} {k : Kind}

/-- Whatever becomes of a selection while the focus does not change is a turn of it. -/
theorem Edited.selection {edits : ValueEdit → Prop} {values : Value → Prop}
    (edited : (Kind.selection s).Edited edits values k) : ∃ s', k = .selection s' ∧ s.Turns s' := by
  cases edited with
  | handle mode a => exact ⟨_, rfl, s.turns_handle a⟩
  | edit _ done =>
    cases applied_of_apply done with
    | aside => exact ⟨s, rfl, .same⟩
    | selectValue v => exact ⟨_, rfl, .setByKey v.stringForm⟩
    | selectNext => exact ⟨_, rfl, .moveTo ((s.index + 1) % s.choices.length)⟩
    | setChoices choices default => exact ⟨_, rfl, .setChoices choices default⟩
  | @decode _ text read =>
    cases read
    exact ⟨_, rfl, .setByKey text⟩
  | @assign _ v _ taken =>
    cases taken
    exact ⟨_, rfl, .setByKey v.stringForm⟩
  | reset => exact ⟨_, rfl, .reset⟩
  | _ => exact ⟨s, rfl, .same⟩

/-- What every turn of selections keeps cannot be left. -/
theorem closed_selection {P : Selection → Prop}
    (kept : ∀ {s s' : Selection}, s.Turns s' → P s → P s') :
    Closed (fun _ => True) (fun _ => True) fun k => ∃ s, k = .selection s ∧ P s := by
  apply Closed.of_unfocused fun _ => ⟨rfl, rfl⟩
  intro s k holds edited
  obtain ⟨s', same, turns⟩ := edited.selection
  exact ⟨s', same, kept turns holds⟩

end Kind

namespace Element

variable {s : Selection} {e : Element}

theorem perform_setChoices (shown : e.kind = .selection s) (choices : List Choice)
    (default : Option Value) :
    (e.perform (.edit (.setChoices choices default))).1.result.kind =
        .selection (s.setChoices choices default).1 ∧
      (e.perform (.edit (.setChoices choices default))).2 = .flag (s.setChoices choices default).2 := by
  have done : e.kind.apply (.setChoices choices default) =
      .ok (.selection (s.setChoices choices default).1, some (s.setChoices choices default).2) := by
    rw [shown, Kind.apply]
  rw [perform_edit done]
  exact ⟨rfl, rfl⟩

/-- Whatever is done to a selection that a host made, it stays settled. -/
theorem settled_run (made : s.Made) (ops : List Operation) :
    ∃ s', (run ops (ofKind (.selection s))).result.kind = .selection s' ∧ s'.Settled := by
  have closed := Kind.closed_selection (P := Selection.Settled) fun turns settled => settled.turns turns
  exact closed.run (fun op _ => op.within_true) ⟨s, rfl, made.settled⟩

/-- Whatever was done to a selection that a host made, its value is that of a choice and its default that
of the first choice with its string form, and it stands at the first choice with the string form of the
value; without choices both are the empty text. New choices then keep the string form if one of them has
it and go to the new default otherwise, which is the first of them with the string form of the wanted one
or the first of all; the answer says whether the value is another one. -/
theorem placed_run (made : s.Made) (ops : List Operation)
    (arrived : e = (run ops (ofKind (.selection s))).result) :
    ∃ s', e.kind = .selection s' ∧ s'.Placed ∧
      ∀ choices default, ∃ next changed,
        (e.perform (.edit (.setChoices choices default))).1.result.kind = .selection next ∧
        (e.perform (.edit (.setChoices choices default))).2 = .flag changed ∧
        Selection.Rechosen choices default s' next changed ∧ next.Placed := by
  subst arrived
  obtain ⟨s', reached, settled⟩ := settled_run made ops
  refine ⟨s', reached, settled.placed, fun choices default => ?_⟩
  obtain ⟨next, answer⟩ := perform_setChoices reached choices default
  have rechosen := Selection.rechosen_setChoices choices default s'
  exact ⟨_, _, next, answer, rechosen, (settled.turns (.setChoices choices default)).placed⟩

/-- Volumes, two of them with one string form. -/
def volumes : List Choice := [⟨.int 1, none⟩, ⟨.text "1", some "one"⟩, ⟨.real ⟨0⟩, none⟩]

/-- Goes to the last volume, drops all choices, takes them back with a default and goes to the first one
and on. -/
def volumesOps : List Operation :=
  [.act .twelve .last, .edit (.setChoices [] none), .save, .load,
    .edit (.setChoices volumes (some (.text "0.0"))), .act .twelve .first, .edit .selectNext]

/-- Another two volumes; the second one has the string form of two of the others. -/
def loudVolumes : List Choice := [⟨.int 2, none⟩, ⟨.int 1, none⟩]

/-- The selection has the second choice and stands at the first one, which has the same string form. It
takes the other volume with this string form, which is another value. -/
theorem placed_run_volumes :
    ∃ e s' next, e = (run volumesOps (ofKind (.selection (.ofChoices volumes none)))).result ∧
      e.kind = .selection s' ∧ s'.value = .text "1" ∧ s'.index = 0 ∧
      (∃ i c, Selection.StandsFirst volumes i c ∧ c.value = s'.default) ∧
      (e.perform (.edit (.setChoices loudVolumes none))).1.result.kind = .selection next ∧
      next.value = .int 1 ∧ (e.perform (.edit (.setChoices loudVolumes none))).2 = .flag true := by
  obtain ⟨e, arrived⟩ : ∃ e, e = (run volumesOps (ofKind (.selection (.ofChoices volumes none)))).result :=
    ⟨_, rfl⟩
  obtain ⟨s', reached, placed, replaced⟩ := placed_run (.ofChoices volumes none) volumesOps arrived
  have there : s' = { Selection.ofChoices volumes (some (.text "0.0")) with value := .text "1" } := by
    rw [arrived] at reached
    refine Kind.selection.inj (reached.symm.trans ?_)
    decide +kernel
  subst there
  obtain ⟨next, changed, taken, answer, rechosen, _⟩ := replaced loudVolumes none
  have sameForm : (Choice.mk (.int 1) none).key = (Value.text "1").stringForm := by decide
  obtain ⟨form, i, c, first, value⟩ := rechosen.kept ⟨_, by simp [loudVolumes], sameForm⟩
  have one : next.value = .int 1 := by
    have member := first.mem
    simp only [loudVolumes, List.mem_cons, List.not_mem_nil, or_false] at member
    rcases member with rfl | rfl
    · rw [← value] at form
      exact absurd form (by decide)
    · exact value.symm
  have another : changed = true := by
    rw [rechosen.changed trivial, one]
    simp [Value.unsigned]
  subst another
  refine ⟨e, _, next, arrived, reached, rfl, by decide +kernel, ?_, taken, one, answer⟩
  exact placed.default (by decide)

end Element

end Settings
