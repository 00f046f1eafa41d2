import Mathlib.Data.List.Permutation
import Settings.Proofs.Editor.Toggling
import Settings.Proofs.Element.Closed
import Settings.Proofs.Element.Kind

/-!
# Sets, after every run

Whatever is done to a set of texts, it stays in order and without repetition, and its cursor at a choice.
Toggles then take exactly those texts in or out that are toggled an odd number of times.

* `Kind.Edited.multiChoice`: what becomes of a set while the focus does not change.
* `Kind.closed_multiChoice`: what edits of sets keep.
* `run_toggles`: a run of toggles.
* `toggled_run`: the set, its cursor and its toggles after any run.
-/
namespace Settings

namespace Kind

variable {m : MultiChoice} {k : Kind}

/-- Whatever becomes of a set while the focus does not change is a turn of it. -/
theorem Edited.multiChoice {edits : ValueEdit → Prop} {values : Value → Prop}
    (edited : (Kind.multiChoice m).Edited edits values k) :
    ∃ m', k = .multiChoice m' ∧ m.Turns m' := by
  cases edited with
  | handle mode a => exact ⟨_, rfl, m.turns_handle a⟩
  | edit _ done =>
    cases applied_of_apply done with
    | aside => exact ⟨m, rfl, .refl m⟩
    | toggle item => exact ⟨_, rfl, m.turns_toggle item⟩
  | decode read =>
    obtain ⟨m', inner, rfl⟩ := eq_ok_of_map_eq_ok read
    exact ⟨m', rfl, MultiChoice.turns_decode inner⟩
  | assign _ taken =>
    obtain ⟨m', inner, rfl⟩ := eq_ok_of_map_eq_ok taken
    exact ⟨m', rfl, MultiChoice.turns_assign inner⟩
  | reset => exact ⟨_, rfl, m.turns_reset⟩
  | _ => exact ⟨m, rfl, .refl m⟩

/-- What every turn of sets keeps cannot be left. -/
theorem closed_multiChoice {P : MultiChoice → Prop}
    (kept : ∀ {m m' : MultiChoice}, m.Turns m' → P m → P m') :
    Closed (fun _ => True) (fun _ => True) fun k => ∃ m, k = .multiChoice m ∧ P m := by
  apply Closed.of_unfocused fun _ => ⟨rfl, rfl⟩
  intro m k holds edited
  obtain ⟨m', same, turns⟩ := edited.multiChoice
  exact ⟨m', same, kept turns holds⟩

end Kind

namespace Element

variable {m : MultiChoice} {e : Element} {choices default : List String}

/-- Toggles of texts, one after the other. -/
def toggles (items : List String) : List Operation :=
  items.map fun item => .edit (.toggle item)

theorem perform_toggle (shown : e.kind = .multiChoice m) (item : String) :
    (e.perform (.edit (.toggle item))).1.result = { e with kind := .multiChoice (m.toggle item) } := by
  have done : e.kind.apply (.toggle item) = .ok (.multiChoice (m.toggle item), none) := by
    rw [shown, Kind.apply]
  rw [perform_edit done]
  rfl

/-- Toggles change nothing but the set. -/
theorem run_toggles (shown : e.kind = .multiChoice m) (items : List String) :
    (run (toggles items) e).result = { e with kind := .multiChoice (m.toggleAll items) } := by
  induction items generalizing e m with
  | nil =>
    rw [MultiChoice.toggleAll, List.foldl_nil, ← shown]
    rfl
  | cons item rest ih =>
    have first := perform_toggle shown item
    have others := ih (e := (e.perform (.edit (.toggle item))).1.result) (by rw [first])
    have whole : (run (toggles (item :: rest)) e).result =
        (run (toggles rest) (e.perform (.edit (.toggle item))).1.result).result := rfl
    rw [whole, others, first]
    rfl

/-- Whatever is done to a set that a host made, it stays in order and its cursor at a choice. -/
theorem ascending_run (choices default : List String) (ops : List Operation) :
    ∃ m, (run ops (ofKind (.multiChoice (.make choices default)))).result.kind = .multiChoice m ∧
      m.choices = sortTexts choices ∧ m.Sound ∧ m.CursorFits := by
  have closed := Kind.closed_multiChoice
    (P := fun m => m.choices = sortTexts choices ∧ m.Sound ∧ m.CursorFits) fun turns held =>
      ⟨turns.choices.trans held.1, held.2.1.turns turns, turns.cursor held.2.2⟩
  apply closed.run fun op _ => op.within_true
  refine ⟨_, rfl, rfl, MultiChoice.sound_make choices default, fun some => ?_⟩
  exact List.length_pos_iff.mpr some

/-- Whatever was done to a set that a host made, its texts ascend and its cursor is at one of the choices,
if there are any. Behind any toggles a text is a member if it was one and is toggled an even number of
times, or if it was none and is toggled an odd number of times; so only the parities count, and neither
the order nor the repetitions. Any other set has the same string form exactly if it has the same members,
whatever it was made with and whatever was done to it. -/
theorem toggled_run (ops : List Operation)
    (arrived : e = (run ops (ofKind (.multiChoice (.make choices default)))).result) :
    ∃ m, e.kind = .multiChoice m ∧ Ascending m.value ∧ m.choices = sortTexts choices ∧
      (choices ≠ [] → m.cursor < m.choices.length) ∧
      (∀ items, ∃ m', (run (toggles items) e).result = { e with kind := .multiChoice m' } ∧
        Ascending m'.value ∧
        ∀ item, m'.contains item = (m.contains item ^^ decide (Odd (items.count item)))) ∧
      (∀ items others : List String, (∀ item, Odd (items.count item) ↔ Odd (others.count item)) →
        (run (toggles items) e).result = (run (toggles others) e).result) ∧
      ∀ (choices' default' : List String) (ops' : List Operation) (m' : MultiChoice),
        (run ops' (ofKind (.multiChoice (.make choices' default')))).result.kind = .multiChoice m' →
        (m.encode = m'.encode ↔ ∀ item, m.contains item = m'.contains item) := by
  subst arrived
  obtain ⟨m, reached, kept, sound, cursor⟩ := ascending_run choices default ops
  refine ⟨m, reached, sound.value, kept, ?_, ?_, ?_, ?_⟩
  · intro some
    apply cursor
    rw [kept, sortTexts, ← List.length_pos_iff, List.length_mergeSort]
    exact List.length_pos_iff.mpr some
  · intro items
    refine ⟨m.toggleAll items, run_toggles reached items, ?_, ?_⟩
    · exact (MultiChoice.sound_toggleAll sound items).value
    · exact MultiChoice.contains_toggleAll sound items
  · intro items others same
    rw [run_toggles reached, run_toggles reached, MultiChoice.toggleAll_congr sound same]
  · intro choices' default' ops' m' reached'
    obtain ⟨other, shown, _, sound', _⟩ := ascending_run choices' default' ops'
    cases Kind.multiChoice.inj (reached'.symm.trans shown)
    exact MultiChoice.encode_eq_iff sound sound'

/-- Toggles the first channel, goes round to the last one, takes a set with a repetition and a strange text
from the host, and moves on. -/
def channelOps : List Operation :=
  [.act .twelve .toggle, .act .twelve .left, .assignValue (.ofStrings ["tv", "fax", "tv"]),
    .act .twelve .left]

/-- The set is in order and its cursor at the second channel. Behind four toggles the text that was toggled
once is out and the one that was toggled three times is in, in any order. The set has the string form of a
set that was made with its members. -/
theorem toggled_run_channels :
    ∃ e m m', e = (run channelOps (ofKind (.multiChoice (.make ["tv", "data", "tv"] ["tv", "tv"])))).result ∧
      e.kind = .multiChoice m ∧ m.value = ["fax", "tv"] ∧ m.cursor = 1 ∧ m.cursor < m.choices.length ∧
      (run (toggles ["data", "tv", "data", "data"]) e).result = { e with kind := .multiChoice m' } ∧
      m'.contains "tv" = false ∧ m'.contains "data" = true ∧ Ascending m'.value ∧
      (run (toggles ["data", "data", "tv", "data"]) e).result = { e with kind := .multiChoice m' } ∧
      m.encode = (MultiChoice.make [] ["fax", "tv"]).encode := by
  obtain ⟨e, arrived⟩ : ∃ e, e = (run channelOps (ofKind (.multiChoice
      (.make ["tv", "data", "tv"] ["tv", "tv"])))).result := ⟨_, rfl⟩
  obtain ⟨m, reached, _, _, cursor, toggled, parity, others⟩ := toggled_run channelOps arrived
  have there : m = ⟨["data", "tv", "tv"], ["fax", "tv"], ["tv"], 1⟩ := by
    rw [arrived] at reached
    refine Kind.multiChoice.inj (reached.symm.trans ?_)
    cbv
  subst there
  obtain ⟨m', led, ascending, members⟩ := toggled ["data", "tv", "data", "data"]
  have order : ["data", "data", "tv", "data"].Perm ["data", "tv", "data", "data"] := by decide
  have members' : (MultiChoice.make [] ["fax", "tv"]).value = ["fax", "tv"] :=
    distinctTexts_of_ascending (by decide)
  refine ⟨e, _, m', arrived, reached, rfl, rfl, cursor (by simp), led, ?_, ?_, ascending, ?_, ?_⟩
  · rw [members]
    decide
  · rw [members]
    decide
  · exact (parity _ _ fun item => by rw [order.count_eq]).trans led
  · refine (others [] ["fax", "tv"] [] _ rfl).mpr fun item => ?_
    rw [MultiChoice.contains, MultiChoice.contains, members']

end Element

end Settings
