import Settings.Proofs.Editor.Selection
import Settings.Proofs.Value

/-!
# Positions among choices

A selection stands where the first choice with its string form stands. Its default is the first choice
with some string form; so is its value after every edit that goes by string forms, while a move takes the
choice that stands at a position, even if an earlier one has the same string form. New choices keep the
string form if they can, and bring a default of their own.

* `standsFirst_index`: where a selection stands.
* `Settled.turns`: edits keep selections on their choices.
* `rechosen_setChoices`: what new choices make of a selection.
-/
namespace Settings.Selection

variable {choices : List Choice} {key : String} {i : Nat} {c : Choice} {s s' : Selection}

section Positions

/-- A choice stands at a position, and none before it has its string form. -/
def StandsFirst (choices : List Choice) (i : Nat) (c : Choice) : Prop :=
  choices[i]? = some c ∧ ∀ j < i, ∀ d, choices[j]? = some d → d.key ≠ c.key

theorem StandsFirst.mem (first : StandsFirst choices i c) : c ∈ choices :=
  List.mem_of_getElem? first.1

/-- Of choices with distinct string forms each stands first. -/
theorem standsFirst_of_distinct (distinct : (choices.map Choice.key).Nodup)
    (there : choices[i]? = some c) : StandsFirst choices i c := by
  refine ⟨there, fun j before d earlier same => ?_⟩
  have inside : i < (choices.map Choice.key).length := by
    simpa using (List.getElem?_eq_some_iff.mp there).1
  have forms : (choices.map Choice.key)[i]? = (choices.map Choice.key)[j]? := by
    rw [List.getElem?_map, List.getElem?_map, there, earlier, Option.map_some, Option.map_some, same]
  have equal : i = j := (List.getElem?_inj inside distinct).mp forms
  omega

theorem findChoice?_eq_some_iff :
    findChoice? choices key = some c ↔ ∃ i, StandsFirst choices i c ∧ c.key = key := by
  rw [findChoice?, List.find?_eq_some_iff_getElem]
  constructor
  · rintro ⟨same, i, inside, rfl, before⟩
    have form : choices[i].key = key := by simpa using same
    refine ⟨i, ⟨List.getElem?_eq_getElem inside, fun j earlier d there => ?_⟩, form⟩
    obtain ⟨_, rfl⟩ := List.getElem?_eq_some_iff.mp there
    rw [form]
    simpa using before j earlier
  · rintro ⟨i, ⟨there, before⟩, rfl⟩
    obtain ⟨inside, rfl⟩ := List.getElem?_eq_some_iff.mp there
    refine ⟨beq_self_eq_true _, i, inside, rfl, fun j earlier => ?_⟩
    simpa using before j earlier _ (List.getElem?_eq_getElem (by omega))

theorem findChoice?_eq_none_iff :
    findChoice? choices key = none ↔ ∀ c ∈ choices, c.key ≠ key := by
  simp [findChoice?]

/-- A selection is at the first choice with its string form. -/
theorem index_eq (first : StandsFirst s.choices i c) (same : c.key = s.value.stringForm) :
    s.index = i := by
  obtain ⟨there, before⟩ := first
  obtain ⟨inside, rfl⟩ := List.getElem?_eq_some_iff.mp there
  have found : s.choices.findIdx? (fun c => c.key == s.value.stringForm) = some i := by
    rw [List.findIdx?_eq_some_iff_getElem]
    refine ⟨inside, by simpa using same, fun j earlier => ?_⟩
    simpa [← same] using before j earlier _ (List.getElem?_eq_getElem (by omega))
  rw [index, found, Option.getD_some]

/-- If there is one. -/
theorem standsFirst_index (member : c ∈ s.choices) (same : c.key = s.value.stringForm) :
    ∃ d, StandsFirst s.choices s.index d ∧ d.key = s.value.stringForm := by
  cases found : findChoice? s.choices s.value.stringForm with
  | none => exact absurd same (findChoice?_eq_none_iff.mp found c member)
  | some d =>
    obtain ⟨i, first, form⟩ := findChoice?_eq_some_iff.mp found
    rw [← index_eq first form] at first
    exact ⟨d, first, form⟩

theorem standsFirst_zero {rest : List Choice} : StandsFirst (c :: rest) 0 c :=
  ⟨rfl, fun j before => absurd before (Nat.not_lt_zero j)⟩

end Positions

section Defaults

/-- The default that choices make of a wanted one: the first choice with its string form, and the first
choice of all if there is none or nothing is wanted. -/
inductive Resolves (choices : List Choice) : Option Value → Value → Prop where
  | matched {wanted : Value} {i : Nat} {c : Choice} (first : StandsFirst choices i c)
    (same : c.key = wanted.stringForm) : Resolves choices (some wanted) c.value
  | unmatched {wanted : Value} (strange : ∀ c ∈ choices, c.key ≠ wanted.stringForm) :
    Resolves choices (some wanted) (firstValue choices)
  | absent : Resolves choices none (firstValue choices)

theorem resolves_resolveDefault (choices : List Choice) (default : Option Value) :
    Resolves choices default (resolveDefault choices default) := by
  cases default with
  | none => exact .absent
  | some wanted =>
    cases found : findChoice? choices wanted.stringForm with
    | none =>
      simp only [resolveDefault, found]
      exact .unmatched (findChoice?_eq_none_iff.mp found)
    | some c =>
      obtain ⟨i, first, same⟩ := findChoice?_eq_some_iff.mp found
      simp only [resolveDefault, found]
      exact .matched first same

theorem exists_firstValue (any : choices ≠ []) :
    ∃ i c, StandsFirst choices i c ∧ c.value = firstValue choices := by
  cases choices with
  | nil => exact absurd rfl any
  | cons c rest => exact ⟨0, c, standsFirst_zero, rfl⟩

/-- Every default is the first choice with its string form. -/
theorem Resolves.exists_standsFirst {wanted : Option Value} {v : Value}
    (resolves : Resolves choices wanted v) (any : choices ≠ []) :
    ∃ i c, StandsFirst choices i c ∧ c.value = v := by
  cases resolves with
  | matched first same => exact ⟨_, _, first, rfl⟩
  | unmatched strange => exact exists_firstValue any
  | absent => exact exists_firstValue any

end Defaults

section Turns

/-- All that may become of a selection. -/
inductive Turns (s : Selection) : Selection → Prop where
  | same : Turns s s
  | moveTo (i : Nat) : Turns s (s.moveTo i)
  | setByKey (key : String) : Turns s (s.setByKey key)
  | setChoices (choices : List Choice) (default : Option Value) :
    Turns s (s.setChoices choices default).1
  | reset : Turns s s.reset

theorem turns_handle (a : Action) (s : Selection) : s.Turns (s.handle a).state := by
  unfold handle
  split
  · exact .same
  · split
    · exact .moveTo _
    · exact .same

/-- Edits keep a selection on what it offers. -/
theorem Offered.turns (offered : s.Offered) (turns : s.Turns s') : s'.Offered := by
  cases turns with
  | same => exact offered
  | moveTo i => exact offered.moveTo i
  | setByKey key => exact offered.setByKey key
  | setChoices choices default => exact offered_setChoices choices default s
  | reset => exact offered.reset

/-- The value is on offer, and the default is what the choices make of some wanted one. -/
structure Settled (s : Selection) : Prop where
  offered : s.Offered
  default : ∃ wanted, Resolves s.choices wanted s.default

theorem Resolves.follows {wanted : Option Value} (resolves : Resolves s.choices wanted s.default)
    (follows : s.Follows s') : Resolves s'.choices wanted s'.default := by
  rw [follows.choices, follows.default]
  exact resolves

/-- Edits keep a selection on its choices, and its default, too. -/
theorem Settled.turns (settled : s.Settled) (turns : s.Turns s') : s'.Settled := by
  obtain ⟨offered, wanted, resolves⟩ := settled
  refine ⟨offered.turns turns, ?_⟩
  cases turns with
  | same => exact ⟨wanted, resolves⟩
  | moveTo i => exact ⟨wanted, resolves.follows (follows_moveTo i s)⟩
  | setByKey key => exact ⟨wanted, resolves.follows (follows_setByKey key s)⟩
  | setChoices choices default => exact ⟨default, resolves_resolveDefault choices default⟩
  | reset => exact ⟨wanted, resolves.follows (follows_reset s)⟩

theorem settled_ofChoices (choices : List Choice) (default : Option Value) :
    (ofChoices choices default).Settled :=
  ⟨offered_ofChoices choices default, default, resolves_resolveDefault choices default⟩

/-- What hosts make is settled. -/
theorem Made.settled (made : s.Made) : s.Settled := by
  induction made with
  | ofChoices choices default => exact settled_ofChoices choices default
  | ofMap choices default => exact settled_ofChoices _ _
  | ofRange low high step default wraparound s made =>
    have offered : s.Offered := (Made.ofRange low high step default wraparound s made).offered
    unfold Selection.ofRange at made
    split at made
    · cases made
    · cases made
      exact ⟨offered, _, resolves_resolveDefault _ _⟩
  | nothing => exact settled_ofChoices _ _
  | withWraparound wraparound s made settled =>
    exact ⟨(Made.withWraparound wraparound s made).offered, settled.default⟩

end Turns

/-- The value is that of a choice, the default that of the first choice with its string form, and the
selection stands at the first choice with the string form of the value; this choice has the value itself
if the string forms are distinct. Without choices the value and the default are the empty text. -/
structure Placed (s : Selection) : Prop where
  value : s.choices ≠ [] → ∃ c ∈ s.choices, c.value = s.value
  default : s.choices ≠ [] → ∃ i c, StandsFirst s.choices i c ∧ c.value = s.default
  index : s.choices ≠ [] → ∃ c, StandsFirst s.choices s.index c ∧ c.key = s.value.stringForm
  distinct : (s.choices.map Choice.key).Nodup → ∀ c, s.choices[s.index]? = some c → c.value = s.value
  empty : s.choices = [] → s.value = .text "" ∧ s.default = .text "" ∧ s.index = 0

theorem Offers.exists_mem {v : Value} (offers : Offers choices v) (any : choices ≠ []) :
    ∃ c ∈ choices, c.value = v :=
  offers.resolve_right fun empty => any empty.1

theorem Offers.eq_empty {v : Value} (offers : Offers choices v) (empty : choices = []) :
    v = .text "" := by
  rcases offers with ⟨c, member, _⟩ | ⟨_, same⟩
  · simp [empty] at member
  · exact same

theorem Settled.placed (settled : s.Settled) : s.Placed := by
  obtain ⟨offered, wanted, resolves⟩ := settled
  have standing (any : s.choices ≠ []) :
      ∃ c, StandsFirst s.choices s.index c ∧ c.key = s.value.stringForm := by
    obtain ⟨c, member, same⟩ := offered.value.exists_mem any
    exact standsFirst_index member (congrArg Value.stringForm same)
  constructor
  case value => exact offered.value.exists_mem
  case default => exact resolves.exists_standsFirst
  case index => exact standing
  case distinct =>
    intro distinct c there
    have any : s.choices ≠ [] := List.ne_nil_of_mem (List.mem_of_getElem? there)
    obtain ⟨d, member, same⟩ := offered.value.exists_mem any
    obtain ⟨first, ⟨found, _⟩, form⟩ := standing any
    rw [found, Option.some.injEq] at there
    have forms : d.key = c.key := by
      rw [← there, form, ← same]
      rfl
    rw [← same, ← List.inj_on_of_nodup_map distinct member (there ▸ List.mem_of_getElem? found) forms]
  case empty =>
    intro empty
    refine ⟨offered.value.eq_empty empty, offered.default.eq_empty empty, ?_⟩
    simp [index, empty]

/-- What new choices make of a selection, and the answer whether it changed. -/
structure Rechosen (others : List Choice) (wanted : Option Value) (s next : Selection)
    (changed : Bool) : Prop where
  choices : next.choices = others
  default : Resolves others wanted next.default
  /-- The string form is kept if some new choice has it; the first of these is taken. -/
  kept : (∃ c ∈ others, c.key = s.value.stringForm) →
    next.value.stringForm = s.value.stringForm ∧ ∃ i c, StandsFirst others i c ∧ c.value = next.value
  lost : (∀ c ∈ others, c.key ≠ s.value.stringForm) → next.value = next.default
  /-- Zeros are the same number, whatever their signs. -/
  changed : s.value.IsJson → (changed = true ↔ next.value.unsigned ≠ s.value.unsigned)

theorem rechosen_setChoices (choices : List Choice) (default : Option Value) (s : Selection) :
    Rechosen choices default s (s.setChoices choices default).1 (s.setChoices choices default).2 := by
  have value : (s.setChoices choices default).1.value =
      ((findChoice? choices s.value.stringForm).map Choice.value).getD (resolveDefault choices default) :=
    rfl
  constructor
  case choices => rfl
  case default => exact resolves_resolveDefault choices default
  case kept =>
    rintro ⟨c, member, same⟩
    cases found : findChoice? choices s.value.stringForm with
    | none => exact absurd same (findChoice?_eq_none_iff.mp found c member)
    | some d =>
      obtain ⟨i, first, form⟩ := findChoice?_eq_some_iff.mp found
      rw [value, found]
      exact ⟨form, i, d, first, rfl⟩
  case lost =>
    intro strange
    rw [value, findChoice?_eq_none_iff.mpr strange]
    rfl
  case changed =>
    intro json
    rw [ne_eq, ← Value.same_iff json]
    simp [setChoices]

end Settings.Selection
