import Mathlib.Data.List.Nodup
import Settings.Editor.Selection

/-!
# Selections

A selection stands on a choice or on its default, and edits change neither the choices nor the
default. So the string form finds the choice again.

* `follows_handle`: edit actions keep selections on their choices.
* `decode_encode`: the string form is read back.
* `setValue_value`: the value is taken back.
-/
namespace Settings.Selection

/-- The value is a choice, as far as string forms tell, or the default. -/
def Sound (s : Selection) : Prop :=
  (findChoice? s.choices s.encode).isSome ∨ s.encode = s.encodeDefault

/-- An edit that changes neither the choices nor the default and leads to one of these. -/
structure Follows (s s' : Selection) : Prop where
  choices : s'.choices = s.choices
  default : s'.default = s.default
  sound : s.Sound → s'.Sound

variable {s s' : Selection}

theorem Follows.refl (s : Selection) : Follows s s := ⟨rfl, rfl, id⟩

theorem key_of_findChoice? {choices : List Choice} {key : String} {c : Choice}
    (found : findChoice? choices key = some c) : c.key = key :=
  eq_of_beq (List.find?_some (p := fun c : Choice => c.key == key) found)

/-- Whatever the value was, a choice or the default takes its place. -/
theorem sound_setByKey (key : String) (s : Selection) : (s.setByKey key).Sound := by
  unfold Sound encode encodeDefault setByKey
  dsimp only
  cases found : findChoice? s.choices key with
  | none => exact .inr rfl
  | some c =>
    have same : c.value.stringForm = key := key_of_findChoice? found
    refine .inl ?_
    rw [Option.map_some, Option.getD_some, same, found]
    rfl

theorem follows_setByKey (key : String) (s : Selection) : Follows s (s.setByKey key) :=
  ⟨rfl, rfl, fun _ => sound_setByKey key s⟩

theorem sound_setChoices (choices : List Choice) (default : Option Value) (s : Selection) :
    (s.setChoices choices default).1.Sound :=
  sound_setByKey _ _

theorem follows_setValue (v : Value) (s : Selection) : Follows s (s.setValue v) :=
  follows_setByKey _ s

theorem follows_decode (text : String) (s : Selection) : Follows s (s.decode text) :=
  follows_setByKey _ s

theorem follows_reset (s : Selection) : Follows s s.reset := ⟨rfl, rfl, fun _ => .inr rfl⟩

theorem follows_moveTo (i : Nat) (s : Selection) : Follows s (s.moveTo i) := by
  unfold moveTo
  split
  · next c found =>
    refine ⟨rfl, rfl, fun _ => .inl ?_⟩
    refine List.find?_isSome.mpr ⟨c, List.mem_of_getElem? found, ?_⟩
    exact beq_self_eq_true _
  · exact .refl s

theorem follows_selectNext (s : Selection) : Follows s s.selectNext := follows_moveTo _ s

theorem follows_handle (a : Action) (s : Selection) : Follows s (s.handle a).state := by
  unfold handle
  split
  · exact .refl s
  · split
    · exact follows_moveTo _ s
    · exact .refl s

/-- Selections with the same choices and the same default take the same value from a text. -/
theorem value_decode {fresh : Selection} (choices : fresh.choices = s.choices)
    (default : fresh.default = s.default) (text : String) :
    (fresh.decode text).value = (s.decode text).value := by
  rw [decode, decode, setByKey, setByKey, choices, default]

/-- The string form is read back by every selection with the same choices and default. -/
theorem decode_encode {fresh : Selection} (sound : s.Sound) (choices : fresh.choices = s.choices)
    (default : fresh.default = s.default) : (fresh.decode s.encode).encode = s.encode := by
  unfold decode setByKey
  rw [encode, choices, default]
  dsimp only
  cases found : findChoice? s.choices s.encode with
  | none =>
    rcases sound with isChoice | isDefault
    · rw [found] at isChoice
      cases isChoice
    · exact isDefault.symm
  | some c => exact key_of_findChoice? found

theorem encode_reset {fresh : Selection} (default : fresh.default = s.default)
    (isDefault : s.isDefault = true) : fresh.reset.encode = s.encode := by
  have same : s.encode = s.encodeDefault := eq_of_beq isDefault
  rw [same, encodeDefault, ← default]
  rfl

/-- The selections that hosts make. -/
inductive Made : Selection → Prop where
  | ofChoices (choices : List Choice) (default : Option Value) : Made (.ofChoices choices default)
  | ofMap (choices : List (String × String)) (default : Option String) : Made (.ofMap choices default)
  | ofRange (low high step : Int) (default : Option Int) (wraparound : Bool) (s : Selection)
      (made : Selection.ofRange low high step default wraparound = .ok s) : Made s
  | nothing : Made .nothing
  | withWraparound (wraparound : Bool) (s : Selection) (made : Made s) :
    Made (s.withWraparound wraparound)

/-- What hosts make stands on its default. -/
theorem Made.sound (made : s.Made) : s.Sound := by
  induction made with
  | ofChoices choices default => exact .inr rfl
  | ofMap choices default => exact .inr rfl
  | ofRange low high step default wraparound s made =>
    unfold Selection.ofRange at made
    split at made
    · cases made
    · cases made
      exact .inr rfl
  | nothing => exact .inr rfl
  | withWraparound wraparound s made sound => exact sound

theorem Made.isDefault (made : s.Made) : s.isDefault = true := by
  induction made with
  | ofRange low high step default wraparound s made =>
    unfold Selection.ofRange at made
    split at made
    · cases made
    · cases made
      exact beq_self_eq_true _
  | withWraparound wraparound s made same => exact same
  | _ => exact beq_self_eq_true _

section Offers

variable {choices : List Choice} {v : Value}

/-- A value that choices can put a selection on: that of a choice, or the empty text if there is no
choice. -/
def Offers (choices : List Choice) (v : Value) : Prop :=
  (∃ c ∈ choices, c.value = v) ∨ choices = [] ∧ v = .text ""

/-- The value and the default are on offer. -/
structure Offered (s : Selection) : Prop where
  value : Offers s.choices s.value
  default : Offers s.choices s.default

theorem offers_firstValue (choices : List Choice) : Offers choices (firstValue choices) := by
  cases choices with
  | nil => exact .inr ⟨rfl, rfl⟩
  | cons c rest => exact .inl ⟨c, List.mem_cons_self, rfl⟩

theorem offers_of_findChoice? {key : String} {c : Choice} (found : findChoice? choices key = some c) :
    Offers choices c.value :=
  .inl ⟨c, List.mem_of_find?_eq_some found, rfl⟩

theorem offers_resolveDefault (choices : List Choice) (default : Option Value) :
    Offers choices (resolveDefault choices default) := by
  unfold resolveDefault
  split
  · exact offers_firstValue choices
  · split
    · next found => exact offers_of_findChoice? found
    · exact offers_firstValue choices

theorem offers_setByKey (default : Offers s.choices s.default) (key : String) :
    (s.setByKey key).Offered := by
  refine ⟨?_, default⟩
  rw [setByKey]
  dsimp only
  cases found : findChoice? s.choices key with
  | none => exact default
  | some c => exact offers_of_findChoice? found

/-- New choices bring their own default. -/
theorem offered_setChoices (choices : List Choice) (default : Option Value) (s : Selection) :
    (s.setChoices choices default).1.Offered :=
  offers_setByKey (offers_resolveDefault choices default) _

namespace Offered

theorem setByKey (offered : s.Offered) (key : String) : (s.setByKey key).Offered :=
  offers_setByKey offered.default key

theorem reset (offered : s.Offered) : s.reset.Offered := ⟨offered.default, offered.default⟩

theorem moveTo (offered : s.Offered) (i : Nat) : (s.moveTo i).Offered := by
  unfold Selection.moveTo
  split
  · next c found => exact ⟨.inl ⟨c, List.mem_of_getElem? found, rfl⟩, offered.default⟩
  · exact offered

end Offered

theorem offered_ofChoices (choices : List Choice) (default : Option Value) :
    (ofChoices choices default).Offered :=
  ⟨offers_resolveDefault choices default, offers_resolveDefault choices default⟩

/-- What hosts make stands on what it offers. -/
theorem Made.offered (made : s.Made) : s.Offered := by
  induction made with
  | ofChoices choices default => exact offered_ofChoices choices default
  | ofMap choices default => exact offered_ofChoices _ _
  | ofRange low high step default wraparound s made =>
    unfold Selection.ofRange at made
    split at made
    · cases made
    · cases made
      exact ⟨offers_resolveDefault _ _, offers_resolveDefault _ _⟩
  | nothing => exact offered_ofChoices _ _
  | withWraparound wraparound s made offered => exact ⟨offered.value, offered.default⟩

theorem findChoice?_key (distinct : (choices.map Choice.key).Nodup) {c : Choice} (member : c ∈ choices) :
    findChoice? choices c.key = some c := by
  cases found : findChoice? choices c.key with
  | none => exact absurd (beq_self_eq_true c.key) (List.find?_eq_none.mp found c member)
  | some other =>
    have inside : other ∈ choices := List.mem_of_find?_eq_some found
    exact congrArg some (List.inj_on_of_nodup_map distinct inside member (key_of_findChoice? found))

/-- The value is taken by every selection with the same choices and default, if the choices differ in
their string forms. -/
theorem setValue_value {fresh : Selection} (offered : s.Offered)
    (distinct : (s.choices.map Choice.key).Nodup) (choices : fresh.choices = s.choices)
    (default : fresh.default = s.default) : (fresh.setValue s.value).value = s.value := by
  rw [setValue, setByKey, choices, default]
  dsimp only
  rcases offered.value with ⟨c, member, same⟩ | ⟨empty, none⟩
  · have found : findChoice? s.choices s.value.stringForm = some c := by
      rw [← same]
      exact findChoice?_key distinct member
    rw [found, Option.map_some, Option.getD_some, same]
  · -- Without choices nothing is found, and the default is the empty text as well.
    rcases offered.default with ⟨c, member, _⟩ | ⟨_, default⟩
    · rw [empty] at member
      cases member
    · rw [empty, none, default]
      rfl

end Offers

end Settings.Selection
