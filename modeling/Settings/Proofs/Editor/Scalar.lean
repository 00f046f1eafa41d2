import Settings.Editor.Slider
import Settings.Editor.Switch
import Settings.Editor.Timestamp
import Settings.Proofs.Numeral

/-!
# Switches, sliders and timestamps

Values that are written as a word or as one numeral.
-/
namespace Settings

namespace Switch

variable {s s' : Switch}

theorem default_handle (a : Action) (s : Switch) : (s.handle a).state.default = s.default := by
  unfold handle
  split <;> rfl

theorem default_assign {v : Value} (taken : s.assign v = .ok s') : s'.default = s.default := by
  cases v with
  | bool | int | real => rw [← Except.ok.inj taken]
  | text t => rw [← Except.ok.inj taken, decode]
  | _ => cases taken

theorem readState_stateName (b : Bool) : readState (stateName b) = b := by
  cases b <;> decide +kernel

/-- The string form is read back by every switch. -/
theorem decode_encode (fresh s : Switch) : (fresh.decode s.encode).value = s.value := by
  rw [encode, decode, readState_stateName]

theorem encode_reset {fresh : Switch} (default : fresh.default = s.default)
    (isDefault : s.isDefault = true) : fresh.reset.encode = s.encode := by
  have same : s.value = s.default := eq_of_beq isDefault
  rw [encode, encode, same, ← default]
  rfl

/-- The switches that hosts make. -/
inductive Made : Switch → Prop where
  | labelled (default : Bool) (off on : String) : Made (.labelled default off on)
  | plain (default : Bool) : Made (.plain default)
  | enableDisable (default : Bool) : Made (.enableDisable default)
  | onOff (default : Bool) : Made (.onOff default)
  | yesNo (default : Bool) : Made (.yesNo default)
  | textOnly (s : Switch) (made : Made s) : Made s.textOnly

/-- What hosts make is on its default. -/
theorem Made.isDefault (made : s.Made) : s.isDefault = true := by
  induction made with
  | textOnly s made same => exact same
  | _ => exact beq_self_eq_true _

end Switch

namespace Slider

/-- The value and the default are within bounds that are numbers of 64 bits. -/
structure Sound (s : Slider) : Prop where
  ordered : s.bounds.Ordered
  inRange : Numeral.InRange s.bounds.low ∧ Numeral.InRange s.bounds.high
  value : s.bounds.Contains s.value
  default : s.bounds.Contains s.default

/-- An edit that changes neither the bounds nor the default and stays within the bounds. -/
structure Follows (s s' : Slider) : Prop where
  bounds : s'.bounds = s.bounds
  default : s'.default = s.default
  value : s.Sound → s.bounds.Contains s'.value

variable {s s' : Slider}

theorem Sound.follows (sound : s.Sound) (follows : Follows s s') : s'.Sound := by
  refine ⟨follows.bounds ▸ sound.ordered, follows.bounds ▸ sound.inRange, ?_, ?_⟩
  · rw [follows.bounds]
    exact follows.value sound
  · rw [follows.bounds, follows.default]
    exact sound.default

theorem Follows.refl (s : Slider) : Follows s s := ⟨rfl, rfl, Sound.value⟩

theorem follows_reset (s : Slider) : Follows s s.reset := ⟨rfl, rfl, Sound.default⟩

theorem follows_setValue (n : Int) (s : Slider) : Follows s (s.setValue n) :=
  ⟨rfl, rfl, fun sound => Bounds.contains_clamp sound.ordered n⟩

theorem follows_handle (a : Action) (s : Slider) : Follows s (s.handle a).state := by
  unfold handle
  split
  · exact follows_setValue _ s
  · exact .refl s

/-- A text is read if it is a numeral, which is then set within the bounds. -/
theorem decode_eq_ok_iff {text : String} : s.decode text = .ok s' ↔
    ∃ n, Numeral.read? (Text.trimChars text.toList) = some n ∧ s' = s.setValue n := by
  unfold decode
  cases Numeral.read? (Text.trimChars text.toList) with
  | none => simp
  | some n => simp [eq_comm]

theorem follows_decode {text : String} (read : s.decode text = .ok s') : Follows s s' := by
  obtain ⟨n, _, rfl⟩ := decode_eq_ok_iff.mp read
  exact follows_setValue n s

/-- Sliders with the same bounds take the same value from a text. -/
theorem exists_decode {fresh : Slider} (bounds : fresh.bounds = s.bounds) {text : String}
    (read : s.decode text = .ok s') : ∃ t, fresh.decode text = .ok t ∧ t.value = s'.value := by
  obtain ⟨n, numeral, rfl⟩ := decode_eq_ok_iff.mp read
  refine ⟨fresh.setValue n, decode_eq_ok_iff.mpr ⟨n, numeral, rfl⟩, ?_⟩
  rw [setValue, setValue, bounds]

theorem follows_assign {v : Value} (taken : s.assign v = .ok s') : Follows s s' := by
  unfold assign at taken
  split at taken
  · cases taken
    exact follows_setValue _ s
  · cases taken

theorem Sound.inRange_value (sound : s.Sound) : Numeral.InRange s.value := by
  obtain ⟨_, ⟨low, high⟩, inside, _⟩ := sound
  unfold Bounds.Contains at inside
  unfold Numeral.InRange at low high ⊢
  omega

/-- The string form is read back by every slider with the same bounds. -/
theorem decode_encode {fresh : Slider} (sound : s.Sound) (bounds : fresh.bounds = s.bounds) :
    ∃ s', fresh.decode s.encode = .ok s' ∧ s'.value = s.value := by
  refine ⟨fresh.setValue s.value, decode_eq_ok_iff.mpr ⟨s.value, ?_, rfl⟩, ?_⟩
  · rw [encode, Numeral.text, String.toList_ofList, Numeral.read?_trimChars_chars sound.inRange_value]
  · rw [setValue, bounds, Bounds.clamp_of_contains sound.value]

/-- The value is taken by every slider with the same bounds. -/
theorem assign_value {fresh : Slider} (sound : s.Sound) (bounds : fresh.bounds = s.bounds) :
    ∃ s', fresh.assign (.int s.value) = .ok s' ∧ s'.value = s.value := by
  refine ⟨fresh.setValue s.value, ?_, ?_⟩
  · rw [assign, Value.int64?_int sound.inRange_value]
  · rw [setValue, bounds, Bounds.clamp_of_contains sound.value]

theorem encode_reset {fresh : Slider} (default : fresh.default = s.default)
    (isDefault : s.isDefault = true) : fresh.reset.encode = s.encode := by
  have same : s.value = s.default := eq_of_beq isDefault
  rw [encode, encode, same, ← default]
  rfl

theorem sound_make {default increment : Int} {bounds : Bounds}
    (made : make default increment bounds = .ok s)
    (inRange : Numeral.InRange bounds.low ∧ Numeral.InRange bounds.high) : s.Sound := by
  unfold make at made
  split at made
  · next ordered =>
    cases made
    exact ⟨ordered, inRange, Bounds.contains_clamp ordered default, Bounds.contains_clamp ordered default⟩
  · cases made

end Slider

namespace Timestamp

/-- The value and the default are numbers of 64 bits. -/
structure Sound (t : Timestamp) : Prop where
  value : Numeral.InRange t.value
  default : Numeral.InRange t.default

/-- An edit that does not touch the default and stays within 64 bits. -/
structure Follows (t t' : Timestamp) : Prop where
  default : t'.default = t.default
  value : t.Sound → Numeral.InRange t'.value

variable {t t' : Timestamp}

theorem Sound.follows (sound : t.Sound) (follows : Follows t t') : t'.Sound :=
  ⟨follows.value sound, follows.default ▸ sound.default⟩

theorem Follows.refl (t : Timestamp) : Follows t t := ⟨rfl, Sound.value⟩

theorem follows_reset (t : Timestamp) : Follows t t.reset := ⟨rfl, Sound.default⟩

theorem follows_setValue {n : Int} (inRange : Numeral.InRange n) (t : Timestamp) :
    Follows t (t.setValue n) := ⟨rfl, fun _ => inRange⟩

theorem follows_handle (a : Action) (t : Timestamp) : Follows t (t.handle a).state := by
  unfold handle
  split
  · next n target =>
    refine ⟨rfl, fun sound => ?_⟩
    cases a with
    | left | right =>
      cases target
      exact Numeral.inRange_saturate _
    | first | last =>
      cases target
      exact sound.default
    | _ => cases target
  · exact .refl t

/-- A text is read if it is a numeral. -/
theorem decode_eq_ok_iff {text : String} : t.decode text = .ok t' ↔
    ∃ n, Numeral.read? (Text.trimChars text.toList) = some n ∧ t' = t.setValue n := by
  unfold decode
  cases Numeral.read? (Text.trimChars text.toList) with
  | none => simp
  | some n => simp [eq_comm]

theorem follows_decode {text : String} (read : t.decode text = .ok t') : Follows t t' := by
  obtain ⟨n, numeral, rfl⟩ := decode_eq_ok_iff.mp read
  exact follows_setValue (Numeral.inRange_of_read? numeral) t

/-- All timestamps take the same value from a text. -/
theorem exists_decode {text : String} (read : t.decode text = .ok t') (fresh : Timestamp) :
    ∃ u, fresh.decode text = .ok u ∧ u.value = t'.value := by
  obtain ⟨n, numeral, rfl⟩ := decode_eq_ok_iff.mp read
  exact ⟨fresh.setValue n, decode_eq_ok_iff.mpr ⟨n, numeral, rfl⟩, rfl⟩

theorem follows_assign {v : Value} (taken : t.assign v = .ok t') : Follows t t' := by
  unfold assign at taken
  split at taken
  · next n found =>
    cases taken
    refine follows_setValue ?_ t
    unfold Value.int64? at found
    split at found
    · split at found
      · next inRange =>
        cases found
        exact inRange
      · cases found
    · cases found
  · cases taken

/-- The string form is read back by every timestamp. -/
theorem decode_encode {fresh : Timestamp} (sound : t.Sound) :
    ∃ t', fresh.decode t.encode = .ok t' ∧ t'.value = t.value := by
  refine ⟨fresh.setValue t.value, decode_eq_ok_iff.mpr ⟨t.value, ?_, rfl⟩, rfl⟩
  rw [encode, Numeral.text, String.toList_ofList, Numeral.read?_trimChars_chars sound.value]

/-- The value is taken by every timestamp. -/
theorem assign_value {fresh : Timestamp} (sound : t.Sound) :
    ∃ t', fresh.assign (.int t.value) = .ok t' ∧ t'.value = t.value := by
  refine ⟨fresh.setValue t.value, ?_, rfl⟩
  rw [assign, Value.int64?_int sound.value]

theorem encode_reset {fresh : Timestamp} (default : fresh.default = t.default)
    (isDefault : t.isDefault = true) : fresh.reset.encode = t.encode := by
  have same : t.value = t.default := eq_of_beq isDefault
  rw [encode, encode, same, ← default]
  rfl

theorem sound_make {default : Int} (inRange : Numeral.InRange default) (pattern : String)
    (increment : Int) : (make default pattern increment).Sound := ⟨inRange, inRange⟩

end Timestamp

end Settings
