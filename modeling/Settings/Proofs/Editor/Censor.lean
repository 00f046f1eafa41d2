import Settings.Proofs.Editor.Clock

/-!
# What the censor covers

A hidden sequence that is edited digit by digit shows the censor for every digit, so sequences that are
alike but for their fields look the same. Sequences edited in blocks and clocks do not look at the
censor: what they show tells the fields.

* `Alike.view_positional`: what is shown of hidden positional sequences.
* `value_eq_of_encode`, `time_eq_of_clockView`: what the text of the others tells.
* `Alike.text_eq_iff`, `Alike.display_eq_iff`: when two hidden sequences look the same.
-/
namespace Settings.Sequence

variable {s a b : Sequence} {mode : HourMode}

/-- Alike but for the fields and the default, however the host is handed the fields. -/
structure Alike (a b : Sequence) : Prop where
  limits : a.limits = b.limits
  separator : a.separator = b.separator
  cursor : a.cursor = b.cursor
  censor : a.censor = b.censor
  style : a.style = b.style

/-- A sound sequence that is hidden behind a censor. -/
structure Veiled (s : Sequence) : Prop where
  sound : s.Sound
  censored : s.censor.isSome = true
  hidden : s.hidden = true
  /-- Fields that are shown without leading zeros can be told apart. -/
  separates : s.style ≠ .positional → Separates s.separator

/-- Hosts leave a sequence hidden if it has a censor, and choose the separator themselves only where the
fields have leading zeros. -/
theorem Formed.looks (formed : s.Formed) :
    s.hidden = s.censor.isSome ∧ (s.style ≠ .positional → Separates s.separator) := by
  have colon : Separates ':' := by decide
  induction formed with
  | blocks separator limits default autoJump separates => exact ⟨rfl, fun _ => separates⟩
  | clock hour minute => exact ⟨rfl, fun _ => colon⟩
  | censored censor s formed looks => exact ⟨rfl, looks.2⟩
  | _ => exact ⟨rfl, fun other => absurd rfl other⟩

section Positional

/-- Of hidden fields only the widths count. -/
theorem Alike.paddedFrom_eq (alike : a.Alike b) (va : a.Veiled) (vb : b.Veiled)
    {fields others : List (Int × Nat)} (widths : fields.map Prod.snd = others.map Prod.snd)
    (text : List Char) (column : Nat) :
    a.paddedFrom text column fields = b.paddedFrom text column others := by
  obtain ⟨c, ca⟩ := Option.isSome_iff_exists.mp va.censored
  have cb : b.censor = some c := alike.censor ▸ ca
  induction fields generalizing others text column with
  | nil =>
    obtain rfl := List.map_eq_nil_iff.mp widths.symm
    rfl
  | cons field rest ih =>
    obtain ⟨⟨v', w'⟩, rest', rfl, width, later⟩ := List.map_eq_cons_iff.mp widths.symm
    obtain ⟨v, w⟩ := field
    obtain rfl : w' = w := width
    simp only [paddedFrom, alike.separator, ca, cb, va.hidden, vb.hidden, if_true]
    exact ih later.symm _ _

theorem Veiled.snd_zip_widths (veiled : s.Veiled) : (s.value.zip s.widths).map Prod.snd = s.widths :=
  List.map_snd_zip (Nat.le_of_eq (s.length_widths.trans veiled.sound.size.symm))

/-- Hidden sequences that are edited digit by digit look the same whatever their fields are. -/
theorem Alike.view_positional (alike : a.Alike b) (va : a.Veiled) (vb : b.Veiled)
    (style : a.style = .positional) : a.view mode = b.view mode := by
  have same : a.widths = b.widths := by rw [widths, widths, alike.limits]
  have padded : a.paddedView = b.paddedView := by
    rw [paddedView, paddedView, alike.cursor]
    apply alike.paddedFrom_eq va vb
    rw [va.snd_zip_widths, vb.snd_zip_widths, same]
  rw [view, view, ← alike.style, style]
  dsimp only
  rw [padded]

end Positional

section Telling

/-- Fields that can be told apart in the text are told by it. -/
theorem value_eq_of_encode (sa : a.Sound) (sb : b.Sound) (limits : a.limits = b.limits)
    (separator : a.separator = b.separator) (separates : Separates a.separator)
    (same : a.encode = b.encode) : a.value = b.value := by
  -- The defaults may differ, and reading takes one: `b` reads with that of `a`.
  let other : Sequence := { b with default := a.default }
  have sound : other.Sound := ⟨sb.bounded, sb.value, limits ▸ sa.default, sb.clock⟩
  have first : (a.decode a.encode).value = a.value :=
    decode_encode sa (separates.divides a.limits) rfl rfl rfl
  have second : (a.decode other.encode).value = other.value :=
    decode_encode sound ((separator ▸ separates).divides b.limits) separator limits rfl
  rw [← first, same]
  exact second

/-- A sound clock is at a time of day in natural numbers. -/
theorem Sound.exists_time (sound : s.Sound) (isClock : s.isClock = true) :
    ∃ hour minute : Nat, s.value = [(hour : Int), (minute : Int)] ∧ hour < 24 ∧ minute < 60 := by
  obtain ⟨hours, minutes⟩ := sound.time isClock
  obtain ⟨hour, sameHour⟩ := Int.eq_ofNat_of_zero_le hours.1
  obtain ⟨minute, sameMinute⟩ := Int.eq_ofNat_of_zero_le minutes.1
  refine ⟨hour, minute, ?_, by omega, by omega⟩
  rw [sound.value_of_clock isClock, sameHour, sameMinute]

/-- The face of twelve hours and the half of the day tell the hour. -/
theorem hour_eq_of_face {h h' : Nat} (small : h < 24) (small' : h' < 24)
    (face : faceHour h = faceHour h') (half : h < 12 ↔ h' < 12) : h = h' := by
  unfold faceHour at face
  split at face <;> split at face <;> omega

/-- The text of a clock tells the time, on both faces. -/
theorem time_eq_of_clockView {h m h' m' : Nat} (va : a.value = [(h : Int), (m : Int)])
    (vb : b.value = [(h' : Int), (m' : Int)]) (hh : h < 24) (hm : m < 60) (hh' : h' < 24)
    (hm' : m' < 60) (same : (a.clockView mode).1 = (b.clockView mode).1) : h = h' ∧ m = m' := by
  have cut : ∀ {n n' : Nat} {rest rest' : List Char}, n < 100 → n' < 100 →
      Numeral.padded 2 (n : Int) ++ rest = Numeral.padded 2 (n' : Int) ++ rest' → n = n' ∧ rest = rest' :=
    fun small small' => Numeral.padded_append_inj Nat.zero_lt_two small small'
  simp only [clockView, field, va, vb, List.getD_cons_zero, List.getD_cons_succ] at same
  cases mode with
  | twelve =>
    have face := faceHour_bounds h
    have face' := faceHour_bounds h'
    obtain ⟨f, sameFace⟩ := Int.eq_ofNat_of_zero_le (show 0 ≤ faceHour h by omega)
    obtain ⟨f', sameFace'⟩ := Int.eq_ofNat_of_zero_le (show 0 ≤ faceHour h' by omega)
    rw [sameFace, sameFace'] at same
    obtain ⟨faces, rest⟩ := cut (by omega) (by omega) same
    obtain ⟨minutes, halves⟩ := cut (by omega) (by omega) (List.cons.inj rest).2
    have half : h < 12 ↔ h' < 12 := by
      have letters := (List.cons.inj (List.cons.inj halves).2).1
      split at letters <;> split at letters <;> simp at letters <;> omega
    exact ⟨hour_eq_of_face hh hh' (by rw [sameFace, sameFace', faces]) half, minutes⟩
  | twentyFour =>
    obtain ⟨hours, rest⟩ := cut (by omega) (by omega) same
    exact ⟨hours, Numeral.padded_inj.mp (List.cons.inj rest).2⟩

end Telling

section Looks

/-- Blocks and clocks are shown by their fields and by what alike sequences agree on. -/
theorem Alike.view_eq_of_value (alike : a.Alike b) (style : a.style ≠ .positional)
    (same : a.value = b.value) : a.view mode = b.view mode := by
  have styles := alike.style
  cases own : a.style with
  | positional => exact absurd own style
  | block marked overwrite autoJump =>
    rw [own] at styles
    simp only [view, own, ← styles, blockSpan, encode, plainChars, same, alike.separator]
  | clock =>
    rw [own] at styles
    simp only [view, own, ← styles, clockView, field, same, alike.cursor]
    rfl

/-- The text of a hidden sequence that is not edited digit by digit tells the fields. -/
theorem Alike.value_eq_of_text (alike : a.Alike b) (va : a.Veiled) (vb : b.Veiled)
    (style : a.style ≠ .positional) (same : a.text mode = b.text mode) : a.value = b.value := by
  have styles := alike.style
  cases own : a.style with
  | positional => exact absurd own style
  | block marked overwrite autoJump =>
    rw [own] at styles
    rw [text, text, view, view, own, ← styles] at same
    exact value_eq_of_encode va.sound vb.sound alike.limits alike.separator (va.separates style) same
  | clock =>
    rw [own] at styles
    rw [text, text, view, view, own, ← styles] at same
    obtain ⟨h, m, timeA, hh, hm⟩ := va.sound.exists_time (beq_iff_eq.mpr own)
    obtain ⟨h', m', timeB, hh', hm'⟩ := vb.sound.exists_time (beq_iff_eq.mpr styles.symm)
    obtain ⟨rfl, rfl⟩ := time_eq_of_clockView timeA timeB hh hm hh' hm' (String.ofList_injective same)
    rw [timeA, timeB]

/-- Hidden sequences that are alike look the same if they are edited digit by digit or have the same
fields. -/
theorem Alike.view_eq (alike : a.Alike b) (va : a.Veiled) (vb : b.Veiled)
    (covered : a.style = .positional ∨ a.value = b.value) : a.view mode = b.view mode := by
  by_cases style : a.style = .positional
  · exact alike.view_positional va vb style
  · exact alike.view_eq_of_value style (covered.resolve_left style)

/-- And only then: the text gives the fields away. -/
theorem Alike.text_eq_iff (alike : a.Alike b) (va : a.Veiled) (vb : b.Veiled) :
    a.text mode = b.text mode ↔ a.style = .positional ∨ a.value = b.value := by
  constructor
  · intro same
    rw [or_iff_not_imp_left]
    intro style
    exact alike.value_eq_of_text va vb style same
  · intro covered
    exact congrArg Prod.fst (alike.view_eq va vb covered)

theorem text?_display (mode : HourMode) (selected enabled : Bool) (s : Sequence) :
    (s.display mode selected enabled).text? = some (s.text mode) := by
  unfold display
  cases enabled <;> rfl

/-- The display tells no more than the text. -/
theorem Alike.display_eq_iff (alike : a.Alike b) (va : a.Veiled) (vb : b.Veiled)
    (selected enabled : Bool) :
    a.display mode selected enabled = b.display mode selected enabled ↔
      a.style = .positional ∨ a.value = b.value := by
  constructor
  · intro same
    have texts := congrArg Display.text? same
    rw [text?_display, text?_display, Option.some.injEq] at texts
    exact (alike.text_eq_iff va vb).mp texts
  · intro covered
    rw [display, display, alike.view_eq va vb covered]

end Looks

end Settings.Sequence
