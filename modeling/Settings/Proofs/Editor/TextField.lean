import Settings.Editor.TextField
import Settings.Proofs.Numeral

/-!
# Text fields

No edit turns a text into a number or touches the default, the size or the window. A text is read back
as it is; a number is read back as its numeral, since a numeral has no zeros to strip.

* `backdrop_handle`, `frame_handle`: edit actions keep what the field was made with, and whether it is
  hidden.
* `stripZeros_eq_digits`: what stripping zeros achieves.
* `decode_encode`: the string form is read back.
* `exists_decode_trim`: what becomes of it if its outer blanks were lost.
-/
namespace Settings.TextField

/-- What decides about string forms. No edit changes it. -/
def setup (t : TextField) : Bool × String := (t.isNumber, t.default)

theorem isNumber_of_setup {t t' : TextField} (same : t'.setup = t.setup) : t'.isNumber = t.isNumber :=
  congrArg Prod.fst same

theorem default_of_setup {t t' : TextField} (same : t'.setup = t.setup) : t'.default = t.default :=
  congrArg Prod.snd same

section Frame

/-- All that no edit changes, with the rest left blank. -/
def frame (t : TextField) : TextField :=
  { t with
    chars := []
    cursor := 0
    allMarked := false
    offset := 0
    overwrite := false
    hidden := false
    input := .digits }

theorem setup_of_frame {t t' : TextField} (same : t'.frame = t.frame) : t'.setup = t.setup := by
  have blank : t'.frame.setup = t.frame.setup := congrArg setup same
  exact blank

theorem isNumber_of_frame {t t' : TextField} (same : t'.frame = t.frame) :
    t'.isNumber = t.isNumber :=
  isNumber_of_setup (setup_of_frame same)

theorem fixedSize_of_frame {t t' : TextField} (same : t'.frame = t.frame) :
    t'.fixedSize = t.fixedSize := by
  have blank : t'.frame.fixedSize = t.frame.fixedSize := congrArg fixedSize same
  exact blank

theorem visibleWidth_of_frame {t t' : TextField} (same : t'.frame = t.frame) :
    t'.visibleWidth = t.visibleWidth := by
  have blank : t'.frame.visibleWidth = t.frame.visibleWidth := congrArg visibleWidth same
  exact blank

/-- All that neither an edit action nor another text changes: the frame, and whether the text is
hidden. -/
def backdrop (t : TextField) : TextField :=
  { t with
    chars := []
    cursor := 0
    allMarked := false
    offset := 0
    overwrite := false
    input := .digits }

theorem frame_of_backdrop {t t' : TextField} (same : t'.backdrop = t.backdrop) :
    t'.frame = t.frame := by
  have blank : t'.backdrop.frame = t.backdrop.frame := congrArg frame same
  exact blank

theorem hidden_of_backdrop {t t' : TextField} (same : t'.backdrop = t.backdrop) :
    t'.hidden = t.hidden := by
  have blank : t'.backdrop.hidden = t.backdrop.hidden := congrArg hidden same
  exact blank

variable (t : TextField)

@[simp] theorem backdrop_settle : t.settle.backdrop = t.backdrop := by
  unfold settle
  split <;> rfl

@[simp] theorem backdrop_setText (text : String) : (t.setText text).backdrop = t.backdrop := by
  rw [setText, backdrop_settle]
  rfl

@[simp] theorem backdrop_commit : t.commit.backdrop = t.backdrop := rfl

@[simp] theorem backdrop_insertChar (c : Char) (replace : Bool) :
    (t.insertChar c replace).backdrop = t.backdrop := rfl

@[simp] theorem backdrop_deleteChar (pos : Nat) : (t.deleteChar pos).backdrop = t.backdrop := by
  unfold deleteChar
  split <;> rfl

@[simp] theorem backdrop_deleteAll : t.deleteAll.backdrop = t.backdrop := rfl

@[simp] theorem backdrop_clearMarked : t.clearMarked.backdrop = t.backdrop := by
  unfold clearMarked
  split <;> rfl

@[simp] theorem backdrop_advance : t.advance.backdrop = t.backdrop := rfl

@[simp] theorem backdrop_typeChar (c : Char) : (t.typeChar c).backdrop = t.backdrop := by
  simp [typeChar]

@[simp] theorem backdrop_typeKey (key : Nat) : (t.typeKey key).backdrop = t.backdrop := by
  have fed : ∀ input, ({ t with input := input } : TextField).backdrop = t.backdrop := fun _ => rfl
  unfold typeKey
  dsimp only
  split <;> split <;> simp [fed]

@[simp] theorem backdrop_backspace : t.backspace.backdrop = t.backdrop := by
  have shorter : ∀ pos offset cursor,
      ({ t.deleteChar pos with offset := offset, cursor := cursor } : TextField).backdrop = t.backdrop :=
    fun pos _ _ => backdrop_deleteChar t pos
  unfold backspace
  split
  · exact backdrop_clearMarked t
  · split
    · rfl
    · exact shorter _ _ _

@[simp] theorem backdrop_delete : t.delete.backdrop = t.backdrop := by
  unfold delete
  split
  · exact backdrop_clearMarked t
  · dsimp only
    split <;> simp

theorem backdrop_act? {a : Action} {acted : TextField} (done : t.act? a = some acted) :
    acted.backdrop = t.backdrop := by
  cases a with
  | first | last | toggle =>
    cases done
    rfl
  | left | right =>
    cases done
    split <;> rfl
  | backspace | delete | erase | character | digit | timeout =>
    cases done
    simp
  | select => cases done

theorem backdrop_handle (a : Action) : (t.handle a).state.backdrop = t.backdrop := by
  unfold handle
  split
  · next c _ => exact backdrop_typeChar t c
  · rfl
  · split
    · next acted done =>
      dsimp only [Outcome.changedIf]
      rw [backdrop_settle, backdrop_act? t done]
    · rfl

theorem frame_setText (text : String) : (t.setText text).frame = t.frame :=
  frame_of_backdrop (backdrop_setText t text)

theorem frame_clearMarked : t.clearMarked.frame = t.frame :=
  frame_of_backdrop (backdrop_clearMarked t)

theorem frame_typeChar (c : Char) : (t.typeChar c).frame = t.frame :=
  frame_of_backdrop (backdrop_typeChar t c)

theorem frame_backspace : t.backspace.frame = t.frame := frame_of_backdrop (backdrop_backspace t)

theorem frame_act? {a : Action} {acted : TextField} (done : t.act? a = some acted) :
    acted.frame = t.frame :=
  frame_of_backdrop (backdrop_act? t done)

theorem frame_handle (a : Action) : (t.handle a).state.frame = t.frame :=
  frame_of_backdrop (backdrop_handle t a)

theorem frame_select : t.select.frame = t.frame := rfl

theorem frame_deselect : t.deselect.frame = t.frame := rfl

/-- A number field reads numerals, any other field reads all texts. -/
theorem decode_eq_ok_iff {text : String} {t' : TextField} : t.decode text = .ok t' ↔
    (t.isNumber = true ∧ ∃ n, Numeral.read? (Text.trimChars text.toList) = some n ∧
      t' = t.setText (Numeral.text n)) ∨
    (t.isNumber = false ∧ t' = t.setText text) := by
  unfold decode
  cases t.isNumber with
  | true =>
    cases Numeral.read? (Text.trimChars text.toList) with
    | none => simp
    | some n => simp [eq_comm]
  | false => simp [eq_comm]

/-- What is read is set as some text. -/
theorem exists_setText_of_decode {text : String} {t' : TextField} (read : t.decode text = .ok t') :
    ∃ taken, t' = t.setText taken := by
  rcases (decode_eq_ok_iff t).mp read with ⟨_, n, _, rfl⟩ | ⟨_, rfl⟩
  · exact ⟨Numeral.text n, rfl⟩
  · exact ⟨text, rfl⟩

/-- So is what the host hands over. -/
theorem exists_setText_of_assign {v : Value} {t' : TextField} (taken : t.assign v = .ok t') :
    ∃ text, t' = t.setText text := by
  cases v with
  | text s => exact exists_setText_of_decode t taken
  | int | real =>
    rw [assign] at taken
    split at taken
    · split at taken
      · cases taken
        exact ⟨_, rfl⟩
      · cases taken
    · cases taken
  | _ => cases taken

@[simp] theorem setup_setText (text : String) : (t.setText text).setup = t.setup :=
  setup_of_frame (frame_setText t text)

/-- Edit actions keep the setup. -/
theorem setup_handle (a : Action) : (t.handle a).state.setup = t.setup :=
  setup_of_frame (frame_handle t a)

theorem setup_decode {text : String} {t' : TextField} (read : t.decode text = .ok t') :
    t'.setup = t.setup := by
  obtain ⟨taken, rfl⟩ := exists_setText_of_decode t read
  exact setup_setText t taken

theorem setup_assign {v : Value} {t' : TextField} (taken : t.assign v = .ok t') :
    t'.setup = t.setup := by
  obtain ⟨text, rfl⟩ := exists_setText_of_assign t taken
  exact setup_setText t text

end Frame

/-- The default of a number is a numeral. -/
def Sound (t : TextField) : Prop :=
  t.isNumber = true → ∃ n, Numeral.InRange n ∧ t.default = Numeral.text n

theorem Sound.of_setup {t t' : TextField} (sound : t.Sound) (same : t'.setup = t.setup) :
    t'.Sound := by
  intro isNumber
  rw [isNumber_of_setup same] at isNumber
  rw [default_of_setup same]
  exact sound isNumber

section Codec

variable {t fresh : TextField}

theorem ofDigitChars_dropZeros (ds : List Char) :
    Nat.ofDigitChars 10 (ds.dropWhile (· = '0')) 0 = Nat.ofDigitChars 10 ds 0 := by
  induction ds with
  | nil => rfl
  | cons c rest ih =>
    by_cases zero : c = '0'
    · rw [List.dropWhile_cons_of_pos (by simp [zero]), ih, zero, Nat.ofDigitChars_cons]
      rfl
    · rw [List.dropWhile_cons_of_neg (by simp [zero])]

/-- Leading zeros do not count. -/
theorem ofDigitChars_stripZeros (ds : List Char) :
    Nat.ofDigitChars 10 (stripZeros ds) 0 = Nat.ofDigitChars 10 ds 0 := by
  rw [← ofDigitChars_dropZeros ds]
  unfold stripZeros
  split
  · next none => rw [none]; rfl
  · rfl

theorem mem_stripZeros {c : Char} {cs : List Char} (member : c ∈ stripZeros cs) :
    c ∈ cs ∨ c = '0' := by
  unfold stripZeros at member
  split at member
  · exact .inr (List.mem_singleton.mp member)
  · exact .inl ((List.dropWhile_sublist _).mem member)

theorem stripZeros_ne_nil (cs : List Char) : stripZeros cs ≠ [] := by
  unfold stripZeros
  split
  · exact List.cons_ne_nil _ _
  · next proper => exact proper

/-- Without leading zeros, digits are the numeral of the number that they stand for. -/
theorem stripZeros_eq_digits {cs : List Char} (isDigit : ∀ c ∈ cs, c.isDigit = true) :
    stripZeros cs = Numeral.digits (Nat.ofDigitChars 10 cs 0) := by
  have digital : ∀ c ∈ stripZeros cs, c.isDigit = true := by
    intro c member
    rcases mem_stripZeros member with inside | rfl
    · exact isDigit c inside
    · decide
  have unsigned : (stripZeros cs).head? ≠ some '+' := fun sign =>
    absurd (digital '+' (List.mem_of_head? sign)) (by decide)
  have noZero : (stripZeros cs).head? = some '0' → stripZeros cs = ['0'] := by
    intro zero
    cases left : cs.dropWhile (· = '0') with
    | nil => rw [stripZeros, left]
    | cons c rest =>
      -- What is left does not start with a zero.
      have dropped := List.head?_dropWhile_not (· = '0') cs
      rw [stripZeros, left] at zero
      rw [left, List.head?_cons, Option.some.inj zero] at dropped
      exact absurd dropped (by decide)
  rw [← ofDigitChars_stripZeros]
  exact ((Numeral.digits_ofDigitChars_eq_iff (stripZeros_ne_nil cs) digital).mpr
    ⟨unsigned, noZero⟩).symm

/-- A numeral has no zeros to strip. -/
theorem stripZeros_chars (n : Int) : stripZeros (Numeral.chars n) = Numeral.chars n := by
  unfold Numeral.chars
  split
  · rfl
  · rw [stripZeros_eq_digits fun _ member => Numeral.isDigit_of_mem_digits member,
      Numeral.ofDigitChars_digits]

/-- A number field drops leading zeros, a text field keeps all that it is given. -/
theorem chars_setText (text : String) :
    (t.setText text).chars = if t.isNumber then stripZeros text.toList else text.toList := by
  rw [setText, settle]
  split <;> rfl

/-- Fields with the same setup get the same characters from a text. -/
theorem chars_setText_congr (same : fresh.setup = t.setup) (text : String) :
    (fresh.setText text).chars = (t.setText text).chars := by
  rw [chars_setText, chars_setText, isNumber_of_setup same]

/-- Fields with the same setup take the same characters from a text. -/
theorem exists_decode (same : fresh.setup = t.setup) {text : String} {t' : TextField}
    (read : t.decode text = .ok t') :
    ∃ u, fresh.decode text = .ok u ∧ u.setup = t'.setup ∧ u.chars = t'.chars := by
  have kind := isNumber_of_setup same
  have typed (written : String) : (fresh.setText written).setup = (t.setText written).setup ∧
      (fresh.setText written).chars = (t.setText written).chars :=
    ⟨by rw [setup_setText, setup_setText, same], chars_setText_congr same written⟩
  rcases (decode_eq_ok_iff t).mp read with ⟨isNumber, n, numeral, rfl⟩ | ⟨isText, rfl⟩
  · have taken := (decode_eq_ok_iff fresh).mpr (.inl ⟨kind.trans isNumber, n, numeral, rfl⟩)
    exact ⟨_, taken, typed _⟩
  · exact ⟨_, (decode_eq_ok_iff fresh).mpr (.inr ⟨kind.trans isText, rfl⟩), typed _⟩

/-- What a field shows is decided by its setup and its characters. -/
theorem encode_congr (same : fresh.setup = t.setup) (chars : fresh.chars = t.chars) :
    fresh.encode = t.encode := by
  rw [encode, encode, number?, number?, TextField.text, TextField.text, isNumber_of_setup same,
    default_of_setup same, chars]

/-- So is its value. -/
theorem toValue_congr (same : fresh.setup = t.setup) (chars : fresh.chars = t.chars) :
    fresh.toValue = t.toValue := by
  rw [toValue, toValue, number?, number?, TextField.text, TextField.text, isNumber_of_setup same,
    chars]

theorem number?_setText_numeral (isNumber : t.isNumber = true) {n : Int} (range : Numeral.InRange n) :
    (t.setText (Numeral.text n)).number? = some n := by
  rw [number?, chars_setText, if_pos isNumber, Numeral.text, String.toList_ofList,
    stripZeros_chars, Numeral.read?_trimChars_chars range]

/-- A number field shows the numeral that it was given. -/
theorem encode_setText_numeral (isNumber : t.isNumber = true) {n : Int} (range : Numeral.InRange n) :
    (t.setText (Numeral.text n)).encode = Numeral.text n := by
  have kept := isNumber_of_setup (setup_setText t (Numeral.text n))
  rw [encode, kept, if_pos isNumber, number?_setText_numeral isNumber range]
  rfl

/-- A text field shows the text that it was given. -/
theorem encode_setText_text (isText : t.isNumber = false) (text : String) :
    (t.setText text).encode = text := by
  have kept := isNumber_of_setup (setup_setText t text)
  have chars : (t.setText text).chars = text.toList := by
    rw [chars_setText, isText]
    rfl
  rw [encode, kept, isText, TextField.text, chars]
  exact String.ofList_toList

/-- The value is taken by every field with the same setup, if it is not that of a number field without
a numeral. -/
theorem assign_toValue (numeral : t.isNumber = true → t.number?.isSome = true)
    (same : fresh.setup = t.setup) :
    ∃ t', fresh.assign t.toValue = .ok t' ∧ t'.toValue = t.toValue ∧ t'.encode = t.encode := by
  have kind := isNumber_of_setup same
  have kept (text : String) : (fresh.setText text).isNumber = t.isNumber :=
    (isNumber_of_setup (setup_setText fresh text)).trans kind
  cases isNumber : t.isNumber with
  | true =>
    rw [isNumber] at kind
    obtain ⟨n, shown⟩ := Option.isSome_iff_exists.mp (numeral isNumber)
    have range : Numeral.InRange n := Numeral.inRange_of_read? shown
    have value : t.toValue = .int n := by
      rw [toValue, if_pos isNumber, shown]
      rfl
    refine ⟨fresh.setText (Numeral.text n), ?_, ?_, ?_⟩
    · rw [value, assign, if_pos kind, Value.int64?_int range]
    · rw [value, toValue, kept, if_pos isNumber, number?_setText_numeral kind range]
      rfl
    · rw [encode_setText_numeral kind range, encode, if_pos isNumber, shown]
      rfl
  | false =>
    rw [isNumber] at kind
    have value : t.toValue = .text t.text := by rw [toValue, isNumber]; rfl
    have encoded : t.encode = t.text := by rw [encode, isNumber]; rfl
    refine ⟨fresh.setText t.text, ?_, ?_, ?_⟩
    · rw [value, assign, decode, kind]
      rfl
    · have shown := encode_setText_text kind t.text
      rw [encode, kept, isNumber] at shown
      rw [value, toValue, kept, isNumber]
      exact congrArg Value.text shown
    · rw [encode_setText_text kind, encoded]

/-- A number field shows some numeral, its default if need be. -/
theorem Sound.encode_eq_numeral (sound : t.Sound) (isNumber : t.isNumber = true) :
    ∃ n, Numeral.InRange n ∧ t.encode = Numeral.text n := by
  rw [encode, if_pos isNumber]
  cases read : t.number? with
  | none => exact sound isNumber
  | some n => exact ⟨n, Numeral.inRange_of_read? read, rfl⟩

/-- The string form is read back by every field with the same setup. -/
theorem decode_encode (sound : t.Sound) (same : fresh.setup = t.setup) :
    ∃ t', fresh.decode t.encode = .ok t' ∧ t'.encode = t.encode ∧ t'.isNumber = t.isNumber := by
  have kind := isNumber_of_setup same
  cases isNumber : t.isNumber with
  | true =>
    rw [isNumber] at kind
    obtain ⟨n, range, shown⟩ := sound.encode_eq_numeral isNumber
    have read : Numeral.read? (Text.trimChars (Numeral.text n).toList) = some n := by
      rw [Numeral.text, String.toList_ofList, Numeral.read?_trimChars_chars range]
    refine ⟨fresh.setText (Numeral.text n), ?_, ?_, ?_⟩
    · rw [decode, if_pos kind, shown, read]
    · rw [shown, encode_setText_numeral kind range]
    · exact (isNumber_of_setup (setup_setText fresh _)).trans kind
  | false =>
    rw [isNumber] at kind
    refine ⟨fresh.setText t.encode, ?_, encode_setText_text kind _, ?_⟩
    · rw [decode, kind]
      rfl
    · exact (isNumber_of_setup (setup_setText fresh _)).trans kind

/-- A string form that was trimmed is read as well, and shown without its outer blanks. -/
theorem exists_decode_trim (sound : t.Sound) (same : fresh.setup = t.setup) :
    ∃ t', fresh.decode (Text.trim t.encode) = .ok t' ∧ t'.encode = Text.trim t.encode := by
  have kind := isNumber_of_setup same
  cases isNumber : t.isNumber with
  | true =>
    -- Numerals have no blanks, so there is nothing to trim.
    obtain ⟨n, _, shown⟩ := sound.encode_eq_numeral isNumber
    have plain : Text.trim t.encode = t.encode := by
      rw [shown, Numeral.text, Text.trim, String.toList_ofList, Numeral.trimChars_chars]
    obtain ⟨t', read, kept, _⟩ := decode_encode sound same
    rw [plain]
    exact ⟨t', read, kept⟩
  | false =>
    rw [isNumber] at kind
    refine ⟨fresh.setText (Text.trim t.encode), ?_, encode_setText_text kind _⟩
    rw [decode, kind]
    rfl

/-- A field that is put on its default shows it. -/
theorem encode_reset_eq_default (sound : t.Sound) : t.reset.encode = t.default := by
  rw [reset]
  cases isNumber : t.isNumber with
  | true =>
    obtain ⟨n, range, numeral⟩ := sound isNumber
    rw [numeral, encode_setText_numeral isNumber range]
  | false => exact encode_setText_text isNumber _

/-- A field on its default shows what a fresh one shows. -/
theorem encode_reset (sound : t.Sound) (same : fresh.setup = t.setup)
    (isDefault : t.isDefault = true) :
    fresh.reset.encode = t.encode :=
  calc
    fresh.reset.encode = fresh.default := encode_reset_eq_default (sound.of_setup same)
    _ = t.default := default_of_setup same
    _ = t.encode := (eq_of_beq isDefault).symm

end Codec

/-- The fields that hosts make, from numbers of 64 bits. -/
inductive Made : TextField → Prop where
  | make (default : String) : Made (.make default)
  | password (default : String) : Made (.password default)
  | number (default : Int) (inRange : Numeral.InRange default) : Made (.number default)
  | withFixedSize (fixed : Bool) (t : TextField) (made : Made t) : Made (t.withFixedSize fixed)
  | withVisibleWidth (width : Nat) (t : TextField) (made : Made t) : Made (t.withVisibleWidth width)
  | withCensor (censor : Option Char) (t : TextField) (made : Made t) : Made (t.withCensor censor)
  | withInput (input : TextInput) (t : TextField) (made : Made t) : Made (t.withInput input)

theorem Made.sound {t : TextField} (made : t.Made) : t.Sound := by
  induction made with
  | make default => exact fun isNumber => nomatch isNumber
  | password default => exact fun isNumber => nomatch isNumber
  | number default inRange => exact fun _ => ⟨default, inRange, rfl⟩
  | withFixedSize fixed t made sound => exact sound.of_setup rfl
  | withVisibleWidth width t made sound => exact sound.of_setup rfl
  | withCensor censor t made sound => exact sound.of_setup rfl
  | withInput input t made sound => exact sound.of_setup rfl

/-- What hosts make is on its default. -/
theorem Made.isDefault {t : TextField} (made : t.Made) : t.isDefault = true := by
  induction made with
  | make default => exact beq_iff_eq.mpr String.ofList_toList
  | password default => exact beq_iff_eq.mpr String.ofList_toList
  | number default inRange =>
    have read : (TextField.number default).number? = some default := by
      rw [number?, TextField.number, TextField.make, Numeral.text, String.toList_ofList,
        Numeral.read?_trimChars_chars inRange]
    refine beq_iff_eq.mpr ?_
    rw [encode, read]
    rfl
  | withFixedSize fixed t made same => exact same
  | withVisibleWidth width t made same => exact same
  | withCensor censor t made same => exact same
  | withInput input t made same => exact same

end Settings.TextField
