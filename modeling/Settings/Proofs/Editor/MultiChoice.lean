import Settings.Editor.MultiChoice
import Settings.Proofs.Blob

/-!
# Multiple choices

The set is kept in order and without repetition, so it comes back from its string form as it was.

* `follows_handle`: edit actions keep the set in order.
* `decode_encode`: the string form is read back.
-/
namespace Settings

/-- In order and without repetition. -/
abbrev Ascending (items : List String) : Prop := items.Pairwise (· < ·)

theorem pairwise_sortTexts (items : List String) : (sortTexts items).Pairwise (· ≤ ·) := by
  have sorted : (sortTexts items).Pairwise fun a b => decide (a ≤ b) = true := by
    refine List.pairwise_mergeSort (fun a b c first second => ?_) (fun a b => ?_) items
    · simp only [decide_eq_true_eq] at first second ⊢
      exact String.le_trans first second
    · simpa using String.le_total a b
  exact sorted.imp fun holds => of_decide_eq_true holds

theorem sortTexts_of_ascending {items : List String} (ascending : Ascending items) :
    sortTexts items = items :=
  List.mergeSort_of_pairwise (ascending.imp fun below => decide_eq_true (Std.le_of_lt below))

/-- Ordered texts that differ ascend. -/
theorem ascending_sortTexts {items : List String} (distinct : items.Nodup) :
    Ascending (sortTexts items) := by
  have different : (sortTexts items).Nodup := (List.mergeSort_perm items _).nodup_iff.mpr distinct
  exact (pairwise_sortTexts items).imp₂ (fun _ _ below other => Std.lt_of_le_of_ne below other) different

private theorem ascending_loop {items acc : List String} {a : String}
    (sorted : (a :: items).Pairwise (· ≤ ·)) (before : Ascending acc.reverse)
    (smaller : ∀ x ∈ acc, x < a) :
    Ascending (List.eraseRepsBy.loop (· == ·) a items acc) := by
  induction items generalizing a acc with
  | nil =>
    rw [List.eraseRepsBy.loop, List.reverse_cons]
    refine List.pairwise_append.mpr ⟨before, List.pairwise_singleton _ _, fun x member y last => ?_⟩
    rw [List.mem_singleton.mp last]
    exact smaller x (List.mem_reverse.mp member)
  | cons b rest ih =>
    obtain ⟨least, tail⟩ := List.pairwise_cons.mp sorted
    have below : a ≤ b := least b List.mem_cons_self
    rw [List.eraseRepsBy.loop]
    split
    · next same =>
      rw [beq_iff_eq] at same
      subst same
      exact ih tail before smaller
    · next other =>
      have step : a < b := Std.lt_of_le_of_ne below (by simpa using other)
      refine ih tail ?_ ?_
      · rw [List.reverse_cons]
        refine List.pairwise_append.mpr ⟨before, List.pairwise_singleton _ _, fun x member y last => ?_⟩
        rw [List.mem_singleton.mp last]
        exact smaller x (List.mem_reverse.mp member)
      · intro x member
        rcases List.mem_cons.mp member with rfl | inside
        · exact step
        · exact String.lt_trans (smaller x inside) step

private theorem loop_of_ascending {items acc : List String} {a : String}
    (ascending : Ascending (a :: items)) :
    List.eraseRepsBy.loop (· == ·) a items acc = acc.reverse ++ a :: items := by
  induction items generalizing a acc with
  | nil => rw [List.eraseRepsBy.loop, List.reverse_cons]
  | cons b rest ih =>
    obtain ⟨least, tail⟩ := List.pairwise_cons.mp ascending
    have other : (a == b) = false := by simpa using String.ne_of_lt (least b List.mem_cons_self)
    rw [List.eraseRepsBy.loop, other]
    simp [ih tail]

/-- The different texts ascend. -/
theorem ascending_distinctTexts (items : List String) : Ascending (distinctTexts items) := by
  have sorted := pairwise_sortTexts items
  unfold distinctTexts List.eraseReps
  cases shape : sortTexts items with
  | nil => exact List.Pairwise.nil
  | cons a rest =>
    rw [shape] at sorted
    exact ascending_loop sorted List.Pairwise.nil fun _ member => nomatch member

theorem distinctTexts_of_ascending {items : List String} (ascending : Ascending items) :
    distinctTexts items = items := by
  unfold distinctTexts List.eraseReps
  rw [sortTexts_of_ascending ascending]
  cases items with
  | nil => rfl
  | cons a rest => exact loop_of_ascending ascending

namespace MultiChoice

/-- The set and the default are in order and without repetition. -/
structure Sound (m : MultiChoice) : Prop where
  value : Ascending m.value
  default : Ascending m.default

/-- An edit that does not touch the default and keeps the set in order. -/
structure Follows (m m' : MultiChoice) : Prop where
  default : m'.default = m.default
  value : m.Sound → Ascending m'.value

variable {m m' : MultiChoice}

theorem Sound.follows (sound : m.Sound) (follows : Follows m m') : m'.Sound :=
  ⟨follows.value sound, follows.default ▸ sound.default⟩

theorem Follows.refl (m : MultiChoice) : Follows m m := ⟨rfl, Sound.value⟩

theorem follows_setItems (items : List String) (m : MultiChoice) : Follows m (m.setItems items) :=
  ⟨rfl, fun _ => ascending_distinctTexts items⟩

theorem follows_toggle (item : String) (m : MultiChoice) : Follows m (m.toggle item) := by
  refine ⟨rfl, fun sound => ?_⟩
  unfold toggle
  dsimp only
  split
  · exact sound.value.sublist List.erase_sublist
  · next absent =>
    refine ascending_sortTexts ?_
    have distinct : m.value.Nodup := sound.value.imp String.ne_of_lt
    refine List.nodup_append.mpr ⟨distinct, List.pairwise_singleton _ _, fun x member y last same => ?_⟩
    rw [List.mem_singleton.mp last] at same
    refine absent ?_
    rw [contains, List.contains_iff_mem, ← same]
    exact member

/-- A text is read if it holds a list of texts, whose set is then taken. -/
theorem decode_eq_ok_iff {text : String} : m.decode text = .ok m' ↔
    ∃ items, Blob.decode text = .ok (.ofStrings items) ∧ m' = m.setItems items := by
  unfold decode
  cases Blob.decode text with
  | error err => simp
  | ok term =>
    simp only [Except.ok.injEq, ← Term.strings?_eq_some_iff]
    cases term.strings? with
    | none => simp
    | some items => simp [eq_comm]

theorem follows_decode {text : String} (read : m.decode text = .ok m') : Follows m m' := by
  obtain ⟨items, _, rfl⟩ := decode_eq_ok_iff.mp read
  exact follows_setItems items m

/-- All sets take the same members from a text. -/
theorem exists_decode {text : String} (read : m.decode text = .ok m') (fresh : MultiChoice) :
    ∃ s, fresh.decode text = .ok s ∧ s.value = m'.value := by
  obtain ⟨items, held, rfl⟩ := decode_eq_ok_iff.mp read
  exact ⟨fresh.setItems items, decode_eq_ok_iff.mpr ⟨items, held, rfl⟩, rfl⟩

theorem follows_reset (m : MultiChoice) : Follows m m.reset := ⟨rfl, Sound.default⟩

/-- An assigned value is the set of some texts. -/
theorem exists_setItems_of_assign {v : Value} (taken : m.assign v = .ok m') :
    ∃ items, m' = m.setItems items := by
  cases v with
  | list values =>
    rw [assign] at taken
    split at taken
    · next items _ =>
      cases taken
      exact ⟨items, rfl⟩
    · cases taken
  | text s =>
    obtain ⟨items, _, same⟩ := decode_eq_ok_iff.mp taken
    exact ⟨items, same⟩
  | _ => cases taken

theorem follows_assign {v : Value} (taken : m.assign v = .ok m') : Follows m m' := by
  obtain ⟨items, rfl⟩ := exists_setItems_of_assign taken
  exact follows_setItems items m

theorem follows_handle (a : Action) (m : MultiChoice) : Follows m (m.handle a).state := by
  have toggled : Follows m m.toggleMarked.state := by
    unfold toggleMarked
    split
    · exact follows_toggle _ m
    · exact .refl m
  unfold handle
  dsimp only
  split
  · exact .refl m
  · cases a with
    | toggle | select | delete | backspace | digit => exact toggled
    | _ => exact ⟨rfl, Sound.value⟩

theorem canonical_ofStrings (items : List String) : (Term.ofStrings items).Canonical := by
  rw [Term.ofStrings, Term.Canonical, Term.canonicalItems_iff]
  intro t member
  obtain ⟨item, _, rfl⟩ := List.mem_map.mp member
  rw [Term.Canonical]
  trivial

theorem depth_ofStrings (items : List String) : (Term.ofStrings items).depth = 1 := by
  rw [Term.ofStrings, Term.depth]
  induction items with
  | nil => rw [List.map_nil, Term.depthItems]
  | cons item rest ih =>
    rw [List.map_cons, Term.depthItems, Term.depth, Nat.zero_max]
    exact ih

/-- The string form is read back by every set. -/
theorem decode_encode {fresh : MultiChoice} (sound : m.Sound) :
    ∃ m', fresh.decode m.encode = .ok m' ∧ m'.value = m.value := by
  have read := Blob.decode_encode (canonical_ofStrings m.value) (by rw [depth_ofStrings]; decide)
  refine ⟨fresh.setItems m.value, decode_eq_ok_iff.mpr ⟨m.value, read, rfl⟩, ?_⟩
  rw [setItems, distinctTexts_of_ascending sound.value]

theorem textItems_map_text (items : List String) : textItems (items.map .text) = .ok items := by
  induction items with
  | nil => rfl
  | cons item rest ih =>
    rw [List.map_cons, textItems, Value.text?]
    dsimp only
    rw [ih]
    rfl

/-- The value is taken by every set. -/
theorem assign_value {fresh : MultiChoice} (sound : m.Sound) :
    ∃ m', fresh.assign (.ofStrings m.value) = .ok m' ∧ m'.value = m.value := by
  refine ⟨fresh.setItems m.value, ?_, distinctTexts_of_ascending sound.value⟩
  rw [Value.ofStrings, assign, textItems_map_text]

theorem encode_reset {fresh : MultiChoice} (default : fresh.default = m.default)
    (isDefault : m.isDefault = true) : fresh.reset.encode = m.encode := by
  have same : m.value = m.default := eq_of_beq isDefault
  rw [encode, encode, same, ← default]
  rfl

theorem sound_make (choices default : List String) : (make choices default).Sound :=
  ⟨ascending_distinctTexts default, ascending_distinctTexts default⟩

end MultiChoice

end Settings
