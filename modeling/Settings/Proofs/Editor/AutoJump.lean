import Settings.Proofs.Editor.BlockEntry

/-!
# Digits that go on to the next field

In an address that jumps, a digit that the marked field has no room for goes to the next field. So the
digits that are typed are shared out greedily: a field takes digits as long as its number stays within
the bound, and the next one starts with the digit that did not fit. Only the last field has no next one,
there the number is clamped.

* `writeBlock_of_above`: a number above the bound of a field.
* `Uniform`, `Carries`, `Uniform.carries`: fields that are all alike, and one digit.
* `numbers`, `withNumbers`: the numbers that digits are shared out into, and fields that take them.
* `exists_groups`: no digit is lost.
* `Uniform.value_handleAll`: a run of digits.
-/
namespace Settings.Sequence

variable {s : Sequence} {mode : HourMode} {b : Bounds} {high : Int} {block marked : Nat}
  {overwrite : Bool} {a : Action} {digit : Nat}

section Clamping

/-- A number above the bound of a field becomes the bound, which fills the field as the number does. -/
theorem writeBlock_of_above (inside : Inside s.limits s.value) (bounds : s.limits[block]? = some b)
    (ordered : b.Ordered) (nonneg : 0 ≤ b.high) {n : Int} (above : b.high < n) (autoJump : Bool) :
    s.writeBlock block n autoJump = s.written block b.high autoJump := by
  have top : b.Contains b.high := ⟨ordered, Int.le_refl _⟩
  have clamped : b.clamp n = b.clamp b.high := by
    rw [Bounds.clamp_of_contains top]
    unfold Bounds.Ordered at ordered
    simp only [Bounds.clamp]
    omega
  have full : s.Fills block n ↔ s.Fills block b.high := by
    rw [fills_iff bounds, fills_iff bounds]
    exact iff_of_true (Numeral.width_le_width (by omega)) (Nat.le_refl _)
  rw [writeBlock_congr bounds clamped full, writeBlock_of_contains inside bounds top]

end Clamping

section Carrying

/-- All fields go from zero up to the same bound, which has at least two digits. -/
structure Uniform (high : Int) (s : Sequence) : Prop where
  inside : Inside s.limits s.value
  limits : ∃ count, s.limits = List.replicate count ⟨0, high⟩
  wide : 10 ≤ high

/-- What a digit does in an address that jumps. It replaces the marked field or extends it. If that leads
above the bound, it goes to the next field and the marked one stays; only in the last field the number is
clamped. -/
structure Carries (mode : HourMode) (high : Int) (s : Sequence) (marked : Nat) (overwrite : Bool) :
    Prop where
  replaced : overwrite = true → ∀ (a : Action) (digit : Nat), a.digit? = some digit →
    s.handle mode a = s.written marked digit true
  extended : overwrite = false → ∀ (a : Action) (digit : Nat), a.digit? = some digit →
    10 * s.field marked + digit ≤ high →
    s.handle mode a = s.written marked (10 * s.field marked + digit) true
  carried : overwrite = false → ∀ (a : Action) (digit : Nat), a.digit? = some digit →
    high < 10 * s.field marked + digit → marked + 1 < s.limits.length →
    s.handle mode a = s.written (marked + 1) digit true
  clamped : overwrite = false → ∀ (a : Action) (digit : Nat), a.digit? = some digit →
    high < 10 * s.field marked + digit → marked + 1 = s.limits.length →
    s.handle mode a = s.written marked high true

theorem Uniform.bounds (uniform : s.Uniform high) (there : block < s.limits.length) :
    s.limits[block]? = some ⟨0, high⟩ := by
  obtain ⟨count, limits⟩ := uniform.limits
  rw [limits, List.length_replicate] at there
  rw [limits, List.getElem?_replicate_of_lt there]

theorem Uniform.size (uniform : s.Uniform high) : s.value.length = s.limits.length :=
  uniform.inside.length_eq.symm

theorem Uniform.field_range (uniform : s.Uniform high) (there : block < s.limits.length) :
    0 ≤ s.field block ∧ s.field block ≤ high := by
  have value : s.value[block]? = some (s.field block) := by
    simp [field, uniform.size ▸ there]
  exact contains_of_inside uniform.inside (uniform.bounds there) value

theorem Uniform.writeBlock (uniform : s.Uniform high) (there : block < s.limits.length) {n : Int}
    (range : 0 ≤ n ∧ n ≤ high) : s.writeBlock block n true = s.written block n true :=
  writeBlock_of_contains uniform.inside (uniform.bounds there) range true

/-- A number within the bound can be put into a field. -/
theorem Uniform.written (uniform : s.Uniform high) (there : block < s.limits.length) {n : Int}
    (range : 0 ≤ n ∧ n ≤ high) : (s.written block n true).state.Uniform high := by
  refine ⟨?_, uniform.limits, uniform.wide⟩
  have contains : Bounds.Contains ⟨0, high⟩ n := range
  have size : (s.value.set block n).length = s.limits.length := by
    rw [List.length_set, uniform.size]
  have clamped := inside_clampFields (ordered_of_inside uniform.inside) size
  rw [clampFields_set (uniform.bounds there), clampFields_of_inside uniform.inside,
    Bounds.clamp_of_contains contains] at clamped
  exact clamped

theorem Uniform.carries (uniform : s.Uniform high) (style : s.style = .block marked overwrite true)
    (there : marked < s.limits.length) (mode : HourMode) : s.Carries mode high marked overwrite := by
  have wide := uniform.wide
  have bounds := uniform.bounds there
  have old := uniform.field_range there
  constructor
  case replaced =>
    rintro rfl a digit entered
    have small := Action.digit?_le_nine entered
    rw [handle_overwriting style mode entered]
    exact uniform.writeBlock there (by omega)
  case extended =>
    rintro rfl a digit entered below
    rw [Int.mul_comm] at below ⊢
    rw [handle_of_digitTarget style mode entered (digitTarget_of_le bounds below)]
    exact uniform.writeBlock there (by omega)
  case carried =>
    rintro rfl a digit entered above next
    have small := Action.digit?_le_nine entered
    rw [Int.mul_comm] at above
    have goes := digitTarget_extending bounds true digit
    rw [if_pos ⟨rfl, above, next⟩] at goes
    rw [handle_of_digitTarget style mode entered goes]
    exact uniform.writeBlock next (by omega)
  case clamped =>
    rintro rfl a digit entered above last
    rw [Int.mul_comm] at above
    have goes := digitTarget_extending bounds true digit
    rw [if_neg (by omega)] at goes
    rw [handle_of_digitTarget style mode entered goes]
    exact writeBlock_of_above uniform.inside bounds (Int.le_trans old.1 old.2)
      (Int.le_trans old.1 old.2) above true

end Carrying

section Sharing

/-- The numbers that digits behind a number are shared out into: it takes digits as long as it stays within
the bound, and the digit that does not fit begins the next one. -/
def numbers (high : Int) : Int → List Nat → List Int
  | n, [] => [n]
  | n, digit :: digits =>
    if 10 * n + digit ≤ high then numbers high (10 * n + digit) digits
    else n :: numbers high digit digits

/-- Fields into which numbers were put, one after the other from a place on. -/
def withNumbers (place : Nat) (ns fields : List Int) : List Int :=
  fields.take place ++ ns ++ fields.drop (place + ns.length)

variable {fields ns : List Int} {place : Nat}

theorem numbers_ne_nil (high n : Int) (digits : List Nat) : numbers high n digits ≠ [] := by
  induction digits generalizing n with
  | nil => exact List.cons_ne_nil _ _
  | cons digit digits ih =>
    rw [numbers]
    split
    · exact ih _
    · exact List.cons_ne_nil _ _

/-- The number that digits behind another one make. -/
def appended (n : Int) (digits : List Nat) : Int := digits.foldl (fun n digit => 10 * n + digit) n

/-- No digit is lost: the digits are cut into groups, of which the first one extends the number in front
and each other one makes a number of its own. -/
theorem exists_groups (high n : Int) (digits : List Nat) :
    ∃ (own : List Nat) (others : List (List Nat)), own ++ others.flatten = digits ∧
      (∀ group ∈ others, group ≠ []) ∧
      numbers high n digits = appended n own :: others.map (appended 0) := by
  induction digits generalizing n with
  | nil => exact ⟨[], [], rfl, nofun, rfl⟩
  | cons digit digits ih =>
    rw [numbers]
    split
    · obtain ⟨own, others, all, proper, shared⟩ := ih (10 * n + digit)
      exact ⟨digit :: own, others, congrArg (digit :: ·) all, proper, shared⟩
    · obtain ⟨own, others, all, proper, shared⟩ := ih digit
      refine ⟨[], (digit :: own) :: others, congrArg (digit :: ·) all, ?_, ?_⟩
      · exact List.forall_mem_cons.mpr ⟨List.cons_ne_nil _ _, proper⟩
      · rw [shared, List.map_cons]
        simp [appended]

theorem withNumbers_singleton (inside : place < fields.length) (n : Int) :
    withNumbers place [n] fields = fields.set place n := by
  rw [List.set_eq_take_append_cons_drop, if_pos inside]
  simp [withNumbers]

/-- What a field held does not matter if a number is put into it. -/
theorem withNumbers_set (proper : ns ≠ []) (n : Int) :
    withNumbers place ns (fields.set place n) = withNumbers place ns fields := by
  have positive := List.length_pos_iff.mpr proper
  rw [withNumbers, List.take_set_of_le (Nat.le_refl _), List.drop_set_of_lt (by omega), withNumbers]

/-- The number in front of others. -/
theorem withNumbers_succ_set (inside : place < fields.length) (n : Int) :
    withNumbers (place + 1) ns (fields.set place n) = withNumbers place (n :: ns) fields := by
  have front : (fields.set place n).take (place + 1) = fields.take place ++ [n] := by
    rw [List.take_add_one, List.take_set_of_le (Nat.le_refl _), List.getElem?_set_self inside]
    rfl
  have back : place + 1 + ns.length = place + (n :: ns).length := by
    rw [List.length_cons]
    omega
  rw [withNumbers, front, List.drop_set_of_lt (by omega), back, withNumbers]
  simp

/-- A key behind a number that was put into a field extends that number, or begins the one of the next
field. -/
theorem Uniform.handle_written (uniform : s.Uniform high) (there : block < s.limits.length) {n : Int}
    (range : 0 ≤ n ∧ n ≤ high) (mode : HourMode) (entered : a.digit? = some digit)
    (room : high < 10 * n + digit → block + 1 < s.limits.length) :
    (s.written block n true).state.handle mode a =
      if 10 * n + digit ≤ high then (s.written block n true).state.written block (10 * n + digit) true
      else (s.written block n true).state.written (block + 1) digit true := by
  have uniform' := uniform.written there range
  by_cases full : s.Fills block n
  · have above : high < 10 * n + digit := by
      obtain ⟨m, rfl⟩ := Int.eq_ofNat_of_zero_le range.1
      have larger : ¬10 * (m : Int) ≤ high := fun less =>
        not_fills_of_room (uniform.bounds there) uniform.wide less full
      omega
    have next := room above
    have style : (s.written block n true).state.style = .block (block + 1) true true := by
      rw [Sequence.written, if_pos ⟨full, next⟩, decide_eq_true full]
      rfl
    rw [if_neg (by omega), (uniform'.carries style next mode).replaced rfl a digit entered]
  · have style : (s.written block n true).state.style = .block block false true := by
      rw [Sequence.written, if_neg fun both => full both.1, decide_eq_false full]
      rfl
    have held : (s.written block n true).state.field block = n :=
      field_withField (uniform.size ▸ there) n
    have carries := uniform'.carries style there mode
    by_cases below : 10 * n + digit ≤ high
    · rw [if_pos below, carries.extended rfl a digit entered (held.symm ▸ below), held]
    · rw [if_neg below]
      exact carries.carried rfl a digit entered (by rw [held]; omega) (room (by omega))

/-- The digits behind a number that was put into a field are shared out into it and the next fields. -/
theorem Uniform.value_handleAll_written (uniform : s.Uniform high) (there : block < s.limits.length)
    {n : Int} (range : 0 ≤ n ∧ n ≤ high) (mode : HourMode) {keys : List Action} {digits : List Nat}
    (enters : keys.map Action.digit? = digits.map some)
    (room : block + (numbers high n digits).length ≤ s.limits.length) :
    ((s.written block n true).state.handleAll mode keys).1.value =
      withNumbers block (numbers high n digits) s.value := by
  have size : block < s.value.length := uniform.size ▸ there
  induction digits generalizing s block n keys with
  | nil =>
    obtain rfl := List.map_eq_nil_iff.mp enters
    exact (withNumbers_singleton size n).symm
  | cons digit digits ih =>
    obtain ⟨a, rest, rfl, entered, enters⟩ := List.map_eq_cons_iff.mp enters
    have uniform' := uniform.written there range
    have small := Action.digit?_le_nine entered
    have wide := uniform.wide
    rw [numbers] at room ⊢
    by_cases fits : 10 * n + digit ≤ high
    · rw [if_pos fits] at room ⊢
      have first := uniform.handle_written there range mode entered (by omega)
      rw [if_pos fits] at first
      rw [handleAll, first]
      have shared := ih uniform' there (by omega) enters room (uniform'.size.symm ▸ there)
      exact shared.trans (withNumbers_set (numbers_ne_nil _ _ _) n)
    · rw [if_neg fits] at room ⊢
      rw [List.length_cons] at room
      have proper := List.length_pos_iff.mpr (numbers_ne_nil high digit digits)
      have next : block + 1 < s.limits.length := by omega
      have space : block + 1 + (numbers high digit digits).length ≤ s.limits.length := by omega
      have first := uniform.handle_written there range mode entered fun _ => next
      rw [if_neg fits] at first
      rw [handleAll, first]
      have small' : 0 ≤ (digit : Int) ∧ (digit : Int) ≤ high := by omega
      have shared := ih uniform' next small' enters space (uniform'.size.symm ▸ next)
      exact shared.trans (withNumbers_succ_set size n)

/-- Digits are shared out into the marked field and the next ones, as long as there are fields for
them. They extend what the marked field holds, or replace it. -/
theorem Uniform.value_handleAll (uniform : s.Uniform high) (style : s.style = .block marked overwrite true)
    (there : marked < s.limits.length) (mode : HourMode) {keys : List Action} {digits : List Nat}
    (enters : keys.map Action.digit? = digits.map some) (typed : digits ≠ [])
    (room : marked + (numbers high (if overwrite then 0 else s.field marked) digits).length ≤
      s.limits.length) :
    (s.handleAll mode keys).1.value =
      withNumbers marked (numbers high (if overwrite then 0 else s.field marked) digits) s.value := by
  have carries := uniform.carries style there mode
  have wide := uniform.wide
  have old := uniform.field_range there
  have size : marked < s.value.length := uniform.size ▸ there
  cases digits with
  | nil => exact absurd rfl typed
  | cons digit digits =>
    obtain ⟨a, rest, rfl, entered, enters⟩ := List.map_eq_cons_iff.mp enters
    have small := Action.digit?_le_nine entered
    rw [handleAll]
    cases overwrite with
    | true =>
      have fits : 10 * (0 : Int) + digit ≤ high := by omega
      rw [if_pos rfl, numbers, if_pos fits, Int.mul_zero, Int.zero_add] at room ⊢
      rw [carries.replaced rfl a digit entered]
      exact uniform.value_handleAll_written there (by omega) mode enters room
    | false =>
      rw [if_neg Bool.false_ne_true, numbers] at room ⊢
      by_cases fits : 10 * s.field marked + digit ≤ high
      · rw [if_pos fits] at room ⊢
        rw [carries.extended rfl a digit entered fits]
        exact uniform.value_handleAll_written there (by omega) mode enters room
      · rw [if_neg fits] at room ⊢
        rw [List.length_cons] at room
        have proper := List.length_pos_iff.mpr (numbers_ne_nil high digit digits)
        have next : marked + 1 < s.limits.length := by omega
        have space : marked + 1 + (numbers high digit digits).length ≤ s.limits.length := by omega
        have kept : s.value.set marked (s.field marked) = s.value := by
          simp [field, size]
        rw [carries.carried rfl a digit entered (by omega) next,
          uniform.value_handleAll_written next (by omega) mode enters space,
          ← withNumbers_succ_set size (s.field marked), kept]

end Sharing

/-- An address that jumps is one of the internet or of the control bus, whose fields are all alike. -/
theorem Address.exists_limits (address : s.Address) (jumps : s.style = .block 0 true true) :
    ∃ high, 10 ≤ high ∧ s.limits = List.replicate 4 ⟨0, high⟩ := by
  induction address with
  | ip default autoJump => exact ⟨255, by decide, rfl⟩
  | cecAddress default autoJump => exact ⟨15, by decide, rfl⟩
  | mac default => cases jumps
  | censored censor s _ limits => exact limits jumps

end Settings.Sequence
