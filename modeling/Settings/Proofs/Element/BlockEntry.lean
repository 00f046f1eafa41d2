import Settings.Proofs.Editor.BlockEntry
import Settings.Proofs.Element.Bounds

/-!
# Typing numbers into addresses

Whatever was done to an address that a host made, a number within the bounds of a field can be typed
over what the field holds, once the cursor has moved to it. The other fields stay, and the cursor goes on
exactly if the number fills its field. Zeros in front of a number do not matter where a field can be zero.
In a hardware address none can: there a first zero becomes a one, and the number comes out behind it.

* `number_entered`: the digits of a number.
* `zeros_entered`: zeros and the digits of a number.
-/
namespace Settings.Element

open Sequence (target? macLimits)

variable {s : Sequence}

/-- An address is edited in blocks, whatever is done to it. -/
theorem address_run (address : s.Address) (ops : List Operation) :
    ∃ s' marked overwrite autoJump, (run ops (ofKind (.sequence s))).result.kind = .sequence s' ∧
      s'.style = .block marked overwrite autoJump ∧ s'.limits = s.limits ∧ s'.Steady := by
  obtain ⟨s', reached, moves⟩ := moves_run s ops
  obtain ⟨autoJump, manner⟩ := address.exists_manner
  obtain ⟨marked, overwrite, style⟩ := Sequence.exists_style_of_manner (moves.manner.trans manner)
  exact ⟨s', marked, overwrite, autoJump, reached, style, moves.follows.setup.limits,
    address.made.steady.moves moves⟩

/-- Wherever a move leads, the digits of a number within the bounds of that field enter it. -/
theorem number_entered (address : s.Address) (ops : List Operation) (mode : HourMode) :
    ∃ s' marked overwrite autoJump, (run ops (ofKind (.sequence s))).result.kind = .sequence s' ∧
      s'.style = .block marked overwrite autoJump ∧
      ∀ move block, target? marked (s.limits.length - 1) move = some block →
        ∃ b, s.limits[block]? = some b ∧
          ∀ (n : Int) (keys : List Action), b.Contains n → Action.Enters keys (Numeral.chars n) →
            (s'.handle mode move).state.handleAll mode keys =
              s'.entered block n autoJump keys.length := by
  obtain ⟨s', marked, overwrite, autoJump, reached, style, limits, steady⟩ := address_run address ops
  refine ⟨s', marked, overwrite, autoJump, reached, style, fun move block goes => ?_⟩
  have inside : block < s.limits.length :=
    Sequence.target?_lt (limits ▸ steady.cursor.block style) goes
  refine ⟨s.limits[block], List.getElem?_eq_getElem inside, fun n keys contains enters => ?_⟩
  obtain ⟨wide, low⟩ := address.bounds _ (List.getElem_mem inside)
  have small : 0 ≤ s.limits[block].low ∧ s.limits[block].low ≤ 1 := by
    rw [low]
    split <;> decide
  obtain ⟨n, rfl⟩ := contains.exists_nat small.1
  rw [Numeral.chars_natCast] at enters
  have digits : Action.Enters keys (Numeral.zeroed 0 n) := enters
  rw [← limits] at goes
  have bounds : s'.limits[block]? = some s.limits[block] := by
    rw [limits]
    exact List.getElem?_eq_getElem inside
  rw [Sequence.handle_move style mode goes,
    Sequence.handleAll_zeroed (s := s'.standing block true autoJump) steady.sound.value bounds wide rfl mode
      contains digits (.inr ⟨small.2, rfl⟩),
    Sequence.entered_standing]

/-- Octets are typed over an address whose editor jumped: one that leaves room in its field, and one that
fills the last field. -/
theorem number_entered_octets :
    ∃ s', (run typedOps (ofKind (.sequence (.ip [10, 0, 0, 1] true)))).result.kind = .sequence s' ∧
      (s'.handle .twelve .left).state.handleAll .twelve [.digit 1, .character '7'] =
        s'.entered 2 17 true 2 ∧
      (s'.handle .twelve .right).state.handleAll .twelve [.digit 2, .digit 5, .digit 5] =
        s'.entered 3 255 true 3 ∧
      (s'.entered 3 255 true 3).2 = [(true, none), (true, none), (true, some .finish)] := by
  obtain ⟨s', marked, overwrite, autoJump, reached, style, typed⟩ :=
    number_entered (.ip [10, 0, 0, 1] true) typedOps .twelve
  have there : s' = { Sequence.ip [10, 0, 0, 1] true with
      value := [255, 2, 0, 1], cursor := 8, style := .block 3 true true } :=
    Kind.sequence.inj (reached.symm.trans (by decide +kernel))
  subst there
  cases style
  obtain ⟨_, third, octet⟩ := typed .left 2 rfl
  obtain ⟨_, last, full⟩ := typed .right 3 rfl
  cases third
  cases last
  exact ⟨_, reached, octet 17 _ (by decide) (by decide), full 255 _ (by decide) (by decide), by decide⟩

/-- Zeros in front of a number do not matter where fields can be zero. In a hardware address the first
zero counts as a one, and the number comes out behind it if the field has room for both. -/
theorem zeros_entered (address : s.Address) (ops : List Operation) (mode : HourMode) :
    ∃ s', (run ops (ofKind (.sequence s))).result.kind = .sequence s' ∧
      ∀ block autoJump, s'.style = .block block true autoJump →
        ∀ (b : Bounds) (n zeros : Nat) (keys : List Action), s.limits[block]? = some b →
          b.Contains n → Action.Enters keys (Numeral.zeroed (zeros + 1) n) →
          (s.limits ≠ macLimits → s'.handleAll mode keys = s'.entered block n autoJump keys.length) ∧
          (s.limits = macLimits →
            s'.handleAll mode keys = s'.handleAll mode (.digit 1 :: keys.tail) ∧
            (keys.length ≤ 3 → s'.handleAll mode keys =
              s'.entered block (Nat.pow 10 (keys.length - 1) + n : Nat) autoJump keys.length)) := by
  obtain ⟨s', _, _, _, reached, _, limits, steady⟩ := address_run address ops
  refine ⟨s', reached, fun block autoJump style b n zeros keys bounds contains enters => ?_⟩
  have member := List.mem_of_getElem? bounds
  obtain ⟨wide, low⟩ := address.bounds b member
  rw [← limits] at bounds
  have inside := steady.sound.value
  constructor
  · intro other
    rw [if_neg other] at low
    exact Sequence.handleAll_zeroed inside bounds wide style mode contains enters
      (.inl (Int.le_of_eq low))
  · intro mac
    rw [if_pos mac] at low
    have high : 199 ≤ b.high := by
      have all : ∀ b ∈ macLimits, 199 ≤ b.high := by decide
      exact all b (mac ▸ member)
    obtain ⟨a, rest, rfl, zero, _⟩ := enters.exists_cons
    exact ⟨Sequence.handleAll_zero bounds low style mode zero rest,
      Sequence.handleAll_zeroed_one inside bounds low high style mode enters⟩

/-- Seven is typed with zeros in front of it into an address on the control bus, where it stays seven,
and into a hardware address, where it comes out as a hundred and seven. -/
theorem zeros_entered_seven :
    (∃ s', (run [.act .twelve .last] (ofKind (.sequence (.cecAddress [1, 2, 3, 4] true)))).result.kind =
        .sequence s' ∧
      s'.handleAll .twelve [.digit 0, .digit 0, .character '7'] = s'.entered 3 7 true 3) ∧
    ∃ s', (run [.act .twelve .right] (ofKind (.sequence (.mac [1, 2, 3, 4, 5, 6])))).result.kind =
        .sequence s' ∧
      s'.handleAll .twelve [.digit 0, .digit 0, .digit 7] = s'.entered 1 107 false 3 := by
  constructor
  · obtain ⟨s', reached, typed⟩ :=
      zeros_entered (.cecAddress [1, 2, 3, 4] true) [.act .twelve .last] .twelve
    have there : s' = { Sequence.cecAddress [1, 2, 3, 4] true with
        cursor := 6, style := .block 3 true true } :=
      Kind.sequence.inj (reached.symm.trans rfl)
    subst there
    obtain ⟨kept, _⟩ := typed 3 true rfl ⟨0, 15⟩ 7 1 [.digit 0, .digit 0, .character '7'] rfl
      (by decide) (by decide)
    exact ⟨_, reached, kept (by decide)⟩
  · obtain ⟨s', reached, typed⟩ :=
      zeros_entered (.mac [1, 2, 3, 4, 5, 6]) [.act .twelve .right] .twelve
    have there : s' = { Sequence.mac [1, 2, 3, 4, 5, 6] with
        cursor := 2, style := .block 1 true false } :=
      Kind.sequence.inj (reached.symm.trans rfl)
    subst there
    obtain ⟨_, mac⟩ := typed 1 false rfl ⟨1, 255⟩ 7 1 [.digit 0, .digit 0, .digit 7] rfl
      (by decide) (by decide)
    exact ⟨_, reached, (mac rfl).2 (by decide)⟩

/-- Five with a zero in front of it becomes fifteen in a hardware address. -/
theorem zero_counts_in_mac :
    ¬ ∀ (s s' : Sequence) (ops : List Operation) (mode : HourMode) (block : Nat) (autoJump : Bool)
      (b : Bounds) (n zeros : Nat) (keys : List Action), s.Address →
      (run ops (ofKind (.sequence s))).result.kind = .sequence s' →
      s'.style = .block block true autoJump → s.limits[block]? = some b → 1 ≤ n → b.Contains n →
      Action.Enters keys (List.replicate (zeros + 1) '0' ++ Numeral.digits n) →
      (s'.handleAll mode keys).1.value = s'.value.set block n := by
  intro harmless
  have five := harmless (.mac [1, 2, 3, 4, 5, 6]) _ [] .twelve 0 false ⟨1, 255⟩ 5 0
    [.digit 0, .digit 5] (.mac _) rfl rfl rfl (by decide) (by decide) (by decide)
  have fifteen : ((Sequence.mac [1, 2, 3, 4, 5, 6]).handleAll .twelve [.digit 0, .digit 5]).1.value =
      [15, 2, 3, 4, 5, 6] := by decide
  exact absurd (fifteen.symm.trans five) (by decide)

end Settings.Element
