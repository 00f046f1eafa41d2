import Settings.Value.Basic

/-!
# Equality of values

The host compares values as JSON does: doubles as numbers, so that the sign of a zero does not count, and
all else as it is. Two values are the same exactly if they are equal once no zero has a sign.

* `Value.same_iff`: the comparison of values.
-/
namespace Settings

namespace Double

/-- The number, without the sign of a zero. -/
def unsigned (d : Double) : Double := if d.isZero then ⟨0⟩ else d

theorem isZero_unsigned (d : Double) : d.unsigned.isZero = d.isZero := by
  unfold unsigned
  split
  · next zero =>
    rw [zero]
    decide
  · rfl

/-- Finite numbers are compared without the signs of zeros. -/
theorem same_iff {a b : Double} (finite : b.isFinite = true) :
    a.same b = true ↔ a.unsigned = b.unsigned := by
  simp only [same, Bool.or_eq_true, Bool.and_eq_true, beq_iff_eq]
  constructor
  · rintro (⟨left, right⟩ | ⟨same, -⟩)
    · rw [unsigned, unsigned, if_pos left, if_pos right]
    · rw [same]
  · intro same
    have zeros : a.isZero = b.isZero := by
      rw [← isZero_unsigned a, same, isZero_unsigned]
    cases zero : b.isZero with
    | true => exact .inl ⟨zeros.trans zero, rfl⟩
    | false =>
      have equal : a = b := by
        simpa [unsigned, zeros.trans zero, zero] using same
      exact .inr ⟨equal, .inl (equal ▸ finite)⟩

end Double

namespace Value

mutual
/-- The value, all zeros inside without a sign. -/
def unsigned : Value → Value
  | .real x => .real x.unsigned
  | .list items => .list (unsignedItems items)
  | .object entries => .object (unsignedEntries entries)
  | v => v

def unsignedItems : List Value → List Value
  | [] => []
  | item :: rest => item.unsigned :: unsignedItems rest

def unsignedEntries : List (String × Value) → List (String × Value)
  | [] => []
  | (key, value) :: rest => (key, value.unsigned) :: unsignedEntries rest
end

mutual
/-- Every double inside is a finite number; JSON has no others. -/
def IsJson : Value → Prop
  | .null | .bool _ | .int _ | .text _ => True
  | .real x => x.isFinite = true
  | .list items => AreJson items
  | .object entries => EntriesAreJson entries

def AreJson : List Value → Prop
  | [] => True
  | item :: rest => item.IsJson ∧ AreJson rest

def EntriesAreJson : List (String × Value) → Prop
  | [] => True
  | (_, value) :: rest => value.IsJson ∧ EntriesAreJson rest
end

mutual
/-- Values are the same if they are equal but for the signs of zeros. -/
theorem same_iff : ∀ {v w : Value}, w.IsJson → (v.same w = true ↔ v.unsigned = w.unsigned)
  | .list xs, .list ys, json => by
    rw [same, unsigned, unsigned, Value.list.injEq]
    exact sameItems_iff (by rwa [IsJson] at json)
  | .object xs, .object ys, json => by
    rw [same, unsigned, unsigned, Value.object.injEq]
    exact sameEntries_iff (by rwa [IsJson] at json)
  | .real x, .real y, json => by
    rw [IsJson] at json
    simp [same, sameReal, unsigned, Double.same_iff json]
  -- From here on nothing has parts, so the values are compared at once.
  | .null, w, _ => by cases w <;> simp [same, sameReal, unsigned]
  | .bool x, w, _ => by cases w <;> simp [same, sameReal, unsigned]
  | .int x, w, _ => by cases w <;> simp [same, sameReal, unsigned]
  | .text x, w, _ => by cases w <;> simp [same, sameReal, unsigned]
  | .real x, .null, _ | .real x, .bool _, _ | .real x, .int _, _ | .real x, .text _, _
  | .real x, .list _, _ | .real x, .object _, _ => by simp [same, sameReal, unsigned]
  | .list xs, .null, _ | .list xs, .bool _, _ | .list xs, .int _, _ | .list xs, .text _, _
  | .list xs, .real _, _ | .list xs, .object _, _ => by simp [same, sameReal, unsigned]
  | .object xs, .null, _ | .object xs, .bool _, _ | .object xs, .int _, _ | .object xs, .text _, _
  | .object xs, .real _, _ | .object xs, .list _, _ => by simp [same, sameReal, unsigned]

theorem sameItems_iff : ∀ {xs ys : List Value}, AreJson ys →
    (sameItems xs ys = true ↔ unsignedItems xs = unsignedItems ys)
  | [], [], _ => by simp [sameItems]
  | [], _ :: _, _ | _ :: _, [], _ => by simp [sameItems, unsignedItems]
  | x :: xs, y :: ys, json => by
    rw [AreJson] at json
    simp [sameItems, unsignedItems, same_iff json.1, sameItems_iff json.2]

theorem sameEntries_iff : ∀ {xs ys : List (String × Value)}, EntriesAreJson ys →
    (sameEntries xs ys = true ↔ unsignedEntries xs = unsignedEntries ys)
  | [], [], _ => by simp [sameEntries]
  | [], _ :: _, _ | _ :: _, [], _ => by simp [sameEntries, unsignedEntries]
  | (j, x) :: xs, (k, y) :: ys, json => by
    rw [EntriesAreJson] at json
    simp [sameEntries, unsignedEntries, same_iff json.1, sameEntries_iff json.2, and_assoc]
end

end Value

end Settings
