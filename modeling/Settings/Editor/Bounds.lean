/-!
# Bounds

The least and the greatest number that a field may hold. Numbers outside are moved to the nearer
bound, never refused.
-/
namespace Settings

structure Bounds where
  low : Int
  high : Int
  deriving DecidableEq, Repr

namespace Bounds

def clamp (b : Bounds) (n : Int) : Int := max b.low (min n b.high)

def Ordered (b : Bounds) : Prop := b.low ≤ b.high

instance (b : Bounds) : Decidable b.Ordered := inferInstanceAs (Decidable (b.low ≤ b.high))

def Contains (b : Bounds) (n : Int) : Prop := b.low ≤ n ∧ n ≤ b.high

instance (b : Bounds) (n : Int) : Decidable (b.Contains n) :=
  inferInstanceAs (Decidable (b.low ≤ n ∧ n ≤ b.high))

theorem contains_clamp {b : Bounds} (h : b.Ordered) (n : Int) : b.Contains (b.clamp n) := by
  unfold Ordered at h
  unfold Contains clamp
  omega

theorem clamp_of_contains {b : Bounds} {n : Int} (h : b.Contains n) : b.clamp n = n := by
  unfold Contains at h
  unfold clamp
  omega

end Bounds

end Settings
