/-!
# Classes of characters

A class of characters is given by the first and last code points of its runs.
-/
namespace Settings.Text

def inRanges (ranges : List (Nat × Nat)) (c : Char) : Bool :=
  ranges.any fun r => r.1 ≤ c.toNat && c.toNat ≤ r.2

end Settings.Text
