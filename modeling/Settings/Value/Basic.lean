import Settings.Decimal.Double
import Settings.Keyed
import Settings.Numeral

/-!
# Values

The dynamic values that a host hands to elements and gets back from them: the values of JSON. A whole
number is exact; a number written with a fraction is a double and never a whole number. The entries
of an object are in the order of their keys.
-/
namespace Settings

inductive Value where
  | null
  | bool (b : Bool)
  | int (n : Int)
  | real (x : Double)
  | text (s : String)
  | list (items : List Value)
  | object (entries : List (String × Value))
  deriving Inhabited, Repr

namespace Value

mutual
def decEq : (a b : Value) → Decidable (a = b)
  | .null, .null => .isTrue rfl
  | .bool x, .bool y =>
    if h : x = y then .isTrue (by rw [h]) else .isFalse fun e => h (by cases e; rfl)
  | .int x, .int y =>
    if h : x = y then .isTrue (by rw [h]) else .isFalse fun e => h (by cases e; rfl)
  | .real x, .real y =>
    if h : x = y then .isTrue (by rw [h]) else .isFalse fun e => h (by cases e; rfl)
  | .text x, .text y =>
    if h : x = y then .isTrue (by rw [h]) else .isFalse fun e => h (by cases e; rfl)
  | .list xs, .list ys =>
    match decEqItems xs ys with
    | .isTrue h => .isTrue (by rw [h])
    | .isFalse h => .isFalse fun e => h (by cases e; rfl)
  | .object xs, .object ys =>
    match decEqEntries xs ys with
    | .isTrue h => .isTrue (by rw [h])
    | .isFalse h => .isFalse fun e => h (by cases e; rfl)
  | .null, .bool _ | .null, .int _ | .null, .real _ | .null, .text _ | .null, .list _
  | .null, .object _ | .bool _, .null | .bool _, .int _ | .bool _, .real _ | .bool _, .text _
  | .bool _, .list _ | .bool _, .object _ | .int _, .null | .int _, .bool _ | .int _, .real _
  | .int _, .text _ | .int _, .list _ | .int _, .object _ | .real _, .null | .real _, .bool _
  | .real _, .int _ | .real _, .text _ | .real _, .list _ | .real _, .object _ | .text _, .null
  | .text _, .bool _ | .text _, .int _ | .text _, .real _ | .text _, .list _
  | .text _, .object _ | .list _, .null | .list _, .bool _ | .list _, .int _ | .list _, .real _
  | .list _, .text _ | .list _, .object _ | .object _, .null | .object _, .bool _
  | .object _, .int _ | .object _, .real _ | .object _, .text _ | .object _, .list _ =>
    .isFalse (by intro e; cases e)

def decEqItems : (xs ys : List Value) → Decidable (xs = ys)
  | [], [] => .isTrue rfl
  | [], _ :: _ | _ :: _, [] => .isFalse (by intro e; cases e)
  | x :: xs, y :: ys =>
    match decEq x y, decEqItems xs ys with
    | .isTrue h, .isTrue k => .isTrue (by rw [h, k])
    | .isFalse h, _ => .isFalse fun e => h (by cases e; rfl)
    | _, .isFalse k => .isFalse fun e => k (by cases e; rfl)

def decEqEntries : (xs ys : List (String × Value)) → Decidable (xs = ys)
  | [], [] => .isTrue rfl
  | [], _ :: _ | _ :: _, [] => .isFalse (by intro e; cases e)
  | (j, x) :: xs, (k, y) :: ys =>
    if hk : j = k then
      match decEq x y, decEqEntries xs ys with
      | .isTrue h, .isTrue h' => .isTrue (by rw [hk, h, h'])
      | .isFalse h, _ => .isFalse fun e => h (by cases e; rfl)
      | _, .isFalse h => .isFalse fun e => h (by cases e; rfl)
    else .isFalse fun e => hk (by cases e; rfl)
end

instance : DecidableEq Value := decEq

/-- Two doubles are the same as numbers. -/
def sameReal : Value → Value → Bool
  | .real x, .real y => x.same y
  | a, b => a == b

mutual
/-- Equality with doubles compared as numbers: the two zeros do not differ. -/
def same : Value → Value → Bool
  | .list xs, .list ys => sameItems xs ys
  | .object xs, .object ys => sameEntries xs ys
  | a, b => sameReal a b

def sameItems : List Value → List Value → Bool
  | [], [] => true
  | x :: xs, y :: ys => same x y && sameItems xs ys
  | _, _ => false

def sameEntries : List (String × Value) → List (String × Value) → Bool
  | [], [] => true
  | (j, x) :: xs, (k, y) :: ys => j == k && same x y && sameEntries xs ys
  | _, _ => false
end

def bool? : Value → Option Bool
  | .bool b => some b
  | _ => none

def text? : Value → Option String
  | .text s => some s
  | _ => none

/-- A whole number of 64 bits. -/
def int64? : Value → Option Int
  | .int n => if Numeral.InRange n then some n else none
  | _ => none

theorem int64?_int {n : Int} (inRange : Numeral.InRange n) : (Value.int n).int64? = some n :=
  if_pos inRange

def ofInts (ns : List Int) : Value := .list (ns.map .int)

def ofStrings (items : List String) : Value := .list (items.map .text)

end Value

end Settings
