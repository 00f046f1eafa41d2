import Settings.Keyed

/-!
# Terms

The values that a single settings line can hold beyond plain text: strings, lists and maps, nested in
any way. A map is kept in the order of its keys, each key once (`Term.Canonical`).
-/
namespace Settings

inductive Term where
  | text (value : String)
  | list (items : List Term)
  | map (entries : List (String × Term))
  deriving Inhabited, Repr

namespace Term

/-- A list of plain strings. -/
def ofStrings (items : List String) : Term := .list (items.map .text)

def text? : Term → Option String
  | .text s => some s
  | _ => none

/-- The items of a list that holds strings only. -/
def strings? : Term → Option (List String)
  | .list items => items.mapM text?
  | _ => none

mutual
/-- Every map inside has strictly increasing keys. -/
def Canonical : Term → Prop
  | .text _ => True
  | .list items => CanonicalItems items
  | .map entries => Keyed.Sorted entries ∧ CanonicalEntries entries

def CanonicalItems : List Term → Prop
  | [] => True
  | item :: rest => item.Canonical ∧ CanonicalItems rest

def CanonicalEntries : List (String × Term) → Prop
  | [] => True
  | (_, value) :: rest => value.Canonical ∧ CanonicalEntries rest
end

mutual
/-- How deep lists and maps are nested; a string has depth zero. -/
def depth : Term → Nat
  | .text _ => 0
  | .list items => depthItems items + 1
  | .map entries => depthEntries entries + 1

def depthItems : List Term → Nat
  | [] => 0
  | item :: rest => max item.depth (depthItems rest)

def depthEntries : List (String × Term) → Nat
  | [] => 0
  | (_, value) :: rest => max value.depth (depthEntries rest)
end

mutual
def decEq : (a b : Term) → Decidable (a = b)
  | .text s, .text t =>
    if h : s = t then .isTrue (by rw [h]) else .isFalse fun e => h (by cases e; rfl)
  | .list xs, .list ys =>
    match decEqItems xs ys with
    | .isTrue h => .isTrue (by rw [h])
    | .isFalse h => .isFalse fun e => h (by cases e; rfl)
  | .map xs, .map ys =>
    match decEqEntries xs ys with
    | .isTrue h => .isTrue (by rw [h])
    | .isFalse h => .isFalse fun e => h (by cases e; rfl)
  | .text _, .list _ | .text _, .map _ | .list _, .text _
  | .list _, .map _ | .map _, .text _ | .map _, .list _ => .isFalse (by intro e; cases e)

def decEqItems : (xs ys : List Term) → Decidable (xs = ys)
  | [], [] => .isTrue rfl
  | [], _ :: _ | _ :: _, [] => .isFalse (by intro e; cases e)
  | x :: xs, y :: ys =>
    match decEq x y, decEqItems xs ys with
    | .isTrue h, .isTrue k => .isTrue (by rw [h, k])
    | .isFalse h, _ => .isFalse fun e => h (by cases e; rfl)
    | _, .isFalse k => .isFalse fun e => k (by cases e; rfl)

def decEqEntries : (xs ys : List (String × Term)) → Decidable (xs = ys)
  | [], [] => .isTrue rfl
  | [], _ :: _ | _ :: _, [] => .isFalse (by intro e; cases e)
  | (j, x) :: xs, (k, y) :: ys =>
    if hk : j = k then
      match decEq x y, decEqEntries xs ys with
      | .isTrue h, .isTrue h' => .isTrue (by rw [hk, h, h'])
      | .isFalse h, _ => .isFalse fun e => h (by cases e; rfl)
      | _, .isFalse h => .isFalse fun e => h (by cases e; rfl)
    else .isFalse fun e => hk (by cases e; rfl)
end

instance : DecidableEq Term := decEq

end Term

end Settings
