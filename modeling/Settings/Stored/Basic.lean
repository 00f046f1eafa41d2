import Settings.Keyed

/-!
# Stored maps

The persisted form of a settings tree: a leaf holds text, a level holds entries by key in increasing
order. Entries are addressed by paths, one key per level.

* `get?_insertAt_self`: what is put at a path is found there.
-/
namespace Settings

inductive Stored where
  | leaf (value : String)
  | level (entries : List (String × Stored))
  deriving Inhabited, Repr

/-- The entries of one level. -/
abbrev Level := List (String × Stored)

/-- The key of `name` below `above`. -/
def childKey (above name : String) : String :=
  above ++ "." ++ name

namespace Stored

def leaf? : Stored → Option String
  | .leaf value => some value
  | .level _ => none

def level? : Stored → Option Level
  | .leaf _ => none
  | .level entries => some entries

mutual
def decEq : (a b : Stored) → Decidable (a = b)
  | .leaf s, .leaf t =>
    if h : s = t then .isTrue (by rw [h]) else .isFalse fun e => h (by cases e; rfl)
  | .level xs, .level ys =>
    match decEqEntries xs ys with
    | .isTrue h => .isTrue (by rw [h])
    | .isFalse h => .isFalse fun e => h (by cases e; rfl)
  | .leaf _, .level _ | .level _, .leaf _ => .isFalse (by intro e; cases e)

def decEqEntries : (xs ys : List (String × Stored)) → Decidable (xs = ys)
  | [], [] => .isTrue rfl
  | [], _ :: _ | _ :: _, [] => .isFalse (by intro e; cases e)
  | (j, x) :: xs, (k, y) :: ys =>
    if hk : j = k then
      match decEq x y, decEqEntries xs ys with
      | .isTrue h, .isTrue h' => .isTrue (by rw [hk, h, h'])
      | .isFalse h, _ => .isFalse fun e => h (by cases e; rfl)
      | _, .isFalse h => .isFalse fun e => h (by cases e; rfl)
    else .isFalse fun e => hk (by cases e; rfl)
end

instance : DecidableEq Stored := decEq

mutual
/-- Every level inside has strictly increasing keys. -/
def Canonical : Stored → Prop
  | .leaf _ => True
  | .level entries => Keyed.Sorted entries ∧ CanonicalEntries entries

def CanonicalEntries : List (String × Stored) → Prop
  | [] => True
  | (_, entry) :: rest => entry.Canonical ∧ CanonicalEntries rest
end

end Stored

namespace Level

/-- The level that a path enters at an entry; a leaf or nothing counts as an empty one. -/
def below : Option Stored → Level
  | some (.level entries) => entries
  | _ => []

/-- The entry at a path, leaf or level. The empty path names nothing. -/
def get? (entries : Level) : List String → Option Stored
  | [] => none
  | [key] => Keyed.get? key entries
  | key :: rest =>
    match Keyed.get? key entries with
    | some (.level inner) => get? inner rest
    | _ => none

/-- Puts an entry at a path. Levels that are missing on the way are made; a leaf on the way gives
way to a level. -/
def insertAt (entries : Level) : List String → Stored → Level
  | [], _ => entries
  | [key], entry => Keyed.insert key entry entries
  | key :: rest, entry =>
    Keyed.insert key (.level (insertAt (below (Keyed.get? key entries)) rest entry)) entries

/-- Takes the entry at a path out, and every level on the way that is empty afterwards. -/
def removeAt (entries : Level) : List String → Option Stored × Level
  | [] => (none, entries)
  | [key] => (Keyed.get? key entries, Keyed.erase key entries)
  | key :: rest =>
    match Keyed.get? key entries with
    | some (.level inner) =>
      let (removed, inner') := removeAt inner rest
      (removed,
        if inner'.isEmpty then Keyed.erase key entries
        else Keyed.insert key (.level inner') entries)
    | _ => (none, entries)

theorem get?_insertAt_self (entries : Level) (key : String) (rest : List String) (entry : Stored) :
    get? (insertAt entries (key :: rest) entry) (key :: rest) = some entry := by
  induction rest generalizing key entries with
  | nil => simp [insertAt, get?, Keyed.get?_insert_self]
  | cons next rest ih => simp [insertAt, get?, Keyed.get?_insert_self, ih]

end Level

end Settings
