/-!
# Keyed entries

Association lists from strings to values. `insert` keeps the entries in strictly increasing order of
their keys (code point by code point), which is the order in which every keyed collection of the
library is walked, written and compared. Two sorted lists with the same look-ups are the same list.
-/
namespace Settings.Keyed

variable {α β : Type}

/-- The value at `key`. -/
def get? (key : String) : List (String × α) → Option α
  | [] => none
  | (k, v) :: rest => if key = k then some v else get? key rest

/-- Puts `value` at `key`, over any value that is there, before the first larger key. -/
def insert (key : String) (value : α) : List (String × α) → List (String × α)
  | [] => [(key, value)]
  | (k, v) :: rest =>
    if key < k then (key, value) :: (k, v) :: rest
    else if key = k then (key, value) :: rest
    else (k, v) :: insert key value rest

/-- Puts `value` in the place of the value at `key`, or behind all entries if there is none. -/
def assign (key : String) (value : α) : List (String × α) → List (String × α)
  | [] => [(key, value)]
  | (k, v) :: rest =>
    if key = k then (key, value) :: rest else (k, v) :: assign key value rest

/-- Drops the entry at `key`. -/
def erase (key : String) : List (String × α) → List (String × α)
  | [] => []
  | (k, v) :: rest => if key = k then rest else (k, v) :: erase key rest

def keys (entries : List (String × α)) : List String :=
  entries.map Prod.fst

def contains (key : String) (entries : List (String × α)) : Bool :=
  (get? key entries).isSome

/-- The keys increase strictly; so each occurs once. -/
def Sorted (entries : List (String × α)) : Prop :=
  (keys entries).Pairwise (· < ·)

instance (entries : List (String × α)) : Decidable (Sorted entries) :=
  inferInstanceAs (Decidable ((keys entries).Pairwise (· < ·)))

/-- Later pairs win over earlier ones with the same key. -/
def ofList (pairs : List (String × α)) : List (String × α) :=
  pairs.foldl (fun entries p => insert p.1 p.2 entries) []

def mapValues (f : α → β) (entries : List (String × α)) : List (String × β) :=
  entries.map fun p => (p.1, f p.2)

@[simp] theorem get?_nil (key : String) : get? key ([] : List (String × α)) = none := rfl

theorem get?_insert_self (key : String) (value : α) (entries : List (String × α)) :
    get? key (insert key value entries) = some value := by
  induction entries with
  | nil => simp [insert, get?]
  | cons p rest ih =>
    obtain ⟨k, v⟩ := p
    simp only [insert]
    split
    · simp [get?]
    · split
      · simp [get?]
      · next hne => simp [get?, hne, ih]

theorem get?_insert_of_ne {key other : String} (h : other ≠ key) (value : α)
    (entries : List (String × α)) :
    get? other (insert key value entries) = get? other entries := by
  induction entries with
  | nil => simp [insert, get?, h]
  | cons p rest ih =>
    obtain ⟨k, v⟩ := p
    simp only [insert]
    split
    · simp [get?, h]
    · split
      · next heq => subst heq; simp [get?, h]
      · simp only [get?, ih]

theorem get?_assign_self (key : String) (value : α) (entries : List (String × α)) :
    get? key (assign key value entries) = some value := by
  induction entries with
  | nil => simp [assign, get?]
  | cons p rest ih =>
    obtain ⟨k, v⟩ := p
    simp only [assign]
    split
    · simp [get?]
    · next hne => simp [get?, hne, ih]

theorem get?_assign_of_ne {key other : String} (h : other ≠ key) (value : α)
    (entries : List (String × α)) :
    get? other (assign key value entries) = get? other entries := by
  induction entries with
  | nil => simp [assign, get?, h]
  | cons p rest ih =>
    obtain ⟨k, v⟩ := p
    simp only [assign]
    split
    · next heq => subst heq; simp [get?, h]
    · simp only [get?, ih]

theorem get?_erase_of_ne {key other : String} (h : other ≠ key) (entries : List (String × α)) :
    get? other (erase key entries) = get? other entries := by
  induction entries with
  | nil => rfl
  | cons p rest ih =>
    obtain ⟨k, v⟩ := p
    simp only [erase]
    split
    · next heq => subst heq; simp [get?, h]
    · simp only [get?, ih]

end Settings.Keyed
