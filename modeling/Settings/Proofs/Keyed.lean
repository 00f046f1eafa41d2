import Settings.Keyed

/-!
# Look-ups in keyed entries

Every operation on keyed entries is determined by what it does to the look-ups. Entries with distinct
keys are found where they stand, and sorted entries with the same look-ups are the same list.
-/
namespace Settings.Keyed

variable {α β : Type}

theorem get?_cons (key k : String) (v : α) (rest : List (String × α)) :
    get? key ((k, v) :: rest) = if key = k then some v else get? key rest := rfl

theorem mem_of_get? {key : String} {value : α} {entries : List (String × α)}
    (found : get? key entries = some value) : (key, value) ∈ entries := by
  induction entries with
  | nil => cases found
  | cons p rest ih =>
    obtain ⟨k, v⟩ := p
    rw [get?_cons] at found
    split at found
    · next same =>
      cases found
      simp [same]
    · exact List.mem_cons_of_mem _ (ih found)

theorem get?_eq_none_iff {key : String} {entries : List (String × α)} :
    get? key entries = none ↔ key ∉ keys entries := by
  induction entries with
  | nil => simp [keys]
  | cons p rest ih =>
    obtain ⟨k, v⟩ := p
    rw [get?_cons]
    by_cases same : key = k
    · simp [same, keys]
    · simp only [same, ite_false, ih, keys, List.map_cons, List.mem_cons, false_or]

theorem mem_keys_of_get? {key : String} {value : α} {entries : List (String × α)}
    (found : get? key entries = some value) : key ∈ keys entries :=
  List.mem_map.mpr ⟨_, mem_of_get? found, rfl⟩

/-- Entries with distinct keys are found where they stand. -/
theorem get?_of_mem {key : String} {value : α} {entries : List (String × α)}
    (distinct : (keys entries).Nodup) (member : (key, value) ∈ entries) :
    get? key entries = some value := by
  induction entries with
  | nil => cases member
  | cons p rest ih =>
    obtain ⟨k, v⟩ := p
    obtain ⟨fresh, tail⟩ := List.nodup_cons.mp distinct
    rw [get?_cons]
    rcases List.mem_cons.mp member with same | below
    · cases same
      simp
    · have here : key ∈ rest.map Prod.fst := List.mem_map.mpr ⟨_, below, rfl⟩
      have different : key ≠ k := fun same => fresh (same ▸ here)
      rw [if_neg different]
      exact ih tail below

theorem get?_insert (key other : String) (value : α) (entries : List (String × α)) :
    get? other (insert key value entries) = if other = key then some value else get? other entries := by
  by_cases same : other = key
  · rw [same, if_pos rfl, get?_insert_self]
  · rw [if_neg same, get?_insert_of_ne same]

theorem get?_assign (key other : String) (value : α) (entries : List (String × α)) :
    get? other (assign key value entries) = if other = key then some value else get? other entries := by
  by_cases same : other = key
  · rw [same, if_pos rfl, get?_assign_self]
  · rw [if_neg same, get?_assign_of_ne same]

theorem get?_erase_self {key : String} {entries : List (String × α)}
    (distinct : (keys entries).Nodup) : get? key (erase key entries) = none := by
  induction entries with
  | nil => rfl
  | cons p rest ih =>
    obtain ⟨k, v⟩ := p
    obtain ⟨fresh, tail⟩ := List.nodup_cons.mp distinct
    by_cases same : key = k
    · rw [erase, if_pos same, same]
      exact get?_eq_none_iff.mpr fresh
    · rw [erase, if_neg same, get?_cons, if_neg same]
      exact ih tail

theorem get?_erase {entries : List (String × α)} (distinct : (keys entries).Nodup)
    (key other : String) :
    get? other (erase key entries) = if other = key then none else get? other entries := by
  by_cases same : other = key
  · rw [same, if_pos rfl, get?_erase_self distinct]
  · rw [if_neg same, get?_erase_of_ne same]

theorem mem_keys_insert {key other : String} {value : α} {entries : List (String × α)} :
    other ∈ keys (insert key value entries) ↔ other = key ∨ other ∈ keys entries := by
  by_cases same : other = key
  · simp only [same, true_or, iff_true]
    exact mem_keys_of_get? (get?_insert_self key value entries)
  · have absent : other ∉ keys (insert key value entries) ↔ other ∉ keys entries := by
      rw [← get?_eq_none_iff, ← get?_eq_none_iff, get?_insert_of_ne same]
    simp only [same, false_or]
    exact Decidable.not_iff_not.mp absent

theorem keys_erase (key : String) (entries : List (String × α)) :
    keys (erase key entries) = (keys entries).erase key := by
  induction entries with
  | nil => rfl
  | cons p rest ih =>
    obtain ⟨k, v⟩ := p
    by_cases same : key = k
    · simp [erase, keys, same]
    · have shift : (k == key) = false := by simpa using Ne.symm same
      rw [erase, if_neg same]
      simp only [keys, List.map_cons, List.erase_cons, shift] at ih ⊢
      simp [ih]

theorem keys_assign (key : String) (value : α) (entries : List (String × α)) :
    keys (assign key value entries) =
      if key ∈ keys entries then keys entries else keys entries ++ [key] := by
  induction entries with
  | nil => rfl
  | cons p rest ih =>
    obtain ⟨k, v⟩ := p
    by_cases same : key = k
    · simp [assign, keys, same]
    · rw [assign, if_neg same]
      simp only [keys, List.map_cons, List.mem_cons, same, false_or] at ih ⊢
      rw [ih]
      by_cases below : key ∈ rest.map Prod.fst <;> simp [below]

theorem Sorted.distinct {entries : List (String × α)} (sorted : Sorted entries) :
    (keys entries).Nodup := by
  refine List.Pairwise.imp ?_ sorted
  intro a b less same
  exact String.lt_irrefl b (same ▸ less)

theorem Sorted.tail {p : String × α} {rest : List (String × α)} (sorted : Sorted (p :: rest)) :
    Sorted rest :=
  (List.pairwise_cons.mp sorted).2

theorem Sorted.head_lt {k : String} {v : α} {rest : List (String × α)}
    (sorted : Sorted ((k, v) :: rest)) {key : String} (member : key ∈ keys rest) : k < key :=
  (List.pairwise_cons.mp sorted).1 key member

theorem sorted_nil : Sorted ([] : List (String × α)) := List.Pairwise.nil

theorem Sorted.insert {entries : List (String × α)} (sorted : Sorted entries) (key : String)
    (value : α) : Sorted (insert key value entries) := by
  induction entries with
  | nil => exact List.pairwise_singleton _ _
  | cons p rest ih =>
    obtain ⟨k, v⟩ := p
    simp only [Keyed.insert]
    split
    · next less =>
      refine List.pairwise_cons.mpr ⟨fun other member => ?_, sorted⟩
      rcases List.mem_cons.mp member with same | below
      · exact same ▸ less
      · exact String.lt_trans less (sorted.head_lt below)
    · next notLess =>
      split
      · next same =>
        subst same
        exact sorted
      · next different =>
        have greater : k < key := by
          apply Decidable.byContradiction
          intro notGreater
          exact different (String.le_antisymm (String.not_lt.mp notGreater) (String.not_lt.mp notLess))
        refine List.pairwise_cons.mpr ⟨fun other member => ?_, ih sorted.tail⟩
        rcases mem_keys_insert.mp member with same | below
        · exact same ▸ greater
        · exact sorted.head_lt below

theorem Sorted.erase {entries : List (String × α)} (sorted : Sorted entries) (key : String) :
    Sorted (erase key entries) := by
  unfold Sorted at sorted ⊢
  rw [keys_erase]
  exact sorted.sublist List.erase_sublist

/-- Sorted entries are determined by their look-ups. -/
theorem Sorted.ext {xs ys : List (String × α)} (left : Sorted xs) (right : Sorted ys)
    (same : ∀ key, get? key xs = get? key ys) : xs = ys := by
  induction xs generalizing ys with
  | nil =>
    cases ys with
    | nil => rfl
    | cons q _ => simpa [get?] using same q.1
  | cons p rest ih =>
    obtain ⟨k, v⟩ := p
    cases ys with
    | nil => simpa [get?] using same k
    | cons q others =>
      obtain ⟨j, w⟩ := q
      have keysAgree : k = j := by
        apply Decidable.byContradiction
        intro different
        have found : get? j rest = some w := by
          have := same j
          rwa [get?_cons, get?_cons, if_neg (Ne.symm different), if_pos rfl] at this
        have found' : get? k others = some v := by
          have := (same k).symm
          rwa [get?_cons, get?_cons, if_neg different, if_pos rfl] at this
        exact String.lt_asymm (left.head_lt (mem_keys_of_get? found))
          (right.head_lt (mem_keys_of_get? found'))
      subst keysAgree
      have valuesAgree : v = w := by simpa [get?] using same k
      subst valuesAgree
      rw [ih left.tail right.tail fun key => ?_]
      by_cases equal : key = k
      · have absent := (List.nodup_cons.mp left.distinct).1
        have absent' := (List.nodup_cons.mp right.distinct).1
        rw [equal, get?_eq_none_iff.mpr absent, get?_eq_none_iff.mpr absent']
      · have := same key
        rwa [get?_cons, get?_cons, if_neg equal, if_neg equal] at this

section Rewriting

variable {entries : List (String × α)} {key : String} {value : α}

/-- Putting in what is there already changes nothing. -/
theorem Sorted.insert_of_get? (sorted : Sorted entries) (found : get? key entries = some value) :
    Keyed.insert key value entries = entries := by
  apply (sorted.insert key value).ext sorted
  intro other
  rw [get?_insert]
  by_cases same : other = key
  · rw [if_pos same, same, found]
  · rw [if_neg same]

/-- Of two values put in at one key the second stays. -/
theorem Sorted.insert_insert (sorted : Sorted entries) (key : String) (first second : α) :
    Keyed.insert key second (Keyed.insert key first entries) = Keyed.insert key second entries := by
  apply ((sorted.insert key first).insert key second).ext (sorted.insert key second)
  intro other
  by_cases same : other = key
  · simp [get?_insert, same]
  · simp [get?_insert, same]

/-- A value that is put in at a new key and dropped again leaves no trace. -/
theorem Sorted.erase_insert (sorted : Sorted entries) (absent : get? key entries = none)
    (value : α) : Keyed.erase key (Keyed.insert key value entries) = entries := by
  apply ((sorted.insert key value).erase key).ext sorted
  intro other
  rw [get?_erase (sorted.insert key value).distinct]
  by_cases same : other = key
  · rw [if_pos same, same, absent]
  · rw [if_neg same, get?_insert_of_ne same]

theorem erase_of_absent (absent : get? key entries = none) : erase key entries = entries := by
  induction entries with
  | nil => rfl
  | cons p rest ih =>
    obtain ⟨k, v⟩ := p
    rw [get?_cons] at absent
    split at absent
    · cases absent
    · next different => rw [erase, if_neg different, ih absent]

end Rewriting

theorem assign_of_get? {entries : List (String × α)} {key : String} {value : α}
    (found : get? key entries = some value) : assign key value entries = entries := by
  induction entries with
  | nil => cases found
  | cons p rest ih =>
    obtain ⟨k, v⟩ := p
    rw [get?_cons] at found
    split at found
    · next same =>
      cases found
      rw [assign, if_pos same, same]
    · next different => rw [assign, if_neg different, ih found]

theorem keys_map (f : String → α → β) (entries : List (String × α)) :
    keys (entries.map fun p => (p.1, f p.1 p.2)) = keys entries := by
  simp [keys]

theorem get?_map (f : String → α → β) (key : String) (entries : List (String × α)) :
    get? key (entries.map fun p => (p.1, f p.1 p.2)) = (get? key entries).map (f key) := by
  induction entries with
  | nil => rfl
  | cons p rest ih =>
    obtain ⟨k, v⟩ := p
    rw [List.map_cons, get?_cons, get?_cons, ih]
    split
    · next same => rw [same]; rfl
    · rfl

theorem get?_filter {entries : List (String × α)} (distinct : (keys entries).Nodup) (p : α → Bool)
    (key : String) : get? key (entries.filter fun q => p q.2) = (get? key entries).filter p := by
  induction entries with
  | nil => rfl
  | cons q rest ih =>
    obtain ⟨k, v⟩ := q
    obtain ⟨fresh, distinct⟩ := List.nodup_cons.mp distinct
    have below := ih distinct
    rw [List.filter_cons, get?_cons]
    by_cases same : key = k
    · -- A later entry at this key would come in, but there is none.
      rw [same, get?_eq_none_iff.mpr fresh] at below
      rw [if_pos same]
      split
      · next kept => simp [get?_cons, same, Option.filter, kept]
      · next dropped => simpa [same, Option.filter, dropped] using below
    · rw [if_neg same]
      split
      · rw [get?_cons, if_neg same, below]
      · exact below

theorem mem_of_mem_insert {key : String} {value : α} {entries : List (String × α)} {p : String × α}
    (member : p ∈ insert key value entries) : p = (key, value) ∨ p ∈ entries := by
  induction entries with
  | nil => exact .inl (List.mem_singleton.mp member)
  | cons q rest ih =>
    rw [insert] at member
    split at member
    · exact List.mem_cons.mp member
    · split at member
      · rcases List.mem_cons.mp member with here | there
        · exact .inl here
        · exact .inr (List.mem_cons_of_mem _ there)
      · rcases List.mem_cons.mp member with here | there
        · exact .inr (here ▸ List.mem_cons_self)
        · rcases ih there with new | old
          · exact .inl new
          · exact .inr (List.mem_cons_of_mem _ old)

theorem sorted_ofList (pairs : List (String × α)) : Sorted (ofList pairs) := by
  suffices fold : ∀ (pairs entries : List (String × α)), Sorted entries →
      Sorted (pairs.foldl (fun entries p => insert p.1 p.2 entries) entries) from
    fold pairs [] sorted_nil
  intro pairs
  induction pairs with
  | nil => exact fun entries sorted => sorted
  | cons p rest ih => exact fun entries sorted => ih _ (sorted.insert p.1 p.2)

theorem mem_of_mem_ofList {pairs : List (String × α)} {p : String × α} (member : p ∈ ofList pairs) :
    p ∈ pairs := by
  suffices fold : ∀ (pairs entries : List (String × α)),
      p ∈ pairs.foldl (fun entries p => insert p.1 p.2 entries) entries → p ∈ pairs ∨ p ∈ entries by
    rcases fold pairs [] member with inside | impossible
    · exact inside
    · cases impossible
  intro pairs
  induction pairs with
  | nil => exact fun entries inside => .inr inside
  | cons q rest ih =>
    intro entries inside
    rcases ih _ inside with later | earlier
    · exact .inl (List.mem_cons_of_mem _ later)
    · rcases mem_of_mem_insert earlier with new | old
      · exact .inl (new ▸ List.mem_cons_self)
      · exact .inr old

/-- The value of the last pair with a key. -/
def last? (key : String) : List (String × α) → Option α
  | [] => none
  | (k, v) :: rest => (last? key rest).or (if key = k then some v else none)

/-- Of several pairs with one key the last counts. -/
theorem get?_ofList (key : String) (pairs : List (String × α)) :
    get? key (ofList pairs) = last? key pairs := by
  suffices fold : ∀ (pairs entries : List (String × α)),
      get? key (pairs.foldl (fun entries p => insert p.1 p.2 entries) entries) =
        (last? key pairs).or (get? key entries) by
    rw [ofList, fold pairs [], get?_nil, Option.or_none]
  intro pairs
  induction pairs with
  | nil => exact fun _ => rfl
  | cons p rest ih =>
    intro entries
    rw [List.foldl_cons, ih, get?_insert, last?, Option.or_assoc]
    split <;> rfl

theorem last?_of_distinct {pairs : List (String × α)} (distinct : (keys pairs).Nodup) (key : String) :
    last? key pairs = get? key pairs := by
  induction pairs with
  | nil => rfl
  | cons p rest ih =>
    obtain ⟨fresh, distinct⟩ := List.nodup_cons.mp distinct
    rw [last?, ih distinct, get?_cons]
    by_cases same : key = p.1
    · rw [same, get?_eq_none_iff.mpr fresh, if_pos rfl]
      rfl
    · rw [if_neg same, if_neg same, Option.or_none]

/-- Sorted pairs stay as they are. -/
theorem ofList_of_sorted {pairs : List (String × α)} (sorted : Sorted pairs) :
    ofList pairs = pairs := by
  refine (sorted_ofList pairs).ext sorted fun key => ?_
  rw [get?_ofList, last?_of_distinct sorted.distinct]

end Settings.Keyed
