import Settings.Editor.OptionTable
import Settings.Proofs.Blob

/-!
# Option tables

Names and options are kept in key order, whoever sets them, so a table comes back from its string form
as it was.

* `follows_prune`: dropping empty names keeps tables in order.
* `decode_encode`: the string form is read back.
-/
namespace Settings

namespace Value

mutual
/-- Every object inside has strictly increasing keys. -/
def Canonical : Value → Prop
  | .null | .bool _ | .int _ | .real _ | .text _ => True
  | .list items => CanonicalItems items
  | .object entries => Keyed.Sorted entries ∧ CanonicalEntries entries

def CanonicalItems : List Value → Prop
  | [] => True
  | item :: rest => item.Canonical ∧ CanonicalItems rest

def CanonicalEntries : List (String × Value) → Prop
  | [] => True
  | (_, value) :: rest => value.Canonical ∧ CanonicalEntries rest
end

theorem canonicalEntries_iff {entries : List (String × Value)} :
    CanonicalEntries entries ↔ ∀ p ∈ entries, p.2.Canonical := by
  induction entries with
  | nil => simp [CanonicalEntries]
  | cons p rest ih => simp [CanonicalEntries, ih]

end Value

namespace OptionTable

/-- Names and the options of each are in key order. -/
structure Ordered (options : Options) : Prop where
  names : Keyed.Sorted options
  inner : ∀ p ∈ options, Keyed.Sorted p.2

/-- The table and its default are in order. -/
structure Sound (t : OptionTable) : Prop where
  value : Ordered t.value
  default : Ordered t.default

/-- An edit that does not touch the default and keeps the table in order. -/
structure Follows (t t' : OptionTable) : Prop where
  default : t'.default = t.default
  value : t.Sound → Ordered t'.value

variable {t t' : OptionTable} {options : Options}

theorem Sound.follows (sound : t.Sound) (follows : Follows t t') : t'.Sound :=
  ⟨follows.value sound, follows.default ▸ sound.default⟩

theorem Follows.refl (t : OptionTable) : Follows t t := ⟨rfl, Sound.value⟩

theorem follows_reset (t : OptionTable) : Follows t t.reset := ⟨rfl, Sound.default⟩

theorem Ordered.get? (ordered : Ordered options) {name : String} {inner : List (String × String)}
    (found : Keyed.get? name options = some inner) : Keyed.Sorted inner :=
  ordered.inner _ (Keyed.mem_of_get? found)

theorem Ordered.insert (ordered : Ordered options) (name : String) {inner : List (String × String)}
    (sorted : Keyed.Sorted inner) : Ordered (Keyed.insert name inner options) := by
  refine ⟨ordered.names.insert name inner, fun p member => ?_⟩
  rcases Keyed.mem_of_mem_insert member with rfl | old
  · exact sorted
  · exact ordered.inner p old

theorem follows_set (name key value : String) (t : OptionTable) :
    Follows t (t.set name key value) := by
  refine ⟨rfl, fun sound => sound.value.insert name (Keyed.Sorted.insert ?_ key value)⟩
  cases found : Keyed.get? name t.value with
  | none => exact Keyed.sorted_nil
  | some inner => exact sound.value.get? found

theorem follows_remove (name key : String) (t : OptionTable) : Follows t (t.remove name key).1 := by
  unfold remove
  split
  · exact .refl t
  · next inner found =>
    exact ⟨rfl, fun sound => sound.value.insert name ((sound.value.get? found).erase key)⟩

/-- Names without options are dropped, the others stay in order. -/
theorem follows_prune (t : OptionTable) : Follows t t.prune := by
  refine ⟨rfl, fun sound => ⟨?_, fun p member => sound.value.inner p (List.mem_filter.mp member).1⟩⟩
  exact List.Pairwise.sublist (List.filter_sublist.map Prod.fst) sound.value.names

section Reading

variable {α β : Type} {value? : α → Option β} {entries : List (String × α)} {read : List (String × β)}

theorem keys_of_readEntries? (done : readEntries? value? entries = some read) :
    Keyed.keys read = Keyed.keys entries := by
  induction entries generalizing read with
  | nil => cases done; rfl
  | cons p rest ih =>
    obtain ⟨x, _, done⟩ := Option.bind_eq_some_iff.mp done
    obtain ⟨xs, others, done⟩ := Option.bind_eq_some_iff.mp done
    cases done
    exact congrArg (p.1 :: ·) (ih others)

theorem exists_of_mem_readEntries? (done : readEntries? value? entries = some read) {q : String × β}
    (member : q ∈ read) : ∃ p ∈ entries, value? p.2 = some q.2 := by
  induction entries generalizing read with
  | nil => cases done; cases member
  | cons p rest ih =>
    obtain ⟨x, first, done⟩ := Option.bind_eq_some_iff.mp done
    obtain ⟨xs, others, done⟩ := Option.bind_eq_some_iff.mp done
    cases done
    rcases List.mem_cons.mp member with rfl | later
    · exact ⟨p, List.mem_cons_self, first⟩
    · obtain ⟨p', inside, found⟩ := ih others later
      exact ⟨p', List.mem_cons_of_mem _ inside, found⟩

/-- Entries that are written one by one are read back one by one. -/
theorem readEntries?_mapValues {write : β → α} {items : List (String × β)}
    (reads : ∀ p ∈ items, value? (write p.2) = some p.2) :
    readEntries? value? (Keyed.mapValues write items) = some items := by
  induction items with
  | nil => rfl
  | cons p rest ih =>
    obtain ⟨first, others⟩ := List.forall_mem_cons.mp reads
    have step : readEntries? value? (Keyed.mapValues write (p :: rest)) =
      (value? (write p.2)).bind fun x =>
        (readEntries? value? (Keyed.mapValues write rest)).bind fun xs => some ((p.1, x) :: xs) := rfl
    rw [step, first, ih others]
    rfl

/-- Entries are read as those that are written as they are. -/
theorem readEntries?_eq_some_iff {write : β → α}
    (takes : ∀ v x, value? v = some x ↔ v = write x) :
    readEntries? value? entries = some read ↔ entries = Keyed.mapValues write read := by
  constructor
  · intro done
    induction entries generalizing read with
    | nil => cases done; rfl
    | cons p rest ih =>
      obtain ⟨x, first, done⟩ := Option.bind_eq_some_iff.mp done
      obtain ⟨xs, others, done⟩ := Option.bind_eq_some_iff.mp done
      cases done
      have here : p = (p.1, write x) := Prod.ext rfl ((takes p.2 x).mp first)
      rw [here, ih others]
      rfl
  · rintro rfl
    exact readEntries?_mapValues fun p _ => (takes _ p.2).mpr rfl

theorem sorted_of_keys {xs : List (String × α)} {ys : List (String × β)} (sorted : Keyed.Sorted xs)
    (same : Keyed.keys ys = Keyed.keys xs) : Keyed.Sorted ys := by
  unfold Keyed.Sorted at sorted ⊢
  rw [same]
  exact sorted

end Reading

theorem ofTerm?_eq_some_iff {t : Term} {options : Options} :
    ofTerm? t = some options ↔ t = toTerm options := by
  cases t with
  | map entries =>
    rw [ofTerm?, toTerm, Term.map.injEq]
    refine readEntries?_eq_some_iff fun v inner => ?_
    cases v with
    | map texts =>
      rw [Term.map.injEq]
      exact readEntries?_eq_some_iff fun _ _ => Term.text?_eq_some_iff
    | text s => simp
    | list items => simp
  | text s => simp [ofTerm?, toTerm]
  | list items => simp [ofTerm?, toTerm]

/-- The options of a sorted term are in order. -/
theorem ordered_of_ofTerm? {term : Term} (canonical : term.Canonical)
    (read : ofTerm? term = some options) :
    Ordered options := by
  cases term with
  | text s => cases read
  | list items => cases read
  | map entries =>
    rw [Term.Canonical, Term.canonicalEntries_iff] at canonical
    refine ⟨sorted_of_keys canonical.1 (keys_of_readEntries? read), fun q member => ?_⟩
    obtain ⟨p, inside, inner⟩ := exists_of_mem_readEntries? read member
    have below := canonical.2 p inside
    cases shape : p.2 with
    | text s => rw [shape] at inner; cases inner
    | list items => rw [shape] at inner; cases inner
    | map texts =>
      rw [shape] at inner below
      rw [Term.Canonical] at below
      exact sorted_of_keys below.1 (keys_of_readEntries? inner)

/-- A text is read if it holds maps of texts. -/
theorem decode_eq_ok_iff {text : String} : t.decode text = .ok t' ↔
    ∃ options, Blob.decode text = .ok (toTerm options) ∧ t' = { t with value := options } := by
  unfold decode
  cases Blob.decode text with
  | error err => simp
  | ok term =>
    simp only [Except.ok.injEq, ← ofTerm?_eq_some_iff]
    cases ofTerm? term with
    | none => simp
    | some options => simp [eq_comm]

theorem follows_decode {text : String} (read : t.decode text = .ok t') : Follows t t' := by
  obtain ⟨options, held, rfl⟩ := decode_eq_ok_iff.mp read
  refine ⟨rfl, fun _ => ?_⟩
  exact ordered_of_ofTerm? (Blob.canonical_of_decode held) (ofTerm?_eq_some_iff.mpr rfl)

/-- All tables take the same options from a text. -/
theorem exists_decode {text : String} (read : t.decode text = .ok t') (fresh : OptionTable) :
    ∃ u, fresh.decode text = .ok u ∧ u.value = t'.value := by
  obtain ⟨options, held, rfl⟩ := decode_eq_ok_iff.mp read
  exact ⟨{ fresh with value := options }, decode_eq_ok_iff.mpr ⟨options, held, rfl⟩, rfl⟩

section Assigning

theorem keys_of_updateOptions {entries : List (String × Value)} {texts : List (String × String)}
    (taken : updateOptions entries = .ok texts) : Keyed.keys texts = Keyed.keys entries := by
  induction entries generalizing texts with
  | nil => cases taken; rfl
  | cons p rest ih =>
    obtain ⟨key, v⟩ := p
    rw [updateOptions] at taken
    split at taken
    · cases taken
    · cases others : updateOptions rest with
      | error err => rw [others] at taken; cases taken
      | ok more =>
        rw [others] at taken
        cases taken
        exact congrArg (key :: ·) (ih others)

theorem updateNames_ok {entries : List (String × Value)} (taken : updateNames entries = .ok options) :
    Keyed.keys options = Keyed.keys entries ∧
      ∀ q ∈ options, ∃ p ∈ entries, ∃ inner, p.2 = .object inner ∧ updateOptions inner = .ok q.2 := by
  induction entries generalizing options with
  | nil =>
    cases taken
    exact ⟨rfl, fun _ member => nomatch member⟩
  | cons p rest ih =>
    obtain ⟨name, v⟩ := p
    cases v with
    | object inner =>
      rw [updateNames] at taken
      split at taken
      · cases taken
      · next texts own =>
        cases others : updateNames rest with
        | error err => rw [others] at taken; cases taken
        | ok more =>
          rw [others] at taken
          cases taken
          obtain ⟨keys, found⟩ := ih others
          refine ⟨congrArg (name :: ·) keys, List.forall_mem_cons.mpr ⟨?_, fun q member => ?_⟩⟩
          · exact ⟨_, List.mem_cons_self, inner, rfl, own⟩
          · obtain ⟨p, inside, below⟩ := found q member
            exact ⟨p, List.mem_cons_of_mem _ inside, below⟩
    | _ => cases taken

theorem updateOptions_mapValues (options : List (String × String)) :
    updateOptions (Keyed.mapValues .text options) = .ok options := by
  induction options with
  | nil => rfl
  | cons p rest ih =>
    rw [Keyed.mapValues] at ih
    rw [Keyed.mapValues, List.map_cons, updateOptions, Value.text?]
    dsimp only
    rw [ih]
    rfl

theorem updateNames_mapValues (options : Options) :
    updateNames (Keyed.mapValues (fun inner => .object (Keyed.mapValues .text inner)) options) =
      .ok options := by
  induction options with
  | nil => rfl
  | cons p rest ih =>
    rw [Keyed.mapValues] at ih
    rw [Keyed.mapValues, List.map_cons, updateNames, updateOptions_mapValues]
    dsimp only
    rw [ih]
    rfl

/-- The value is taken by every table. -/
theorem assign_toValue (fresh t : OptionTable) :
    fresh.assign t.toValue = .ok { fresh with value := t.value } := by
  rw [toValue, assign, updateNames_mapValues]
  rfl

theorem default_assign {v : Value} (taken : t.assign v = .ok t') : t'.default = t.default := by
  unfold assign at taken
  split at taken
  · next entries =>
    cases read : updateNames entries with
    | error err => rw [read] at taken; cases taken
    | ok options =>
      rw [read] at taken
      cases taken
      rfl
  · cases taken

/-- An object with sorted keys leaves the table in order. -/
theorem follows_assign {v : Value} (canonical : v.Canonical) (taken : t.assign v = .ok t') :
    Follows t t' := by
  unfold assign at taken
  split at taken
  · next entries =>
    rw [Value.Canonical, Value.canonicalEntries_iff] at canonical
    cases read : updateNames entries with
    | error err => rw [read] at taken; cases taken
    | ok options =>
      rw [read] at taken
      cases taken
      obtain ⟨keys, found⟩ := updateNames_ok read
      refine ⟨rfl, fun _ => ⟨sorted_of_keys canonical.1 keys, fun q member => ?_⟩⟩
      obtain ⟨p, inside, inner, shape, own⟩ := found q member
      have below := canonical.2 p inside
      rw [shape, Value.Canonical] at below
      exact sorted_of_keys below.1 (keys_of_updateOptions own)
  · cases taken

end Assigning

section Codec

theorem mem_mapValues {α β : Type} {f : α → β} {entries : List (String × α)} {q : String × β}
    (member : q ∈ Keyed.mapValues f entries) : ∃ p ∈ entries, q.2 = f p.2 := by
  obtain ⟨p, inside, rfl⟩ := List.mem_map.mp member
  exact ⟨p, inside, rfl⟩

theorem keys_mapValues {α β : Type} (f : α → β) (entries : List (String × α)) :
    Keyed.keys (Keyed.mapValues f entries) = Keyed.keys entries := by
  simp [Keyed.keys, Keyed.mapValues]

theorem canonical_toTerm (ordered : Ordered options) : (toTerm options).Canonical := by
  rw [toTerm, Term.Canonical, Term.canonicalEntries_iff]
  refine ⟨sorted_of_keys ordered.names (keys_mapValues _ _), fun q member => ?_⟩
  obtain ⟨p, inside, shape⟩ := mem_mapValues member
  rw [shape, Term.Canonical, Term.canonicalEntries_iff]
  refine ⟨sorted_of_keys (ordered.inner p inside) (keys_mapValues _ _), fun r below => ?_⟩
  obtain ⟨_, _, text⟩ := mem_mapValues below
  rw [text, Term.Canonical]
  trivial

theorem depth_toTerm (options : Options) : (toTerm options).depth ≤ 2 := by
  rw [toTerm, Term.depth]
  refine Nat.succ_le_succ (Term.depthEntries_le_iff.mpr fun q member => ?_)
  obtain ⟨p, _, shape⟩ := mem_mapValues member
  rw [shape, Term.depth]
  refine Nat.succ_le_succ (Term.depthEntries_le_iff.mpr fun r below => ?_)
  obtain ⟨_, _, text⟩ := mem_mapValues below
  exact Nat.le_of_eq (by rw [text, Term.depth])

/-- The string form is read back by every table. -/
theorem decode_encode {fresh : OptionTable} (sound : t.Sound) :
    ∃ t', fresh.decode t.encode = .ok t' ∧ t'.value = t.value := by
  have shallow : (toTerm t.value).depth ≤ Blob.maxDepth :=
    Nat.le_trans (depth_toTerm t.value) (by decide)
  have read := Blob.decode_encode (canonical_toTerm sound.value) shallow
  exact ⟨{ fresh with value := t.value }, decode_eq_ok_iff.mpr ⟨t.value, read, rfl⟩, rfl⟩

theorem encode_reset {fresh : OptionTable} (default : fresh.default = t.default)
    (isDefault : t.isDefault = true) : fresh.reset.encode = t.encode := by
  have same : t.value = t.default := eq_of_beq isDefault
  rw [encode, encode, same, ← default]
  rfl

end Codec

theorem sound_make {default : Options} (ordered : Ordered default) : (make default).Sound :=
  ⟨ordered, ordered⟩

end OptionTable

end Settings
