import Settings.Blob.Encode
import Settings.Proofs.Keyed
import Settings.Proofs.Numeral

/-!
# The grammar of written terms

A text that stands for a term is derived in one of three ways: a string is its number of characters, a
colon and the characters themselves; a list is its items between square brackets; a map is its
entries between curly brackets. Lengths may have leading zeros, and keys may come in any order and
more than once.

A derivation tells the characters that it derives, the term that they stand for and how deep brackets
nest in them.

* `canonical_term`, `depth_term_le`: derived terms have sorted maps and are not deeper than their texts.
* `chars_ofTerm`, `term_ofTerm`, `nesting_ofTerm`: the derivation of the text that is written for a
  term.
-/
namespace Settings

theorem Term.canonicalItems_iff {items : List Term} :
    CanonicalItems items ↔ ∀ t ∈ items, t.Canonical := by
  induction items with
  | nil => simp [CanonicalItems]
  | cons t rest ih => simp [CanonicalItems, ih]

theorem Term.canonicalEntries_iff {entries : List (String × Term)} :
    CanonicalEntries entries ↔ ∀ p ∈ entries, p.2.Canonical := by
  induction entries with
  | nil => simp [CanonicalEntries]
  | cons p rest ih => simp [CanonicalEntries, ih]

theorem Term.depthItems_le_iff {items : List Term} {n : Nat} :
    depthItems items ≤ n ↔ ∀ t ∈ items, t.depth ≤ n := by
  induction items with
  | nil => simp [depthItems]
  | cons t rest ih => rw [depthItems, Nat.max_le, ih, List.forall_mem_cons]

theorem Term.depthEntries_le_iff {entries : List (String × Term)} {n : Nat} :
    depthEntries entries ≤ n ↔ ∀ p ∈ entries, p.2.depth ≤ n := by
  induction entries with
  | nil => simp [depthEntries]
  | cons p rest ih => rw [depthEntries, Nat.max_le, ih, List.forall_mem_cons]

theorem Term.text?_eq_some_iff {t : Term} {s : String} : t.text? = some s ↔ t = .text s := by
  cases t <;> simp [Term.text?]

theorem Term.mapM_text?_eq_some_iff {terms : List Term} {items : List String} :
    terms.mapM Term.text? = some items ↔ terms = items.map .text := by
  induction terms generalizing items with
  | nil =>
    rw [List.mapM_nil, Option.pure_def, Option.some.injEq, eq_comm, eq_comm (a := []),
      List.map_eq_nil_iff]
  | cons t rest ih =>
    rw [List.mapM_cons]
    simp only [Option.bind_eq_bind, Option.bind_eq_some_iff, Option.pure_def, Option.some.injEq,
      Term.text?_eq_some_iff, ih]
    constructor
    · rintro ⟨s, rfl, others, rfl, rfl⟩
      rfl
    · intro shape
      obtain ⟨s, others, rfl, here, below⟩ := List.map_eq_cons_iff.mp shape.symm
      exact ⟨s, here.symm, others, below.symm, rfl⟩

theorem Term.strings?_eq_some_iff {t : Term} {items : List String} :
    t.strings? = some items ↔ t = .ofStrings items := by
  cases t with
  | list terms => rw [Term.strings?, Term.ofStrings, Term.list.injEq, Term.mapM_text?_eq_some_iff]
  | text s => simp [Term.strings?, Term.ofStrings]
  | map entries => simp [Term.strings?, Term.ofStrings]

namespace Blob

/-- A text behind its length, which is written in decimal digits. -/
@[ext] structure Piece where
  digits : List Char
  text : String
  proper : digits ≠ []
  isDigit : ∀ c ∈ digits, c.isDigit = true
  size : Nat.ofDigitChars 10 digits 0 = text.toList.length

namespace Piece

def chars (p : Piece) : List Char := p.digits ++ ':' :: p.text.toList

/-- The piece that is written for a text. -/
def ofText (s : String) : Piece where
  digits := Numeral.digits s.toList.length
  text := s
  proper := Numeral.digits_ne_nil _
  isDigit _ member := Numeral.isDigit_of_mem_digits member
  size := Nat.ofDigitChars_toDigits (by decide) (by decide)

theorem chars_ofText (s : String) : (ofText s).chars = textChars s := rfl

/-- A piece starts with a digit, so with no bracket. -/
theorem exists_digit (p : Piece) : ∃ c cs, p.chars = c :: cs ∧ c.isDigit = true := by
  obtain ⟨c, cs, shape⟩ := List.exists_cons_of_ne_nil p.proper
  exact ⟨c, cs ++ ':' :: p.text.toList, by rw [chars, shape]; rfl,
    p.isDigit c (shape ▸ List.mem_cons_self)⟩

end Piece

/-- How a text is derived. -/
inductive Derivation where
  | text (piece : Piece)
  | list (items : List Derivation)
  | map (entries : List (Piece × Derivation))

namespace Derivation

/-- An induction over all derivations inside. -/
theorem induction {P : Derivation → Prop} (text : ∀ piece, P (.text piece))
    (list : ∀ items : List Derivation, (∀ d ∈ items, P d) → P (.list items))
    (map : ∀ entries : List (Piece × Derivation), (∀ e ∈ entries, P e.2) → P (.map entries))
    (d : Derivation) : P d :=
  Derivation.rec (motive_1 := P) (motive_2 := fun items => ∀ d ∈ items, P d)
    (motive_3 := fun entries => ∀ e ∈ entries, P e.2) (motive_4 := fun e => P e.2)
    text list map (fun _ member => nomatch member)
    (fun _ _ head tail => List.forall_mem_cons.mpr ⟨head, tail⟩) (fun _ member => nomatch member)
    (fun _ _ head tail => List.forall_mem_cons.mpr ⟨head, tail⟩) (fun _ _ inner => inner) d

mutual
/-- The characters that are derived. -/
def chars : Derivation → List Char
  | .text piece => piece.chars
  | .list items => '[' :: (itemsChars items ++ [']'])
  | .map entries => '{' :: (entriesChars entries ++ ['}'])

def itemsChars : List Derivation → List Char
  | [] => []
  | item :: rest => item.chars ++ itemsChars rest

def entriesChars : List (Piece × Derivation) → List Char
  | [] => []
  | (key, value) :: rest => key.chars ++ (value.chars ++ entriesChars rest)
end

mutual
/-- The term that the characters stand for. Of the entries with one key the last counts. -/
def term : Derivation → Term
  | .text piece => .text piece.text
  | .list items => .list (itemsTerms items)
  | .map entries => .map (Keyed.ofList (entriesTerms entries))

def itemsTerms : List Derivation → List Term
  | [] => []
  | item :: rest => item.term :: itemsTerms rest

def entriesTerms : List (Piece × Derivation) → List (String × Term)
  | [] => []
  | (key, value) :: rest => (key.text, value.term) :: entriesTerms rest
end

mutual
/-- How deep brackets nest in the characters. -/
def nesting : Derivation → Nat
  | .text _ => 0
  | .list items => itemsNesting items + 1
  | .map entries => entriesNesting entries + 1

def itemsNesting : List Derivation → Nat
  | [] => 0
  | item :: rest => max item.nesting (itemsNesting rest)

def entriesNesting : List (Piece × Derivation) → Nat
  | [] => 0
  | (_, value) :: rest => max value.nesting (entriesNesting rest)
end

/-- The characters of one entry of a map. -/
def entryChars (e : Piece × Derivation) : List Char := e.1.chars ++ e.2.chars

/-- What one entry of a map stands for. -/
def entryTerm (e : Piece × Derivation) : String × Term := (e.1.text, e.2.term)

theorem itemsChars_eq_flatMap (items : List Derivation) : itemsChars items = items.flatMap chars := by
  induction items with
  | nil => rw [itemsChars]; rfl
  | cons d rest ih => rw [itemsChars, ih, List.flatMap_cons]

theorem entriesChars_eq_flatMap (entries : List (Piece × Derivation)) :
    entriesChars entries = entries.flatMap entryChars := by
  induction entries with
  | nil => rw [entriesChars]; rfl
  | cons e rest ih => rw [entriesChars, ih, List.flatMap_cons, entryChars, List.append_assoc]

theorem itemsTerms_eq_map (items : List Derivation) : itemsTerms items = items.map term := by
  induction items with
  | nil => rw [itemsTerms]; rfl
  | cons d rest ih => rw [itemsTerms, ih, List.map_cons]

theorem entriesTerms_eq_map (entries : List (Piece × Derivation)) :
    entriesTerms entries = entries.map entryTerm := by
  induction entries with
  | nil => rw [entriesTerms]; rfl
  | cons e rest ih => rw [entriesTerms, ih, List.map_cons, entryTerm]

theorem itemsNesting_le_iff {items : List Derivation} {n : Nat} :
    itemsNesting items ≤ n ↔ ∀ d ∈ items, d.nesting ≤ n := by
  induction items with
  | nil => simp [itemsNesting]
  | cons d rest ih => rw [itemsNesting, Nat.max_le, ih, List.forall_mem_cons]

theorem entriesNesting_le_iff {entries : List (Piece × Derivation)} {n : Nat} :
    entriesNesting entries ≤ n ↔ ∀ e ∈ entries, e.2.nesting ≤ n := by
  induction entries with
  | nil => simp [entriesNesting]
  | cons e rest ih => rw [entriesNesting, Nat.max_le, ih, List.forall_mem_cons]

/-- Derived texts do not start with a closing bracket. -/
theorem exists_cons_of_chars (d : Derivation) : ∃ c cs, d.chars = c :: cs ∧ c ≠ ']' := by
  cases d with
  | text piece =>
    obtain ⟨c, cs, shape, digit⟩ := piece.exists_digit
    refine ⟨c, cs, by rw [chars, shape], ?_⟩
    rintro rfl
    cases digit
  | list items => exact ⟨_, _, by rw [chars], by decide⟩
  | map entries => exact ⟨_, _, by rw [chars], by decide⟩

theorem exists_cons_of_entryChars (e : Piece × Derivation) :
    ∃ c cs, entryChars e = c :: cs ∧ c ≠ '}' := by
  obtain ⟨c, cs, shape, digit⟩ := e.1.exists_digit
  refine ⟨c, cs ++ e.2.chars, by rw [entryChars, shape]; rfl, ?_⟩
  rintro rfl
  cases digit

/-- Derived terms have sorted maps. -/
theorem canonical_term (d : Derivation) : d.term.Canonical := by
  induction d using Derivation.induction with
  | text piece => rw [term, Term.Canonical]; trivial
  | list items ih =>
    rw [term, Term.Canonical, Term.canonicalItems_iff, itemsTerms_eq_map]
    exact List.forall_mem_map.mpr ih
  | map entries ih =>
    rw [term, Term.Canonical, Term.canonicalEntries_iff, entriesTerms_eq_map]
    refine ⟨Keyed.sorted_ofList _, fun p member => ?_⟩
    obtain ⟨e, inside, rfl⟩ := List.mem_map.mp (Keyed.mem_of_mem_ofList member)
    exact ih e inside

/-- A term is no deeper than the text: entries can be lost, but none are added. -/
theorem depth_term_le (d : Derivation) : d.term.depth ≤ d.nesting := by
  induction d using Derivation.induction with
  | text piece =>
    rw [term, Term.depth]
    exact Nat.zero_le _
  | list items ih =>
    rw [term, Term.depth, nesting, itemsTerms_eq_map]
    refine Nat.succ_le_succ (Term.depthItems_le_iff.mpr (List.forall_mem_map.mpr fun d member => ?_))
    exact Nat.le_trans (ih d member) (itemsNesting_le_iff.mp (Nat.le_refl _) d member)
  | map entries ih =>
    rw [term, Term.depth, nesting, entriesTerms_eq_map]
    refine Nat.succ_le_succ (Term.depthEntries_le_iff.mpr fun p member => ?_)
    obtain ⟨e, inside, rfl⟩ := List.mem_map.mp (Keyed.mem_of_mem_ofList member)
    exact Nat.le_trans (ih e inside) (entriesNesting_le_iff.mp (Nat.le_refl _) e inside)

section Writing

mutual
/-- The derivation of the text that is written for a term. -/
def ofTerm : Term → Derivation
  | .text s => .text (.ofText s)
  | .list items => .list (ofItems items)
  | .map entries => .map (ofEntries entries)

def ofItems : List Term → List Derivation
  | [] => []
  | item :: rest => ofTerm item :: ofItems rest

def ofEntries : List (String × Term) → List (Piece × Derivation)
  | [] => []
  | (key, value) :: rest => (.ofText key, ofTerm value) :: ofEntries rest
end

mutual
theorem chars_ofTerm : ∀ t : Term, (ofTerm t).chars = termChars t
  | .text s => by rw [ofTerm, chars, termChars, Piece.chars_ofText]
  | .list items => by rw [ofTerm, chars, termChars, chars_ofItems items]
  | .map entries => by rw [ofTerm, chars, termChars, chars_ofEntries entries]

theorem chars_ofItems : ∀ items : List Term, itemsChars (ofItems items) = Blob.itemsChars items
  | [] => by rw [ofItems, itemsChars, Blob.itemsChars]
  | item :: rest => by
    rw [ofItems, itemsChars, Blob.itemsChars, chars_ofTerm item, chars_ofItems rest]

theorem chars_ofEntries :
    ∀ entries : List (String × Term), entriesChars (ofEntries entries) = Blob.entriesChars entries
  | [] => by rw [ofEntries, entriesChars, Blob.entriesChars]
  | (key, value) :: rest => by
    rw [ofEntries, entriesChars, Blob.entriesChars, Piece.chars_ofText, chars_ofTerm value,
      chars_ofEntries rest]
end

mutual
theorem nesting_ofTerm : ∀ t : Term, (ofTerm t).nesting = t.depth
  | .text s => by rw [ofTerm, nesting, Term.depth]
  | .list items => by rw [ofTerm, nesting, Term.depth, nesting_ofItems items]
  | .map entries => by rw [ofTerm, nesting, Term.depth, nesting_ofEntries entries]

theorem nesting_ofItems :
    ∀ items : List Term, itemsNesting (ofItems items) = Term.depthItems items
  | [] => by rw [ofItems, itemsNesting, Term.depthItems]
  | item :: rest => by
    rw [ofItems, itemsNesting, Term.depthItems, nesting_ofTerm item, nesting_ofItems rest]

theorem nesting_ofEntries :
    ∀ entries : List (String × Term), entriesNesting (ofEntries entries) = Term.depthEntries entries
  | [] => by rw [ofEntries, entriesNesting, Term.depthEntries]
  | (key, value) :: rest => by
    rw [ofEntries, entriesNesting, Term.depthEntries, nesting_ofTerm value, nesting_ofEntries rest]
end

mutual
/-- Sorted maps are written so that no entry is lost. -/
theorem term_ofTerm : ∀ t : Term, t.Canonical → (ofTerm t).term = t
  | .text s, _ => by rw [ofTerm, term, Piece.ofText]
  | .list items, canonical => by
    rw [Term.Canonical] at canonical
    rw [ofTerm, term, terms_ofItems items canonical]
  | .map entries, canonical => by
    rw [Term.Canonical] at canonical
    rw [ofTerm, term, terms_ofEntries entries canonical.2, Keyed.ofList_of_sorted canonical.1]

theorem terms_ofItems :
    ∀ items : List Term, Term.CanonicalItems items → itemsTerms (ofItems items) = items
  | [], _ => by rw [ofItems, itemsTerms]
  | item :: rest, canonical => by
    rw [Term.CanonicalItems] at canonical
    rw [ofItems, itemsTerms, term_ofTerm item canonical.1, terms_ofItems rest canonical.2]

theorem terms_ofEntries :
    ∀ entries : List (String × Term), Term.CanonicalEntries entries →
      entriesTerms (ofEntries entries) = entries
  | [], _ => by rw [ofEntries, entriesTerms]
  | (key, value) :: rest, canonical => by
    rw [Term.CanonicalEntries] at canonical
    rw [ofEntries, entriesTerms, term_ofTerm value canonical.1, terms_ofEntries rest canonical.2,
      Piece.ofText]
end

end Writing

end Derivation

end Blob

end Settings
