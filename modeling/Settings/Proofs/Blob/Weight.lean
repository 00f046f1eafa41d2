import Settings.Proofs.Blob

/-!
# Weights of terms

How much a term holds: two for each string, list, map and key, and one for each character. Whatever
lengths a text announces and however its brackets nest, each part of the term was paid for by characters
of the text: a string or a key by its colon and at least one digit, a list or a map by its brackets. So
the term is never larger than the text that it was read from.

* `weightEntries_ofList_le`: keys that come again only make a map lighter.
* `weight_term_le`: what is derived is no heavier than the characters.
* `weight_le_of_decode`: nor is what was read.
-/
namespace Settings

namespace Term

mutual
/-- Two for each string, list, map and key, and one for each character of a string or a key. -/
def weight : Term → Nat
  | .text s => 2 + s.length
  | .list items => 2 + weightItems items
  | .map entries => 2 + weightEntries entries

def weightItems : List Term → Nat
  | [] => 0
  | item :: rest => item.weight + weightItems rest

def weightEntries : List (String × Term) → Nat
  | [] => 0
  | (key, value) :: rest => 2 + key.length + value.weight + weightEntries rest
end

/-- A key that is there already gives its place to the new value. -/
theorem weightEntries_insert_le (key : String) (value : Term) (entries : List (String × Term)) :
    weightEntries (Keyed.insert key value entries) ≤
      weightEntries entries + (2 + key.length + value.weight) := by
  induction entries with
  | nil => simp [Keyed.insert, weightEntries]
  | cons p rest ih =>
    obtain ⟨k, v⟩ := p
    simp only [Keyed.insert]
    split
    · simp only [weightEntries]
      omega
    · split
      · simp only [weightEntries]
        omega
      · simp only [weightEntries]
        omega

theorem weightEntries_foldl_insert_le (pairs entries : List (String × Term)) :
    weightEntries (pairs.foldl (fun entries p => Keyed.insert p.1 p.2 entries) entries) ≤
      weightEntries entries + weightEntries pairs := by
  induction pairs generalizing entries with
  | nil => simp [weightEntries]
  | cons p rest ih =>
    have others := ih (Keyed.insert p.1 p.2 entries)
    have first := weightEntries_insert_le p.1 p.2 entries
    simp only [List.foldl_cons, weightEntries]
    omega

/-- Of the entries with one key only one is kept. -/
theorem weightEntries_ofList_le (pairs : List (String × Term)) :
    weightEntries (Keyed.ofList pairs) ≤ weightEntries pairs := by
  have folded := weightEntries_foldl_insert_le pairs []
  rw [Keyed.ofList]
  simpa only [weightEntries, Nat.zero_add] using folded

end Term

namespace Blob

/-- The length in front of a text takes a digit and a colon at least. -/
theorem Piece.two_add_length_le (p : Piece) : 2 + p.text.length ≤ p.chars.length := by
  have digits : 0 < p.digits.length := List.length_pos_iff.mpr p.proper
  simp only [Piece.chars, List.length_append, List.length_cons, String.length_toList]
  omega

namespace Derivation

theorem weightItems_le {items : List Derivation}
    (each : ∀ d ∈ items, d.term.weight ≤ d.chars.length) :
    Term.weightItems (itemsTerms items) ≤ (itemsChars items).length := by
  induction items with
  | nil => simp [itemsTerms, Term.weightItems]
  | cons d rest ih =>
    obtain ⟨first, others⟩ := List.forall_mem_cons.mp each
    have below := ih others
    simp only [itemsTerms, itemsChars, Term.weightItems, List.length_append]
    omega

theorem weightEntries_le {entries : List (Piece × Derivation)}
    (each : ∀ e ∈ entries, e.2.term.weight ≤ e.2.chars.length) :
    Term.weightEntries (entriesTerms entries) ≤ (entriesChars entries).length := by
  induction entries with
  | nil => simp [entriesTerms, Term.weightEntries]
  | cons e rest ih =>
    obtain ⟨key, value⟩ := e
    obtain ⟨first, others⟩ := List.forall_mem_cons.mp each
    have announced := key.two_add_length_le
    have below := ih others
    simp only [entriesTerms, entriesChars, Term.weightEntries, List.length_append] at first ⊢
    omega

/-- A term is no heavier than the characters that it is derived from. -/
theorem weight_term_le (d : Derivation) : d.term.weight ≤ d.chars.length := by
  induction d using Derivation.induction with
  | text piece =>
    rw [term, chars, Term.weight]
    exact piece.two_add_length_le
  | list items ih =>
    have inner := weightItems_le ih
    simp only [term, chars, Term.weight, List.length_cons, List.length_append, List.length_nil]
    omega
  | map entries ih =>
    -- Entries whose key comes again are lost, and their characters with them.
    have kept := Term.weightEntries_ofList_le (entriesTerms entries)
    have inner := weightEntries_le ih
    simp only [term, chars, Term.weight, List.length_cons, List.length_append, List.length_nil]
    omega

end Derivation

variable {s : String} {t : Term}

/-- What is read from a text is no heavier than the text without its version tag. -/
theorem weight_le_of_decode (read : decode s = .ok t) : t.weight + 2 ≤ s.length := by
  obtain ⟨d, derived, _, rfl⟩ := decode_eq_ok_iff_holds.mp read
  have tagged : s.length = 2 + d.chars.length := by
    rw [← String.length_toList, derived, List.length_append]
    rfl
  have inner := d.weight_term_le
  omega

/-- A superfluous zero, and an entry that is lost because its key comes again. -/
theorem weight_le_of_decode_repeated :
    decode "v1[02:ab\x7b1:k4:lost1:k0:\x7d]" =
        .ok (.list [.text "ab", .map [("k", .text "")]]) ∧
      (Term.list [.text "ab", .map [("k", .text "")]]).weight = 13 ∧
      13 + 2 ≤ "v1[02:ab\x7b1:k4:lost1:k0:\x7d]".length := by
  have read : decode "v1[02:ab\x7b1:k4:lost1:k0:\x7d]" =
      .ok (.list [.text "ab", .map [("k", .text "")]]) := by rfl
  exact ⟨read, by decide, weight_le_of_decode read⟩

end Blob

end Settings
