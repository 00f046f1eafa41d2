import Settings.Proofs.Blob

/-!
# Writing again what was read

The grammar derives each text in one way only, so it makes sense to speak of the lengths and the maps
in a text. Of all texts that stand for a term, the one that is written for it is the one without
superfluous zeros in front of its lengths and with strictly increasing keys in its maps.

* `eq_of_chars_append`: the grammar is unambiguous.
* `neat_iff`: the derivations of written texts.
* `encode_decoded_iff`: what was read and is written again.
-/
namespace Settings.Blob

section Unambiguous

variable {rest rest' : List Char}

/-- A piece ends where it says. -/
theorem Piece.eq_of_chars_append {p q : Piece} (same : p.chars ++ rest = q.chars ++ rest') :
    p = q ∧ rest = rest' := by
  have read := readText?_chars p rest
  rw [same, readText?_chars q rest'] at read
  obtain ⟨text, rfl⟩ := Prod.mk.inj (Option.some.inj read)
  have chars := List.append_cancel_right same
  rw [Piece.chars, Piece.chars, text] at chars
  exact ⟨Piece.ext (List.append_cancel_right chars) text.symm, rfl⟩

/-- A piece does not start with a bracket. -/
theorem Piece.chars_append_ne {c : Char} (noDigit : c.isDigit = false) (p : Piece) (cs : List Char) :
    p.chars ++ rest ≠ c :: cs := by
  obtain ⟨d, ds, shape, digit⟩ := p.exists_digit
  rw [shape]
  intro same
  rw [← (List.cons.inj same).1, digit] at noDigit
  cases noDigit

/-- Parts that end where they say, up to a closing bracket that starts none of them. -/
theorem eq_of_flatMap_append {β : Type} {write : β → List Char} {close : Char}
    (starts : ∀ x, ∃ c cs, write x = c :: cs ∧ c ≠ close) {xs ys : List β}
    (ends : ∀ x ∈ xs, ∀ y rest rest', write x ++ rest = write y ++ rest' → x = y ∧ rest = rest')
    (same : xs.flatMap write ++ close :: rest = ys.flatMap write ++ close :: rest') :
    xs = ys ∧ rest = rest' := by
  have noPart : ∀ (x : β) (more closed : List Char), write x ++ more ≠ close :: closed := by
    intro x more closed clash
    obtain ⟨c, cs, shape, other⟩ := starts x
    rw [shape] at clash
    exact other (List.cons.inj clash).1
  induction xs generalizing ys with
  | nil =>
    cases ys with
    | nil => exact ⟨rfl, (List.cons.inj same).2⟩
    | cons y ys =>
      rw [List.flatMap_cons, List.append_assoc] at same
      exact absurd same.symm (noPart y _ _)
  | cons x xs ih =>
    obtain ⟨first, ends⟩ := List.forall_mem_cons.mp ends
    rw [List.flatMap_cons, List.append_assoc] at same
    cases ys with
    | nil => exact absurd same (noPart x _ _)
    | cons y ys =>
      rw [List.flatMap_cons, List.append_assoc] at same
      obtain ⟨rfl, after⟩ := first _ _ _ same
      obtain ⟨rfl, behind⟩ := ih ends after
      exact ⟨rfl, behind⟩

theorem eq_of_entryChars_append {e : Piece × Derivation} (e' : Piece × Derivation)
    (ends : ∀ d' rest rest', e.2.chars ++ rest = Derivation.chars d' ++ rest' → e.2 = d' ∧ rest = rest')
    (same : Derivation.entryChars e ++ rest = Derivation.entryChars e' ++ rest') :
    e = e' ∧ rest = rest' := by
  rw [Derivation.entryChars, Derivation.entryChars, List.append_assoc, List.append_assoc] at same
  obtain ⟨key, values⟩ := Piece.eq_of_chars_append same
  obtain ⟨value, behind⟩ := ends _ _ _ values
  exact ⟨Prod.ext key value, behind⟩

/-- What one derivation derives is the beginning of no other text that is derived. -/
theorem eq_of_chars_append (d d' : Derivation) (rest rest' : List Char)
    (same : d.chars ++ rest = d'.chars ++ rest') : d = d' ∧ rest = rest' := by
  induction d using Derivation.induction generalizing d' rest rest' with
  | text p =>
    rw [Derivation.chars] at same
    cases d' with
    | text q =>
      rw [Derivation.chars] at same
      obtain ⟨rfl, behind⟩ := Piece.eq_of_chars_append same
      exact ⟨rfl, behind⟩
    | list others =>
      rw [Derivation.chars] at same
      exact absurd same (Piece.chars_append_ne (by decide) p _)
    | map others =>
      rw [Derivation.chars] at same
      exact absurd same (Piece.chars_append_ne (by decide) p _)
  | list items ih =>
    rw [Derivation.chars] at same
    cases d' with
    | text q =>
      rw [Derivation.chars] at same
      exact absurd same.symm (Piece.chars_append_ne (by decide) q _)
    | list others =>
      rw [Derivation.chars, List.cons_append, List.cons_append, List.append_assoc, List.append_assoc,
        Derivation.itemsChars_eq_flatMap, Derivation.itemsChars_eq_flatMap] at same
      obtain ⟨rfl, behind⟩ :=
        eq_of_flatMap_append Derivation.exists_cons_of_chars ih (List.cons.inj same).2
      exact ⟨rfl, behind⟩
    | map others =>
      rw [Derivation.chars] at same
      cases (List.cons.inj same).1
  | map entries ih =>
    rw [Derivation.chars] at same
    cases d' with
    | text q =>
      rw [Derivation.chars] at same
      exact absurd same.symm (Piece.chars_append_ne (by decide) q _)
    | list others =>
      rw [Derivation.chars] at same
      cases (List.cons.inj same).1
    | map others =>
      rw [Derivation.chars, List.cons_append, List.cons_append, List.append_assoc, List.append_assoc,
        Derivation.entriesChars_eq_flatMap, Derivation.entriesChars_eq_flatMap] at same
      obtain ⟨rfl, behind⟩ := eq_of_flatMap_append Derivation.exists_cons_of_entryChars
        (fun e member e' _ _ => eq_of_entryChars_append e' (ih e member))
        (List.cons.inj same).2
      exact ⟨rfl, behind⟩

end Unambiguous

namespace Derivation

section Neat

mutual
/-- The texts behind their lengths, keys included. -/
def pieces : Derivation → List Piece
  | .text piece => [piece]
  | .list items => itemsPieces items
  | .map entries => entriesPieces entries

def itemsPieces : List Derivation → List Piece
  | [] => []
  | item :: rest => item.pieces ++ itemsPieces rest

def entriesPieces : List (Piece × Derivation) → List Piece
  | [] => []
  | (key, value) :: rest => key :: (value.pieces ++ entriesPieces rest)
end

mutual
/-- The keys of each map, as they follow each other. -/
def keyLists : Derivation → List (List String)
  | .text _ => []
  | .list items => itemsKeyLists items
  | .map entries => (entries.map fun e => e.1.text) :: entriesKeyLists entries

def itemsKeyLists : List Derivation → List (List String)
  | [] => []
  | item :: rest => item.keyLists ++ itemsKeyLists rest

def entriesKeyLists : List (Piece × Derivation) → List (List String)
  | [] => []
  | (_, value) :: rest => value.keyLists ++ entriesKeyLists rest
end

/-- No length has a superfluous zero in front, and the keys of each map increase strictly. -/
structure Neat (d : Derivation) : Prop where
  lengths : ∀ p ∈ d.pieces, Numeral.Plain p.digits
  keys : ∀ keys ∈ d.keyLists, keys.Pairwise (· < ·)

theorem itemsPieces_eq_flatMap (items : List Derivation) :
    itemsPieces items = items.flatMap pieces := by
  induction items with
  | nil => rw [itemsPieces]; rfl
  | cons d rest ih => rw [itemsPieces, ih, List.flatMap_cons]

theorem entriesPieces_eq_flatMap (entries : List (Piece × Derivation)) :
    entriesPieces entries = entries.flatMap fun e => e.1 :: e.2.pieces := by
  induction entries with
  | nil => rw [entriesPieces]; rfl
  | cons e rest ih => rw [entriesPieces, ih, List.flatMap_cons, List.cons_append]

theorem itemsKeyLists_eq_flatMap (items : List Derivation) :
    itemsKeyLists items = items.flatMap keyLists := by
  induction items with
  | nil => rw [itemsKeyLists]; rfl
  | cons d rest ih => rw [itemsKeyLists, ih, List.flatMap_cons]

theorem entriesKeyLists_eq_flatMap (entries : List (Piece × Derivation)) :
    entriesKeyLists entries = entries.flatMap fun e => e.2.keyLists := by
  induction entries with
  | nil => rw [entriesKeyLists]; rfl
  | cons e rest ih => rw [entriesKeyLists, ih, List.flatMap_cons]

theorem neat_text_iff {p : Piece} : (text p).Neat ↔ Numeral.Plain p.digits := by
  constructor
  · rintro ⟨lengths, _⟩
    rw [pieces] at lengths
    exact lengths p List.mem_cons_self
  · intro plain
    refine ⟨?_, ?_⟩
    · rw [pieces]
      exact List.forall_mem_singleton.mpr plain
    · rw [keyLists]
      exact fun _ member => nomatch member

theorem neat_list_iff {items : List Derivation} : (list items).Neat ↔ ∀ d ∈ items, d.Neat := by
  constructor
  · rintro ⟨lengths, keys⟩ d member
    rw [pieces, itemsPieces_eq_flatMap, List.forall_mem_flatMap] at lengths
    rw [keyLists, itemsKeyLists_eq_flatMap, List.forall_mem_flatMap] at keys
    exact ⟨lengths d member, keys d member⟩
  · intro all
    refine ⟨?_, ?_⟩
    · rw [pieces, itemsPieces_eq_flatMap, List.forall_mem_flatMap]
      exact fun d member => (all d member).lengths
    · rw [keyLists, itemsKeyLists_eq_flatMap, List.forall_mem_flatMap]
      exact fun d member => (all d member).keys

theorem keys_map_entryTerm (entries : List (Piece × Derivation)) :
    Keyed.keys (entries.map entryTerm) = entries.map fun e => e.1.text := List.map_map

theorem neat_map_iff {entries : List (Piece × Derivation)} :
    (map entries).Neat ↔
      Keyed.Sorted (entries.map entryTerm) ∧ ∀ e ∈ entries, Numeral.Plain e.1.digits ∧ e.2.Neat := by
  rw [Keyed.Sorted, keys_map_entryTerm]
  constructor
  · rintro ⟨lengths, keys⟩
    rw [pieces, entriesPieces_eq_flatMap, List.forall_mem_flatMap] at lengths
    rw [keyLists, entriesKeyLists_eq_flatMap, List.forall_mem_cons, List.forall_mem_flatMap] at keys
    refine ⟨keys.1, fun e member => ?_⟩
    obtain ⟨key, value⟩ := List.forall_mem_cons.mp (lengths e member)
    exact ⟨key, value, keys.2 e member⟩
  · rintro ⟨sorted, all⟩
    refine ⟨?_, ?_⟩
    · rw [pieces, entriesPieces_eq_flatMap, List.forall_mem_flatMap]
      exact fun e member => List.forall_mem_cons.mpr ⟨(all e member).1, (all e member).2.lengths⟩
    · rw [keyLists, entriesKeyLists_eq_flatMap, List.forall_mem_cons, List.forall_mem_flatMap]
      exact ⟨sorted, fun e member => (all e member).2.keys⟩

end Neat

section Written

theorem map_eq_iff_forall_eq {α : Type} {f : α → α} {xs : List α} :
    xs.map f = xs ↔ ∀ x ∈ xs, f x = x := by
  have same := List.map_inj_left (l := xs) (f := f) (g := id)
  rwa [List.map_id] at same

theorem ofItems_eq_map (items : List Term) : ofItems items = items.map ofTerm := by
  induction items with
  | nil => rw [ofItems]; rfl
  | cons t rest ih => rw [ofItems, ih, List.map_cons]

theorem ofEntries_eq_map (entries : List (String × Term)) :
    ofEntries entries = entries.map fun p => (.ofText p.1, ofTerm p.2) := by
  induction entries with
  | nil => rw [ofEntries]; rfl
  | cons p rest ih => rw [ofEntries, ih, List.map_cons]

/-- A piece is written as it is exactly if its length is plain. -/
theorem ofText_text_eq_iff (p : Piece) : Piece.ofText p.text = p ↔ Numeral.Plain p.digits := by
  have length := Numeral.digits_ofDigitChars_eq_iff p.proper p.isDigit
  rw [p.size] at length
  rw [Piece.ext_iff, ← length]
  exact and_iff_left rfl

/-- The neat derivations are those of the texts that are written. -/
theorem neat_iff (d : Derivation) : d.Neat ↔ ofTerm d.term = d := by
  induction d using Derivation.induction with
  | text p => rw [neat_text_iff, term, ofTerm, text.injEq, ofText_text_eq_iff]
  | list items ih =>
    rw [neat_list_iff, term, ofTerm, list.injEq, itemsTerms_eq_map, ofItems_eq_map, List.map_map,
      map_eq_iff_forall_eq]
    exact forall₂_congr ih
  | map entries ih =>
    rw [neat_map_iff, term, ofTerm, map.injEq, entriesTerms_eq_map, ofEntries_eq_map]
    have parts : (∀ e ∈ entries, Numeral.Plain e.1.digits ∧ e.2.Neat) ↔
        (entries.map entryTerm).map (fun p => (Piece.ofText p.1, ofTerm p.2)) = entries := by
      rw [List.map_map, map_eq_iff_forall_eq]
      refine forall₂_congr fun e member => ?_
      rw [← ofText_text_eq_iff, ih e member]
      exact (Prod.ext_iff (x := (Piece.ofText e.1.text, ofTerm e.2.term)) (y := e)).symm
    constructor
    · rintro ⟨sorted, all⟩
      rw [Keyed.ofList_of_sorted sorted]
      exact parts.mp all
    · intro same
      -- Written keys are sorted, and these are the keys that are written.
      have sorted : Keyed.Sorted (entries.map entryTerm) := by
        have keys := congrArg (List.map fun e => e.1.text) same
        rw [List.map_map, ← keys_map_entryTerm] at keys
        rw [Keyed.Sorted, ← keys]
        exact Keyed.sorted_ofList (entries.map entryTerm)
      rw [Keyed.ofList_of_sorted sorted] at same
      exact ⟨sorted, parts.mpr same⟩

end Written

end Derivation

variable {s : String} {t : Term}

/-- A text that is read as a term is derived in one way. It is written again for the term exactly if its
lengths have no superfluous zeros in front and the keys of each of its maps increase strictly. Whatever
is written for the term is read as the term. -/
theorem encode_decoded_iff (read : decode s = .ok t) :
    ∃ d : Derivation,
      (s.toList = version ++ d.chars ∧
        ∀ other : Derivation, s.toList = version ++ other.chars → other = d) ∧
      (encode t = s ↔ d.Neat) ∧ decode (encode t) = .ok t := by
  obtain ⟨d, derived, shallow, rfl⟩ := decode?_eq_some_iff.mp (decode_eq_ok_iff.mp read)
  have unique (other : Derivation) (same : s.toList = version ++ other.chars) : other = d := by
    have bodies := List.append_cancel_left (same.symm.trans derived)
    have ended : other.chars ++ [] = d.chars ++ [] := by rw [bodies]
    exact (eq_of_chars_append other d [] [] ended).1
  refine ⟨d, ⟨derived, unique⟩, ?_, ?_⟩
  · rw [Derivation.neat_iff, ← String.toList_inj, toList_encode, derived]
    constructor
    · intro same
      exact unique _ (derived.trans same.symm)
    · intro same
      rw [same]
  · exact decode_encode d.canonical_term (Nat.le_trans d.depth_term_le shallow)

/-- A superfluous zero in front of a length, keys in another order and one of them twice: the text that
is written for the term is another one, and it is read as the term. -/
theorem encode_decoded_untidy :
    decode "v1\x7b01:b[]1:a2:xy1:b1:z\x7d" = .ok (.map [("a", .text "xy"), ("b", .text "z")]) ∧
      ∃ d : Derivation, "v1\x7b01:b[]1:a2:xy1:b1:z\x7d".toList = version ++ d.chars ∧ ¬ d.Neat ∧
        encode (.map [("a", .text "xy"), ("b", .text "z")]) = "v1\x7b1:a2:xy1:b1:z\x7d" ∧
        decode (encode (.map [("a", .text "xy"), ("b", .text "z")])) =
          .ok (.map [("a", .text "xy"), ("b", .text "z")]) := by
  have read : decode "v1\x7b01:b[]1:a2:xy1:b1:z\x7d" =
      .ok (.map [("a", .text "xy"), ("b", .text "z")]) := by rfl
  have written : encode (.map [("a", .text "xy"), ("b", .text "z")]) = "v1\x7b1:a2:xy1:b1:z\x7d" := by
    rfl
  obtain ⟨d, ⟨derived, _⟩, iff, again⟩ := encode_decoded_iff read
  refine ⟨read, d, derived, fun neat => ?_, written, again⟩
  exact absurd (written.symm.trans (iff.mpr neat)) (by decide)

end Settings.Blob
