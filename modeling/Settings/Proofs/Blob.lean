import Settings.Proofs.Blob.Reading

/-!
# Reading and writing terms

The readers work on the front of a text; here they meet the version tag and the end of the text. The
decoder takes the texts that the grammar derives with shallow brackets, and no others, and a term
whose maps are sorted is read back from what is written for it.

* `decode_eq_ok_iff_derived`: the texts that are read, and as what.
* `decode_encode_eq_ite`: what becomes of a term that is written and read.
-/
namespace Settings.Blob

variable {s : String} {t : Term}

theorem decodeChars?_version (cs : List Char) :
    decodeChars? (version ++ cs) =
      match readTerm? maxDepth cs with
      | some (t, []) => some t
      | _ => none := rfl

theorem exists_of_decodeChars? {cs : List Char} (read : decodeChars? cs = some t) :
    ∃ body, cs = version ++ body ∧ readTerm? maxDepth body = some (t, []) := by
  unfold decodeChars? at read
  split at read
  · next body =>
    split at read
    · next other found =>
      cases read
      exact ⟨body, rfl, found⟩
    · cases read
  · cases read

/-- A derived text behind the version tag is read if its brackets do not nest too deep. -/
theorem decode?_of_derived {d : Derivation} (derived : s.toList = version ++ d.chars) :
    decode? s = if d.nesting ≤ maxDepth then some d.term else none := by
  have read := readTerm?_chars d maxDepth []
  rw [List.append_nil] at read
  rw [decode?, derived, decodeChars?_version, read]
  by_cases shallow : d.nesting ≤ maxDepth
  · rw [if_pos shallow, if_pos shallow]
  · rw [if_neg shallow, if_neg shallow]

theorem decode?_eq_some_iff :
    decode? s = some t ↔
      ∃ d : Derivation, s.toList = version ++ d.chars ∧ d.nesting ≤ maxDepth ∧ d.term = t := by
  constructor
  · intro read
    obtain ⟨body, tagged, found⟩ := exists_of_decodeChars? read
    obtain ⟨d, derived, shallow, same⟩ := exists_of_readTerm? found
    exact ⟨d, by rw [tagged, derived, List.append_nil], shallow, same⟩
  · rintro ⟨d, derived, shallow, rfl⟩
    rw [decode?_of_derived derived, if_pos shallow]

theorem decode_eq_ok_iff : decode s = .ok t ↔ decode? s = some t := by
  rw [decode]
  split
  · next other found => rw [found, Except.ok.injEq, Option.some.injEq]
  · next refused => simp [refused]

theorem decode_eq_error_iff {e : Error} :
    decode s = .error e ↔ decode? s = none ∧ e = .undecodable s .blob := by
  rw [decode]
  split
  · next other found => simp [found]
  · next refused => rw [Except.error.injEq, eq_comm, and_iff_right refused]

/-- What is written for a term stands for the term. -/
theorem toList_encode (t : Term) : (encode t).toList = version ++ (Derivation.ofTerm t).chars := by
  rw [encode, String.toList_ofList, Derivation.chars_ofTerm]

theorem decode?_encode (canonical : t.Canonical) :
    decode? (encode t) = if t.depth ≤ maxDepth then some t else none := by
  rw [decode?_of_derived (toList_encode t), Derivation.nesting_ofTerm,
    Derivation.term_ofTerm t canonical]

/-- A written term is read back. -/
theorem decode_encode (canonical : t.Canonical) (shallow : t.depth ≤ maxDepth) :
    decode (encode t) = .ok t := by
  rw [decode_eq_ok_iff, decode?_encode canonical, if_pos shallow]

/-- The maps of a term that was read are sorted. -/
theorem canonical_of_decode (read : decode s = .ok t) : t.Canonical := by
  obtain ⟨d, _, _, rfl⟩ := decode?_eq_some_iff.mp (decode_eq_ok_iff.mp read)
  exact d.canonical_term

/-- The text is a blob that holds the term. Brackets may not nest too deep in it. -/
def Holds (s : String) (t : Term) : Prop :=
  ∃ d : Derivation, s.toList = version ++ d.chars ∧ d.nesting ≤ maxDepth ∧ d.term = t

theorem decode_eq_ok_iff_holds : decode s = .ok t ↔ Holds s t :=
  decode_eq_ok_iff.trans decode?_eq_some_iff

/-- A text is read as a term exactly if it is the version tag and a text that derives the term with
shallow brackets, and any other text is refused. Of the entries of a map with one key the last
counts. -/
theorem decode_eq_ok_iff_derived (s : String) :
    (∀ t, decode s = .ok t ↔
      ∃ d : Derivation, s.toList = version ++ d.chars ∧ d.nesting ≤ maxDepth ∧ d.term = t) ∧
    (∀ e, decode s = .error e ↔
      (¬∃ d : Derivation, s.toList = version ++ d.chars ∧ d.nesting ≤ maxDepth) ∧
        e = .undecodable s .blob) ∧
    ∀ entries, ∃ pairs, (Derivation.map entries).term = .map pairs ∧ Keyed.Sorted pairs ∧
      ∀ key, Keyed.get? key pairs = Keyed.last? key (entries.map Derivation.entryTerm) := by
  refine ⟨fun t => ?_, fun e => ?_, fun entries => ?_⟩
  · rw [decode_eq_ok_iff, decode?_eq_some_iff]
  · have refused : decode? s = none ↔
        ¬∃ d : Derivation, s.toList = version ++ d.chars ∧ d.nesting ≤ maxDepth := by
      rw [Option.eq_none_iff_forall_ne_some]
      constructor
      · rintro none ⟨d, derived, shallow⟩
        exact none d.term (decode?_eq_some_iff.mpr ⟨d, derived, shallow, rfl⟩)
      · intro none t read
        obtain ⟨d, derived, shallow, _⟩ := decode?_eq_some_iff.mp read
        exact none ⟨d, derived, shallow⟩
    rw [decode_eq_error_iff, refused]
  · refine ⟨Keyed.ofList (entries.map Derivation.entryTerm), ?_, Keyed.sorted_ofList _, fun key => ?_⟩
    · rw [Derivation.term, Derivation.entriesTerms_eq_map]
    · exact Keyed.get?_ofList key _

example : decode "v1\x7b1:a0:01:a1:y\x7d" = .ok (.map [("a", .text "y")]) := by rfl

/-- A term is read back if its brackets do not nest too deep, and refused otherwise. -/
theorem decode_encode_eq_ite (canonical : t.Canonical) :
    decode (encode t) =
      if t.depth ≤ maxDepth then .ok t else .error (.undecodable (encode t) .blob) := by
  split
  · next shallow => exact decode_encode canonical shallow
  · next deep =>
    rw [decode_eq_error_iff, decode?_encode canonical, if_neg deep]
    exact ⟨rfl, rfl⟩

/-- A map inside `n` lists. -/
def boxed : Nat → Term
  | 0 => .map [("a:", .list [.text "é", .text ""]), ("b", .text "]")]
  | n + 1 => .list [boxed n]

theorem canonical_boxed (n : Nat) : (boxed n).Canonical := by
  induction n with
  | zero => simp [boxed, Term.Canonical, Term.CanonicalItems, Term.CanonicalEntries]; decide
  | succ n ih => simp [boxed, Term.Canonical, Term.CanonicalItems, ih]

theorem depth_boxed (n : Nat) : (boxed n).depth = n + 2 := by
  induction n with
  | zero => rfl
  | succ n ih => simp [boxed, Term.depth, Term.depthItems, ih]

theorem decode_encode_boxed :
    (∀ n, (boxed n).Canonical) ∧ decode (encode (boxed 30)) = .ok (boxed 30) ∧
      decode (encode (boxed 31)) = .error (.undecodable (encode (boxed 31)) .blob) := by
  refine ⟨canonical_boxed, ?_, ?_⟩
  · rw [decode_encode_eq_ite (canonical_boxed 30), depth_boxed, if_pos (by decide)]
  · rw [decode_encode_eq_ite (canonical_boxed 31), depth_boxed, if_neg (by decide)]

end Settings.Blob
