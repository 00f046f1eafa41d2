import Settings.Blob.Decode
import Settings.Proofs.Blob.Derivation

/-!
# Readers of written terms

A reader takes from the front of a text exactly what the grammar derives, and refuses it if brackets
nest too deep in it. What a reader has taken was derived.

* `readTerm?_chars`: a derived text in front of any other is read, or refused for its depth.
* `exists_of_readTerm?`: what was read is the derivation of some term.
-/
namespace Settings.Blob

section Pieces

variable {s : String} {cs rest : List Char}

/-- A piece is read to its end, whatever it holds and whatever follows. -/
theorem readText?_chars (p : Piece) (rest : List Char) :
    readText? (p.chars ++ rest) = some (p.text, rest) := by
  have shape : p.chars ++ rest = p.digits ++ ':' :: (p.text.toList ++ rest) := by
    rw [Piece.chars, List.append_assoc, List.cons_append]
  have front : (p.chars ++ rest).takeWhile Char.isDigit = p.digits := by
    rw [shape, List.takeWhile_append_of_pos p.isDigit]
    simp
  have back : (p.chars ++ rest).dropWhile Char.isDigit = ':' :: (p.text.toList ++ rest) := by
    rw [shape, List.dropWhile_append_of_pos p.isDigit]
    simp
  have proper : p.digits.isEmpty = false := by simp [p.proper]
  unfold readText?
  rw [back]
  simp only [front, proper, p.size, List.take_left', List.drop_left', Bool.false_eq_true, if_false,
    if_true, String.ofList_toList]

/-- What is read as a text is a piece. -/
theorem exists_of_readText? (read : readText? cs = some (s, rest)) :
    ∃ p : Piece, cs = p.chars ++ rest ∧ p.text = s := by
  unfold readText? at read
  dsimp only at read
  split at read
  · next after back =>
    split at read
    · cases read
    · next proper =>
      split at read
      · next size =>
        obtain ⟨same, rfl⟩ := Prod.mk.inj (Option.some.inj read)
        have body := congrArg String.toList same
        rw [String.toList_ofList] at body
        have whole : cs = cs.takeWhile Char.isDigit ++ ':' :: (s.toList ++
            after.drop (Nat.ofDigitChars 10 (cs.takeWhile Char.isDigit) 0)) := by
          rw [← body, List.take_append_drop, ← back, List.takeWhile_append_dropWhile]
        refine ⟨⟨cs.takeWhile Char.isDigit, s, ?_, ?_, ?_⟩, ?_, rfl⟩
        · exact fun empty => proper (List.isEmpty_iff.mpr empty)
        · exact List.all_eq_true.mp List.all_takeWhile
        · rw [← body, size]
        · rw [Piece.chars, List.append_assoc, List.cons_append]
          exact whole
      · cases read
  · cases read

/-- What starts with a bracket is no text. -/
theorem readText?_eq_none {c : Char} (noDigit : c.isDigit = false) (noColon : c ≠ ':') :
    readText? (c :: cs) = none := by
  unfold readText?
  rw [List.dropWhile_cons_of_neg (by simp [noDigit])]
  split
  · next same => exact absurd (List.cons.inj same).1 noColon
  · rfl

end Pieces

section Until

variable {α β : Type} {close : Char} {part : List Char → Option (α × List Char)}
  {write : β → List Char} {value : β → α} {fine : β → Prop}

/-- Parts are read together, up to the closing bracket, unless one of them is refused. -/
theorem readUntil?_flatMap [DecidablePred fine] {xs : List β}
    (starts : ∀ x ∈ xs, ∃ c cs, write x = c :: cs ∧ c ≠ close)
    (reads : ∀ x ∈ xs, ∀ rest,
      part (write x ++ rest) = if fine x then some (value x, rest) else none)
    {fuel : Nat} (enough : xs.length < fuel) (rest : List Char) :
    readUntil? close part fuel (xs.flatMap write ++ close :: rest) =
      if ∀ x ∈ xs, fine x then some (xs.map value, rest) else none := by
  induction xs generalizing fuel with
  | nil =>
    obtain ⟨fuel, rfl⟩ := Nat.exists_eq_add_of_lt enough
    simp [readUntil?]
  | cons x others ih =>
    obtain ⟨⟨c, cs, shape, noClose⟩, starts⟩ := List.forall_mem_cons.mp starts
    obtain ⟨first, reads⟩ := List.forall_mem_cons.mp reads
    obtain ⟨fuel, rfl⟩ := Nat.exists_eq_succ_of_ne_zero (Nat.ne_of_gt (Nat.zero_lt_of_lt enough))
    have fewer : others.length < fuel := Nat.lt_of_succ_lt_succ enough
    have here := first (others.flatMap write ++ close :: rest)
    rw [shape] at here
    rw [List.flatMap_cons, List.append_assoc, shape, List.cons_append, readUntil?, if_neg noClose,
      ← List.cons_append, here]
    -- One refused part is enough for refusing all.
    by_cases own : fine x
    · rw [if_pos own]
      dsimp only
      rw [ih starts reads fewer]
      by_cases all : ∀ y ∈ others, fine y
      · rw [if_pos all, if_pos (List.forall_mem_cons.mpr ⟨own, all⟩)]
        rfl
      · rw [if_neg all, if_neg fun whole => all (List.forall_mem_cons.mp whole).2]
        rfl
    · rw [if_neg own, if_neg fun whole => own (List.forall_mem_cons.mp whole).1]

theorem length_le_length_flatMap {xs : List β}
    (starts : ∀ x ∈ xs, ∃ c cs, write x = c :: cs ∧ c ≠ close) :
    xs.length ≤ (xs.flatMap write).length := by
  induction xs with
  | nil => exact Nat.zero_le _
  | cons x others ih =>
    obtain ⟨⟨c, cs, shape, _⟩, starts⟩ := List.forall_mem_cons.mp starts
    have fewer := ih starts
    rw [List.flatMap_cons, List.length_append, shape, List.length_cons, List.length_cons]
    omega

/-- The number of characters is fuel enough. -/
theorem readUntil?_length [DecidablePred fine] {xs : List β}
    (starts : ∀ x ∈ xs, ∃ c cs, write x = c :: cs ∧ c ≠ close)
    (reads : ∀ x ∈ xs, ∀ rest,
      part (write x ++ rest) = if fine x then some (value x, rest) else none)
    (rest : List Char) :
    readUntil? close part ((xs.flatMap write ++ close :: rest).length + 1)
      (xs.flatMap write ++ close :: rest) =
      if ∀ x ∈ xs, fine x then some (xs.map value, rest) else none := by
  refine readUntil?_flatMap starts reads ?_ rest
  have fewer := length_le_length_flatMap starts
  rw [List.length_append]
  omega

/-- If every part that is read was written, so were all parts up to the closing bracket. -/
theorem exists_of_readUntil?
    (sound : ∀ cs x rest, part cs = some (x, rest) → ∃ d, cs = write d ++ rest ∧ fine d ∧ value d = x)
    {fuel : Nat} {cs rest : List Char} {xs : List α}
    (read : readUntil? close part fuel cs = some (xs, rest)) :
    ∃ ds : List β, cs = ds.flatMap write ++ close :: rest ∧ (∀ d ∈ ds, fine d) ∧ ds.map value = xs := by
  induction fuel generalizing cs xs with
  | zero => cases read
  | succ fuel ih =>
    cases cs with
    | nil => cases read
    | cons c cs =>
      rw [readUntil?] at read
      split at read
      · next closed =>
        cases read
        exact ⟨[], by rw [closed]; rfl, (fun _ member => nomatch member), rfl⟩
      · split at read
        · cases read
        · next x later first =>
          obtain ⟨⟨others, last⟩, below, same⟩ := Option.map_eq_some_iff.mp read
          cases same
          obtain ⟨d, front, own, rfl⟩ := sound _ x later first
          obtain ⟨ds, back, all, rfl⟩ := ih below
          refine ⟨d :: ds, ?_, List.forall_mem_cons.mpr ⟨own, all⟩, rfl⟩
          rw [front, back, List.flatMap_cons, List.append_assoc]

end Until

theorem readTerm?_of_isDigit {c : Char} (digit : c.isDigit = true) (depth : Nat) (cs : List Char) :
    readTerm? depth (c :: cs) = (readText? (c :: cs)).map fun r => (.text r.1, r.2) := by
  cases depth with
  | zero => rw [readTerm?]
  | succ depth =>
    rw [readTerm?]
    all_goals
      rintro tail same
      obtain ⟨rfl, _⟩ := List.cons.inj same
      cases digit

/-- A bracket needs a level of its own. -/
theorem readTerm?_zero {c : Char} (noDigit : c.isDigit = false) (noColon : c ≠ ':') (cs : List Char) :
    readTerm? 0 (c :: cs) = none := by
  rw [readTerm?, readText?_eq_none noDigit noColon]
  rfl

section Entries

variable {depth : Nat}

/-- An entry is read if its value is. -/
theorem readPair?_chars {e : Piece × Derivation}
    (value : ∀ rest, readTerm? depth (e.2.chars ++ rest) =
      if e.2.nesting ≤ depth then some (e.2.term, rest) else none) (rest : List Char) :
    readPair? (readTerm? depth) (Derivation.entryChars e ++ rest) =
      if e.2.nesting ≤ depth then some (Derivation.entryTerm e, rest) else none := by
  rw [Derivation.entryChars, List.append_assoc, readPair?, readText?_chars]
  dsimp only
  rw [value]
  split <;> rfl

/-- An entry that was read was derived if its value was. -/
theorem exists_of_readPair?
    (value : ∀ {cs rest : List Char} {t : Term}, readTerm? depth cs = some (t, rest) →
      ∃ d : Derivation, cs = d.chars ++ rest ∧ d.nesting ≤ depth ∧ d.term = t)
    {cs rest : List Char} {p : String × Term}
    (read : readPair? (readTerm? depth) cs = some (p, rest)) :
    ∃ e : Piece × Derivation, cs = Derivation.entryChars e ++ rest ∧ e.2.nesting ≤ depth ∧
      Derivation.entryTerm e = p := by
  unfold readPair? at read
  split at read
  · cases read
  · next key later found =>
    obtain ⟨⟨_, last⟩, inside, same⟩ := Option.map_eq_some_iff.mp read
    cases same
    obtain ⟨piece, front, rfl⟩ := exists_of_readText? found
    obtain ⟨d, back, shallow, rfl⟩ := value inside
    refine ⟨(piece, d), ?_, shallow, rfl⟩
    rw [front, back, Derivation.entryChars, List.append_assoc]

end Entries

/-- A derived text in front of any other is read if its brackets do not nest too deep, and refused
otherwise. -/
theorem readTerm?_chars (d : Derivation) (depth : Nat) (rest : List Char) :
    readTerm? depth (d.chars ++ rest) =
      if d.nesting ≤ depth then some (d.term, rest) else none := by
  induction d using Derivation.induction generalizing depth rest with
  | text piece =>
    have read := readText?_chars piece rest
    obtain ⟨c, cs, shape, digit⟩ := piece.exists_digit
    rw [shape, List.cons_append] at read
    rw [Derivation.chars, Derivation.nesting, Derivation.term, if_pos (Nat.zero_le depth), shape,
      List.cons_append, readTerm?_of_isDigit digit, read]
    rfl
  | list items ih =>
    have shape : (Derivation.list items).chars ++ rest =
        '[' :: (items.flatMap Derivation.chars ++ ']' :: rest) := by
      rw [Derivation.chars, Derivation.itemsChars_eq_flatMap]
      simp
    rw [shape, Derivation.nesting, Derivation.term, Derivation.itemsTerms_eq_map]
    cases depth with
    | zero => rw [readTerm?_zero (by decide) (by decide), if_neg (Nat.not_succ_le_zero _)]
    | succ depth =>
      have read := readUntil?_length (fun d _ => d.exists_cons_of_chars)
        (fun d member => ih d member depth) rest
      rw [readTerm?, read]
      simp only [Nat.add_le_add_iff_right, Derivation.itemsNesting_le_iff]
      split <;> rfl
  | map entries ih =>
    have shape : (Derivation.map entries).chars ++ rest =
        '{' :: (entries.flatMap Derivation.entryChars ++ '}' :: rest) := by
      rw [Derivation.chars, Derivation.entriesChars_eq_flatMap]
      simp
    rw [shape, Derivation.nesting, Derivation.term, Derivation.entriesTerms_eq_map]
    cases depth with
    | zero => rw [readTerm?_zero (by decide) (by decide), if_neg (Nat.not_succ_le_zero _)]
    | succ depth =>
      have read := readUntil?_length (fun e _ => Derivation.exists_cons_of_entryChars e)
        (fun e member => readPair?_chars (ih e member depth)) rest
      rw [readTerm?, read]
      simp only [Nat.add_le_add_iff_right, Derivation.entriesNesting_le_iff]
      split <;> rfl

/-- What was read was derived, and its brackets do not nest too deep. -/
theorem exists_of_readTerm? {depth : Nat} {cs rest : List Char} {t : Term}
    (read : readTerm? depth cs = some (t, rest)) :
    ∃ d : Derivation, cs = d.chars ++ rest ∧ d.nesting ≤ depth ∧ d.term = t := by
  -- Texts are read alike at every depth.
  have ofText : ∀ {depth : Nat} {cs rest : List Char} {t : Term},
      (readText? cs).map (fun r => (Term.text r.1, r.2)) = some (t, rest) →
        ∃ d : Derivation, cs = d.chars ++ rest ∧ d.nesting ≤ depth ∧ d.term = t := by
    intro depth cs rest t read
    obtain ⟨⟨s, after⟩, found, same⟩ := Option.map_eq_some_iff.mp read
    cases same
    obtain ⟨p, shape, rfl⟩ := exists_of_readText? found
    refine ⟨.text p, ?_, ?_, ?_⟩
    · rw [shape, Derivation.chars]
    · rw [Derivation.nesting]
      exact Nat.zero_le depth
    · rw [Derivation.term]
  induction depth generalizing cs rest t with
  | zero =>
    rw [readTerm?] at read
    exact ofText read
  | succ depth ih =>
    unfold readTerm? at read
    split at read
    · next impossible => cases impossible
    · next inner same =>
      cases same
      obtain ⟨⟨items, after⟩, below, same⟩ := Option.map_eq_some_iff.mp read
      cases same
      obtain ⟨ds, shape, shallow, rfl⟩ := exists_of_readUntil? (fun _ _ _ => ih) below
      refine ⟨.list ds, ?_, ?_, ?_⟩
      · rw [shape, Derivation.chars, Derivation.itemsChars_eq_flatMap]
        simp
      · rw [Derivation.nesting]
        exact Nat.succ_le_succ (Derivation.itemsNesting_le_iff.mpr shallow)
      · rw [Derivation.term, Derivation.itemsTerms_eq_map]
    · next inner same =>
      cases same
      obtain ⟨⟨pairs, after⟩, below, same⟩ := Option.map_eq_some_iff.mp read
      cases same
      obtain ⟨es, shape, shallow, rfl⟩ :=
        exists_of_readUntil? (fun _ _ _ => exists_of_readPair? ih) below
      refine ⟨.map es, ?_, ?_, ?_⟩
      · rw [shape, Derivation.chars, Derivation.entriesChars_eq_flatMap]
        simp
      · rw [Derivation.nesting]
        exact Nat.succ_le_succ (Derivation.entriesNesting_le_iff.mpr shallow)
      · rw [Derivation.term, Derivation.entriesTerms_eq_map]
    · exact ofText read

end Settings.Blob
