import Settings.Text.Blank
import Settings.Text.Split

/-!
# Trimmed and split texts

What trimming leaves, what it does not see, and what a text is cut into at a separator.

* `trimChars_of_ends`, `trimChars_trimChars`: a trimmed text stays as it is.
* `trimChars_append_of_blank`, `trimChars_dropEndWhile`: blanks at the end do not count.
* `legible_trim`: a trimmed text on one line is legible.
* `eq_of_splitAt`, `splitAt_flatMap`: the pieces of a text and the text are the same.
-/
namespace Settings.Text

section Trimming

theorem dropEndWhile_of_getLast? {p : Char → Bool} {cs : List Char}
    (kept : ∀ c, cs.getLast? = some c → p c = false) : dropEndWhile p cs = cs := by
  unfold dropEndWhile
  rw [← List.head?_reverse] at kept
  cases shape : cs.reverse with
  | nil => rw [List.reverse_eq_nil_iff.mp shape]; rfl
  | cons c rest =>
    have stop := kept c (by rw [shape]; rfl)
    rw [List.dropWhile_cons_of_neg (by simp [stop]), ← shape, List.reverse_reverse]

/-- Nothing is cut off a text whose ends are not blank. -/
theorem trimChars_of_ends {cs : List Char} (first : ∀ c, cs.head? = some c → isBlank c = false)
    (last : ∀ c, cs.getLast? = some c → isBlank c = false) : trimChars cs = cs := by
  have kept : cs.dropWhile isBlank = cs := by
    cases cs with
    | nil => rfl
    | cons c rest => exact List.dropWhile_cons_of_neg (by simp [first c rfl])
  rw [trimChars, kept, dropEndWhile_of_getLast? last]

theorem dropEndWhile_isPrefix (p : Char → Bool) (cs : List Char) : dropEndWhile p cs <+: cs := by
  have suffix := List.dropWhile_suffix p (l := cs.reverse)
  rwa [dropEndWhile, ← List.reverse_suffix, List.reverse_reverse]

theorem mem_of_mem_trimChars {c : Char} {cs : List Char} (member : c ∈ trimChars cs) : c ∈ cs :=
  (List.dropWhile_sublist _).mem ((dropEndWhile_isPrefix _ _).mem member)

theorem not_isBlank_of_getLast?_trimChars {c : Char} {cs : List Char}
    (last : (trimChars cs).getLast? = some c) : isBlank c = false := by
  rw [trimChars, dropEndWhile, List.getLast?_reverse] at last
  have stop := List.head?_dropWhile_not isBlank (cs.dropWhile isBlank).reverse
  rw [last] at stop
  exact stop

theorem not_isBlank_of_head?_trimChars {c : Char} {cs : List Char}
    (first : (trimChars cs).head? = some c) : isBlank c = false := by
  obtain ⟨cut, shape⟩ := dropEndWhile_isPrefix isBlank (cs.dropWhile isBlank)
  have stop := List.head?_dropWhile_not isBlank cs
  have front : (cs.dropWhile isBlank).head? = some c := by
    rw [← shape, List.head?_append, ← trimChars, first]
    rfl
  rw [front] at stop
  exact stop

theorem trimChars_trimChars (cs : List Char) : trimChars (trimChars cs) = trimChars cs :=
  trimChars_of_ends (fun _ first => not_isBlank_of_head?_trimChars first)
    fun _ last => not_isBlank_of_getLast?_trimChars last

theorem dropEndWhile_append_cons {p : Char → Bool} {c : Char} (kept : p c = false)
    (front back : List Char) :
    dropEndWhile p (front ++ c :: back) = front ++ c :: dropEndWhile p back := by
  rw [dropEndWhile, dropEndWhile, List.reverse_append, List.reverse_cons, List.append_assoc,
    List.dropWhile_append]
  split
  · next all =>
    rw [List.isEmpty_iff.mp all, List.singleton_append, List.dropWhile_cons_of_neg (by simp [kept])]
    simp
  · simp

/-- Blanks at the end do not count when a text is trimmed. -/
theorem trimChars_append_of_blank (cs : List Char) {tail : List Char}
    (blank : ∀ c ∈ tail, isBlank c = true) : trimChars (cs ++ tail) = trimChars cs := by
  have passed : ∀ c ∈ tail.reverse, isBlank c = true := fun c member => blank c (List.mem_reverse.mp member)
  have none : tail.dropWhile isBlank = [] := by
    rw [← List.append_nil tail, List.dropWhile_append_of_pos blank, List.dropWhile_nil]
  rw [trimChars, trimChars, List.dropWhile_append]
  split
  · next all => rw [List.isEmpty_iff.mp all, none]
  · rw [dropEndWhile, dropEndWhile, List.reverse_append, List.dropWhile_append_of_pos passed]

theorem trimChars_dropEndWhile {p : Char → Bool} (blank : ∀ c, p c = true → isBlank c = true)
    (cs : List Char) : trimChars (dropEndWhile p cs) = trimChars cs := by
  have shape : cs = dropEndWhile p cs ++ (cs.reverse.takeWhile p).reverse := by
    rw [dropEndWhile, ← List.reverse_append, List.takeWhile_append_dropWhile, List.reverse_reverse]
  have tail : ∀ c ∈ (cs.reverse.takeWhile p).reverse, isBlank c = true := fun c member =>
    blank c (List.all_eq_true.mp List.all_takeWhile c (List.mem_reverse.mp member))
  calc trimChars (dropEndWhile p cs)
      = trimChars (dropEndWhile p cs ++ (cs.reverse.takeWhile p).reverse) :=
        (trimChars_append_of_blank _ tail).symm
    _ = trimChars cs := by rw [← shape]

/-- No line end inside and no blank at the ends. -/
def Legible (s : String) : Prop := '\n' ∉ s.toList ∧ trim s = s

instance (s : String) : Decidable (Legible s) :=
  inferInstanceAs (Decidable ('\n' ∉ s.toList ∧ trim s = s))

theorem legible_trim {s : String} (single : '\n' ∉ s.toList) : Legible (trim s) := by
  refine ⟨?_, ?_⟩
  · rw [trim, String.toList_ofList]
    exact fun member => single (mem_of_mem_trimChars member)
  · rw [trim, trim, String.toList_ofList, trimChars_trimChars]

end Trimming

section Splitting

theorem splitAt_of_not_mem {separator : Char} {cs : List Char} (absent : separator ∉ cs) :
    splitAt separator cs = [cs] := by
  refine List.splitOnP_eq_singleton fun c member => decide_eq_false ?_
  rintro rfl
  exact absent member

theorem splitAt_append_cons {separator : Char} {piece : List Char} (absent : separator ∉ piece)
    (rest : List Char) :
    splitAt separator (piece ++ separator :: rest) = piece :: splitAt separator rest := by
  have plain : ∀ c ∈ piece, decide (c = separator) = false := by
    intro c member
    refine decide_eq_false ?_
    rintro rfl
    exact absent member
  exact List.splitOnP_append_cons_of_forall_mem plain separator (decide_eq_true rfl) rest

/-- The pieces give the text back. -/
theorem eq_of_splitAt {separator : Char} {cs first : List Char} {others : List (List Char)}
    (pieces : splitAt separator cs = first :: others) :
    cs = first ++ others.flatMap (separator :: ·) := by
  induction cs generalizing first others with
  | nil =>
    cases pieces
    rfl
  | cons c rest ih =>
    rw [splitAt, List.splitOnP_cons_eq_if_modifyHead] at pieces
    split at pieces
    · next isSeparator =>
      rw [decide_eq_true_eq] at isSeparator
      obtain ⟨next, later, split⟩ := List.exists_cons_of_ne_nil
        (List.splitOnP_ne_nil (· = separator) rest)
      rw [split] at pieces
      cases pieces
      rw [isSeparator, ih split]
      rfl
    · obtain ⟨next, later, split⟩ := List.exists_cons_of_ne_nil
        (List.splitOnP_ne_nil (· = separator) rest)
      rw [split, List.modifyHead_cons] at pieces
      cases pieces
      rw [ih split]
      rfl

/-- Pieces without the separator are found again. -/
theorem splitAt_flatMap {separator : Char} {first : List Char} {others : List (List Char)}
    (absent : separator ∉ first) (elsewhere : ∀ piece ∈ others, separator ∉ piece) :
    splitAt separator (first ++ others.flatMap (separator :: ·)) = first :: others := by
  induction others generalizing first with
  | nil => simpa using splitAt_of_not_mem absent
  | cons next later ih =>
    obtain ⟨here, there⟩ := List.forall_mem_cons.mp elsewhere
    rw [List.flatMap_cons, List.cons_append, splitAt_append_cons absent, ih here there]

theorem not_mem_of_mem_splitAt {separator : Char} {cs piece : List Char}
    (member : piece ∈ splitAt separator cs) : separator ∉ piece := by
  induction cs generalizing piece with
  | nil =>
    rw [splitAt, List.splitOnP_nil, List.mem_singleton] at member
    rw [member]
    exact List.not_mem_nil
  | cons c rest ih =>
    rw [splitAt, List.splitOnP_cons_eq_if_modifyHead] at member
    split at member
    · rcases List.mem_cons.mp member with rfl | later
      · exact List.not_mem_nil
      · exact ih later
    · next other =>
      obtain ⟨next, later, shape⟩ := List.exists_cons_of_ne_nil
        (List.splitOnP_ne_nil (· = separator) rest)
      have below : ∀ piece ∈ next :: later, separator ∉ piece :=
        fun piece inside => ih (by rw [splitAt, shape]; exact inside)
      rw [shape, List.modifyHead_cons] at member
      rcases List.mem_cons.mp member with rfl | inside
      · intro here
        rcases List.mem_cons.mp here with same | there
        · exact other (decide_eq_true same.symm)
        · exact below next List.mem_cons_self there
      · exact below piece (List.mem_cons_of_mem _ inside)

theorem splitOnce?_append {separator : Char} {front : List Char} (absent : separator ∉ front)
    (back : List Char) :
    splitOnce? separator (front ++ separator :: back) = some (front, back) := by
  have passed : ∀ c ∈ front, decide (c ≠ separator) = true := by
    intro c member
    refine decide_eq_true ?_
    rintro rfl
    exact absent member
  rw [splitOnce?, List.dropWhile_append_of_pos passed, List.takeWhile_append_of_pos passed]
  simp

theorem splitOnce?_eq_some {separator : Char} {cs front back : List Char}
    (split : splitOnce? separator cs = some (front, back)) :
    separator ∉ front ∧ ∃ c, cs = front ++ c :: back := by
  unfold splitOnce? at split
  split at split
  · next c after shape =>
    cases split
    refine ⟨fun member => ?_, c, ?_⟩
    · have passed := List.all_eq_true.mp List.all_takeWhile separator member
      simp at passed
    · rw [← shape, List.takeWhile_append_dropWhile]
  · cases split

end Splitting

end Settings.Text
