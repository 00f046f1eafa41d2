import Settings.Container.Children
import Settings.Proofs.Numeral
import Settings.Proofs.Stored.Key
import Settings.Proofs.Stored.Leaves

/-!
# Lines are read back

Which lines survive being written and read again, and that every line that was read is one of these.

* `ofText_join_trimmed`: lines of which each has a line of its own are read back with trimmed values.
* `writable_of_mem_ofText`: lines that were read can be written.
-/
namespace Settings

/-- Neither the root nor a name on the path has a dot. -/
theorem not_mem_of_keyPath? {root : String} {cs : List Char} {path : List String}
    (named : keyPath? root cs = some path) : ∀ name ∈ root :: path, '.' ∉ name.toList := by
  unfold keyPath? at named
  split at named
  · next first others segments =>
    split at named
    · next fits =>
      cases named
      intro name member
      have inside : name ∈ keySegments cs := by
        rw [segments, fits.1]
        exact member
      obtain ⟨piece, cut, rfl⟩ := List.mem_map.mp inside
      rw [String.toList_ofList]
      exact Text.not_mem_of_mem_splitAt cut
    · cases named
  · cases named

/-- Characters of a key are those of the root, dots and those of the names. -/
theorem mem_foldl_childKey {root : String} {path : List String} {c : Char} :
    c ∈ (path.foldl childKey root).toList ↔
      c ∈ root.toList ∨ ∃ name ∈ path, c = '.' ∨ c ∈ name.toList := by
  rw [toList_foldl_childKey, List.mem_append, List.flatMap_map, List.mem_flatMap]
  simp

theorem getLast?_foldl_childKey (root : String) (above : List String) {name : String}
    (proper : name ≠ "") :
    ((above ++ [name]).foldl childKey root).toList.getLast? = name.toList.getLast? := by
  have chars : name.toList ≠ [] := fun empty => proper (String.toList_eq_nil_iff.mp empty)
  rw [List.foldl_append, List.foldl_cons, List.foldl_nil, childKey, String.toList_append,
    List.getLast?_append, List.getLast?_eq_some_getLast chars, Option.some_or]

/-- What a name on the way to a value can be in a settings text. -/
structure IsSegment (name : String) : Prop where
  proper : name ≠ ""
  plain : ∀ c ∈ name.toList, c ≠ '.' ∧ c ≠ '=' ∧ c ≠ '\n'

/-- Keys that can be attached are segments, and none of their characters is blank. -/
theorem isSegment_of_isValidKey {key : String} (valid : isValidKey key = true) : IsSegment key := by
  simp only [isValidKey, Bool.and_eq_true, decide_eq_true_eq, List.all_eq_true] at valid
  refine ⟨valid.1, fun c member => ?_⟩
  obtain ⟨⟨⟨dot, equals⟩, _⟩, blank⟩ := by simpa using valid.2 c member
  refine ⟨dot, equals, ?_⟩
  rintro rfl
  exact absurd blank (by decide)

theorem not_isBlank_of_isValidKey {key : String} (valid : isValidKey key = true) {c : Char}
    (member : c ∈ key.toList) : Text.isBlank c = false ∧ c ≠ '#' := by
  simp only [isValidKey, Bool.and_eq_true, List.all_eq_true] at valid
  obtain ⟨⟨_, hash⟩, blank⟩ := by simpa using valid.2 c member
  exact ⟨blank, hash⟩

/-- What a root must be for the keys below it to be read back. -/
structure IsRootName (root : String) : Prop where
  plain : ∀ c ∈ root.toList, c ≠ '.' ∧ c ≠ '=' ∧ c ≠ '\n'
  /-- Blanks in front would be trimmed, and a number sign would start a comment. -/
  start : ∀ c ∈ root.toList.head?, Text.isBlank c = false ∧ c ≠ '#'

/-- Keys that can be attached can be roots. -/
theorem isRootName_of_isValidKey {root : String} (valid : isValidKey root = true) :
    IsRootName root :=
  ⟨(isSegment_of_isValidKey valid).plain, fun _ first =>
    not_isBlank_of_isValidKey valid (List.mem_of_head? first)⟩

namespace IsRootName

variable {root : String}

/-- A key starts as its root does, or with a dot. -/
theorem start_key (rooted : IsRootName root) {path : List String} (proper : path ≠ []) {c : Char}
    (first : (path.foldl childKey root).toList.head? = some c) : Text.isBlank c = false ∧ c ≠ '#' := by
  obtain ⟨name, rest, rfl⟩ := List.exists_cons_of_ne_nil proper
  rw [toList_foldl_childKey, List.head?_append] at first
  cases own : root.toList.head? with
  | none =>
    rw [own] at first
    cases first
    exact ⟨by decide, by decide⟩
  | some d =>
    rw [own] at first
    cases first
    exact rooted.start _ own

end IsRootName

namespace Line

/-- Written and read again, the line is the same, if it has a path at all. -/
structure Writable (line : Line) : Prop where
  names : ∀ name ∈ line.path, IsSegment name
  /-- The key has no blank at its end. -/
  ending : ∀ name ∈ line.path.getLast?, ∀ c ∈ name.toList.getLast?, Text.isBlank c = false
  value : Text.Legible line.value

variable {root : String} {line : Line}

theorem writable_of_legible {value : String} (legible : Text.Legible value) :
    Writable ⟨[], value⟩ := by
  refine ⟨?_, ?_, legible⟩
  · exact fun _ member => nomatch member
  · exact fun _ last => nomatch last

/-- Keys that can be attached can be put in front. -/
theorem Writable.below (writable : line.Writable) {name : String} (valid : isValidKey name = true) :
    (line.below name).Writable := by
  refine ⟨List.forall_mem_cons.mpr ⟨isSegment_of_isValidKey valid, writable.names⟩, ?_, writable.value⟩
  intro last ending c closing
  rw [Line.below] at ending
  cases shape : line.path with
  | nil =>
    rw [shape] at ending
    cases ending
    exact (not_isBlank_of_isValidKey valid (List.mem_of_getLast? closing)).1
  | cons next rest =>
    rw [shape, List.getLast?_cons_cons, ← shape] at ending
    exact writable.ending last ending c closing

theorem Writable.exists_last (writable : line.Writable) (proper : line.path ≠ []) :
    ∃ above name, line.path = above ++ [name] ∧ name ≠ "" ∧
      ∀ c ∈ name.toList.getLast?, Text.isBlank c = false := by
  obtain ⟨above, name, shape⟩ := List.eq_nil_or_concat line.path |>.resolve_left proper
  rw [List.concat_eq_append] at shape
  refine ⟨above, name, shape, (writable.names name (by simp [shape])).proper, ?_⟩
  exact writable.ending name (by simp [shape])

theorem Writable.not_mem_key (writable : line.Writable) (rooted : IsRootName root) :
    '=' ∉ (line.key root).toList ∧ '\n' ∉ (line.key root).toList := by
  have plain : ∀ c ∈ (line.key root).toList, c ≠ '=' ∧ c ≠ '\n' := by
    intro c member
    rcases mem_foldl_childKey.mp member with inside | ⟨name, there, rfl | inside⟩
    · exact (rooted.plain c inside).2
    · decide
    · exact ((writable.names name there).plain c inside).2
  exact ⟨fun member => (plain _ member).1 rfl, fun member => (plain _ member).2 rfl⟩

theorem Writable.trimChars_key (writable : line.Writable) (proper : line.path ≠ [])
    (rooted : IsRootName root) :
    Text.trimChars (line.key root).toList = (line.key root).toList := by
  obtain ⟨above, name, shape, named, ending⟩ := writable.exists_last proper
  refine Text.trimChars_of_ends (fun c first => (rooted.start_key proper first).1) fun c last => ?_
  rw [key, shape, getLast?_foldl_childKey root above named] at last
  exact ending c last

/-- The key, the equals sign and the value of a line. -/
def chars (root : String) (line : Line) : List Char :=
  (line.key root).toList ++ '=' :: line.value.toList

theorem toList_text (root : String) (line : Line) :
    (line.text root).toList = line.chars root ++ ['\n'] := by
  simp [text, chars]

/-- The line as it is read back. -/
def trimmed (line : Line) : Line := ⟨line.path, Text.trim line.value⟩

/-- The line is written on one line, which names its path. -/
structure Printable (line : Line) : Prop where
  trimmed : line.trimmed.Writable
  single : '\n' ∉ line.value.toList

theorem printable_of_single {value : String} (single : '\n' ∉ value.toList) :
    Printable ⟨[], value⟩ :=
  ⟨writable_of_legible (Text.legible_trim single), single⟩

theorem Printable.below (printable : line.Printable) {name : String} (valid : isValidKey name = true) :
    (line.below name).Printable :=
  ⟨printable.trimmed.below valid, printable.single⟩

theorem Writable.trimmed_eq (writable : line.Writable) : line.trimmed = line := by
  rw [trimmed, writable.value.2]

theorem Writable.printable (writable : line.Writable) : line.Printable :=
  ⟨writable.trimmed_eq.symm ▸ writable, writable.value.1⟩

theorem Printable.not_mem_chars (printable : line.Printable) (rooted : IsRootName root) :
    '\n' ∉ line.chars root := by
  rw [chars, List.mem_append, List.mem_cons]
  rintro (inside | sign | inside)
  · exact (printable.trimmed.not_mem_key rooted).2 inside
  · exact absurd sign (by decide)
  · exact printable.single inside

/-- What is cut off at the end of a line is cut off its value. -/
theorem dropEndWhile_chars (root : String) (line : Line) :
    Text.dropEndWhile (· = '\r') (line.chars root) =
      (line.key root).toList ++ '=' :: Text.dropEndWhile (· = '\r') line.value.toList :=
  Text.dropEndWhile_append_cons (by decide) _ _

/-- A key below a root does not start a comment. -/
theorem exists_key_cons (proper : line.path ≠ []) (rooted : IsRootName root) :
    ∃ c rest, (line.key root).toList = c :: rest ∧ c ≠ '#' := by
  have dotted : '.' ∈ (line.key root).toList := by
    obtain ⟨name, rest, shape⟩ := List.exists_cons_of_ne_nil proper
    exact mem_foldl_childKey.mpr (.inr ⟨name, by simp [shape], .inl rfl⟩)
  obtain ⟨c, rest, shape⟩ := List.exists_cons_of_ne_nil (List.ne_nil_of_mem dotted)
  exact ⟨c, rest, shape, (rooted.start_key proper (by rw [← key, shape]; rfl)).2⟩

theorem Writable.keyPath?_key (writable : line.Writable) (proper : line.path ≠ [])
    (rooted : IsRootName root) : keyPath? root (line.key root).toList = some line.path := by
  refine Settings.keyPath?_key (fun dot => (rooted.plain _ dot).1 rfl) proper fun name member => ?_
  have segment := writable.names name member
  exact ⟨segment.proper, fun dot => (segment.plain _ dot).1 rfl⟩

/-- A line on a line of its own is read back with its value trimmed. -/
theorem Printable.ofChars?_chars (printable : line.Printable) (proper : line.path ≠ [])
    (rooted : IsRootName root) : ofChars? root (line.chars root) = some line.trimmed := by
  have writable := printable.trimmed
  have named : keyPath? root (line.key root).toList = some line.path := writable.keyPath?_key proper rooted
  have whole : Text.trimChars (line.key root).toList = (line.key root).toList :=
    writable.trimChars_key proper rooted
  have value : Text.trimChars (Text.dropEndWhile (· = '\r') line.value.toList) =
      Text.trimChars line.value.toList := by
    refine Text.trimChars_dropEndWhile (fun c same => ?_) _
    rw [of_decide_eq_true same]
    decide
  have cut := Text.splitOnce?_append (writable.not_mem_key rooted).1
    (Text.dropEndWhile (· = '\r') line.value.toList)
  obtain ⟨c, rest, shape, noComment⟩ := exists_key_cons proper rooted
  have start : (Text.dropEndWhile (· = '\r') (line.chars root)).isEmpty = false ∧
      (Text.dropEndWhile (· = '\r') (line.chars root)).head? ≠ some '#' := by
    rw [dropEndWhile_chars, shape]
    simp [noComment]
  have key : line.trimmed.key root = line.key root := rfl
  rw [key, ← dropEndWhile_chars] at cut
  rw [ofChars?]
  simp [start, cut, whole, named, value, Line.trimmed, Text.trim]

/-- Lines of which each has a line of its own are read back, in order and with trimmed values. -/
theorem ofText_join_trimmed {lines : List Line} (rooted : IsRootName root)
    (printable : ∀ line ∈ lines, line.path ≠ [] ∧ line.Printable) :
    ofText root (String.join (lines.map (Line.text root))) = lines.map trimmed := by
  rw [ofText]
  induction lines with
  | nil => rfl
  | cons line rest ih =>
    obtain ⟨⟨proper, first⟩, others⟩ := List.forall_mem_cons.mp printable
    rw [List.map_cons, String.join_cons, String.toList_append, toList_text, List.append_assoc,
      List.singleton_append, Text.splitAt_append_cons (first.not_mem_chars rooted),
      List.filterMap_cons, first.ofChars?_chars proper rooted, ih others, List.map_cons]

/-- What a line that was read consisted of: the key with blanks around it, and the value. -/
theorem ofChars?_eq_some {cs : List Char} (read : ofChars? root cs = some line) :
    ∃ front back, '=' ∉ front ∧ (∀ c, c ∈ front ∨ c ∈ back → c ∈ cs) ∧
      Text.trimChars front = (line.key root).toList ∧
      keyPath? root (Text.trimChars front) = some line.path ∧
      line.value.toList = Text.trimChars back := by
  unfold ofChars? at read
  dsimp only at read
  split at read
  · cases read
  · obtain ⟨⟨front, back⟩, cut, read⟩ := Option.bind_eq_some_iff.mp read
    obtain ⟨path, named, same⟩ := Option.bind_eq_some_iff.mp read
    cases same
    obtain ⟨unsigned, sign, shape⟩ := Text.splitOnce?_eq_some cut
    refine ⟨front, back, unsigned, fun c member => ?_, (keyPath?_eq_some named).1, named, ?_⟩
    · refine (Text.dropEndWhile_isPrefix (· = '\r') cs).mem ?_
      rw [shape, List.mem_append, List.mem_cons]
      exact member.imp_right .inr
    · exact String.toList_ofList

/-- A line that was read can be written. -/
theorem writable_of_ofChars? {cs : List Char} (single : '\n' ∉ cs)
    (read : ofChars? root cs = some line) : line.Writable := by
  obtain ⟨front, back, unsigned, inside, whole, named, value⟩ := ofChars?_eq_some read
  obtain ⟨_, _, nonempty⟩ := keyPath?_eq_some named
  have ofName : ∀ name ∈ line.path, ∀ c ∈ name.toList, c ∈ front := by
    intro name member c here
    refine Text.mem_of_mem_trimChars ?_
    rw [whole]
    exact mem_foldl_childKey.mpr (.inr ⟨name, member, .inr here⟩)
  refine ⟨fun name member => ⟨nonempty name member, fun c here => ⟨?_, ?_, ?_⟩⟩, ?_, ?_, ?_⟩
  · rintro rfl
    exact not_mem_of_keyPath? named name (List.mem_cons_of_mem _ member) here
  · rintro rfl
    exact unsigned (ofName name member _ here)
  · rintro rfl
    exact single (inside _ (.inl (ofName name member _ here)))
  · intro name last c ending
    obtain ⟨above, shape⟩ : ∃ above, line.path = above ++ [name] :=
      List.getLast?_eq_some_iff.mp last
    have proper := nonempty name (by simp [shape])
    have closing : (Text.trimChars front).getLast? = some c := by
      rw [whole, key, shape, getLast?_foldl_childKey root above proper]
      exact ending
    exact Text.not_isBlank_of_getLast?_trimChars closing
  · rw [value]
    exact fun member => single (inside _ (.inr (Text.mem_of_mem_trimChars member)))
  · rw [Text.trim, value, Text.trimChars_trimChars, ← value, String.ofList_toList]

/-- A root under which a line was read is one under which lines are read back, unless it starts
comments. -/
theorem isRootName_of_ofChars? {cs : List Char} (single : '\n' ∉ cs)
    (read : ofChars? root cs = some line) (noComment : root.toList.head? ≠ some '#') :
    IsRootName root := by
  obtain ⟨front, back, unsigned, inside, whole, named, _⟩ := ofChars?_eq_some read
  have ofRoot : ∀ c ∈ root.toList, c ∈ front := by
    intro c here
    refine Text.mem_of_mem_trimChars ?_
    rw [whole]
    exact mem_foldl_childKey.mpr (.inl here)
  refine ⟨fun c here => ⟨?_, ?_, ?_⟩, fun c first => ⟨?_, ?_⟩⟩
  · rintro rfl
    exact not_mem_of_keyPath? named root List.mem_cons_self here
  · rintro rfl
    exact unsigned (ofRoot _ here)
  · rintro rfl
    exact single (inside _ (.inl (ofRoot _ here)))
  · have start : (Text.trimChars front).head? = some c := by
      rw [whole, key, toList_foldl_childKey, List.head?_append, first]
      rfl
    exact Text.not_isBlank_of_head?_trimChars start
  · rintro rfl
    exact noComment first

/-- Lines that were read can be written. -/
theorem writable_of_mem_ofText {text : String} (member : line ∈ ofText root text) :
    line.Writable := by
  obtain ⟨cs, piece, read⟩ := List.mem_filterMap.mp member
  exact writable_of_ofChars? (Text.not_mem_of_mem_splitAt piece) read

theorem isRootName_of_mem_ofText {text : String} (member : line ∈ ofText root text)
    (noComment : root.toList.head? ≠ some '#') : IsRootName root := by
  obtain ⟨cs, piece, read⟩ := List.mem_filterMap.mp member
  exact isRootName_of_ofChars? (Text.not_mem_of_mem_splitAt piece) read noComment

end Line

end Settings
