import Settings.Proofs.Storage
import Settings.Proofs.Stored.Codec
import Settings.Proofs.Tree.Operation
import Settings.Tool.Run

/-!
# Setting a value and getting it

The tool keeps the entries of a settings file in an empty tree, writes them back with the one that was
set, and reads that file in the next run.

* `get_of_set`: what is found after a value was set.
* `get_of_not_fitsLine`: a key that cannot stand on a line is never found.
-/
namespace Settings.Tool

variable {s s' : Storage} {path root key value out : String}

/-- What a command shows, and the storage that it leaves. -/
def performed (s : Storage) (path root : String) (command : Command) : Outcome × Storage :=
  (perform Storage.disk path root command).run s

/-- The path that a key on the command line means. -/
def path? (root key : String) : Option (List String) := keyPath? root (fullKey root key).toList

/-- The keys name paths of which neither leads on from the other. -/
def Elsewhere (root key other : String) : Prop :=
  ∀ p q, path? root key = some p → path? root other = some q → Apart p q

/-- The key can stand in front of an equals sign on a line of its own. -/
structure FitsLine (key : String) : Prop where
  plain : ∀ c ∈ key.toList, c ≠ '=' ∧ c ≠ '\n'
  ending : ∀ c ∈ key.toList.getLast?, Text.isBlank c = false

/-- A tree without children. -/
def holding (root : String) (entries : Level) : Tree := ⟨root, ⟨.named, [], entries⟩⟩

section Keys

/-- A key is what stands behind the root and a dot, or does not need them. -/
theorem toList_fullKey (root key : String) :
    ∃ front, (fullKey root key).toList = front ++ key.toList ∧
      (front = [] ∨ front = root.toList ++ ['.']) := by
  unfold fullKey
  split
  · exact ⟨[], rfl, .inl rfl⟩
  · refine ⟨root.toList ++ ['.'], ?_, .inr rfl⟩
    simp [childKey]

/-- The names of a key that fits on a line, below a root that can be attached. -/
theorem FitsLine.writable {p : List String} (fits : FitsLine key) (valid : isValidKey root = true)
    (named : path? root key = some p) (value : String) (legible : Text.Legible value) :
    Line.Writable ⟨p, value⟩ := by
  obtain ⟨whole, proper, nonempty⟩ := keyPath?_eq_some named
  obtain ⟨front, shape, short⟩ := toList_fullKey root key
  have plain : ∀ c ∈ (fullKey root key).toList, c ≠ '=' ∧ c ≠ '\n' := by
    intro c member
    rw [shape, List.mem_append] at member
    rcases member with inside | inside
    · rcases short with rfl | rfl
      · cases inside
      · rcases List.mem_append.mp inside with own | dot
        · exact ((isSegment_of_isValidKey valid).plain c own).2
        · rw [List.mem_singleton.mp dot]
          decide
    · exact fits.plain c inside
  refine ⟨fun name member => ⟨nonempty name member, fun c inside => ⟨?_, ?_⟩⟩, ?_, legible⟩
  · rintro rfl
    exact not_mem_of_keyPath? named name (List.mem_cons_of_mem _ member) inside
  · refine plain c ?_
    rw [whole]
    exact mem_foldl_childKey.mpr (.inr ⟨name, member, .inr inside⟩)
  · intro name last c closing
    obtain ⟨above, rfl⟩ := List.getLast?_eq_some_iff.mp last
    have named' := nonempty name (by simp)
    have ending : (fullKey root key).toList.getLast? = some c := by
      rw [whole, getLast?_foldl_childKey root above named']
      exact closing
    rw [shape, List.getLast?_append] at ending
    cases own : key.toList.getLast? with
    | some d =>
      rw [own, Option.some_or] at ending
      cases ending
      exact fits.ending _ own
    | none =>
      rw [own, Option.none_or] at ending
      rcases short with rfl | rfl
      · cases ending
      · rw [List.getLast?_concat] at ending
        cases ending
        exact absurd (List.mem_of_getLast? closing)
          (not_mem_of_keyPath? named name (by simp))

/-- Keys of values that were read fit on a line. -/
theorem fitsLine_of_writable {p : List String} (writable : Line.Writable ⟨p, value⟩)
    (valid : isValidKey root = true) (named : path? root key = some p) : FitsLine key := by
  have rooted := isRootName_of_isValidKey valid
  have whole : (fullKey root key).toList = (Line.key root ⟨p, value⟩).toList := (keyPath?_eq_some named).1
  have proper : p ≠ [] := (keyPath?_eq_some named).2.1
  obtain ⟨front, shape, _⟩ := toList_fullKey root key
  rw [shape] at whole
  have plain := writable.not_mem_key rooted
  refine ⟨fun c member => ⟨?_, ?_⟩, fun c last => ?_⟩
  · rintro rfl
    exact plain.1 (whole ▸ List.mem_append_right front member)
  · rintro rfl
    exact plain.2 (whole ▸ List.mem_append_right front member)
  · have closing : (Line.key root ⟨p, value⟩).toList.getLast? = some c := by
      rw [← whole, List.getLast?_append, last]
      rfl
    rw [← writable.trimChars_key proper rooted] at closing
    exact Text.not_isBlank_of_getLast?_trimChars closing

end Keys

section Rewriting

/-- The leaves that are read from the text of a map that was read, once a value was put in it. -/
theorem get?_ofText_text_insertAt (valid : isValidKey root = true) (text : String) {p q : List String}
    (printable : Line.Printable ⟨p, value⟩) (proper : q ≠ []) (w : String) :
    (Level.ofText root (Level.text root ((Level.ofText root text).insertAt p (.leaf value)))).get? q =
        some (.leaf w) ↔
      ∃ own, ((Level.ofText root text).insertAt p (.leaf value)).get? q = some (.leaf own) ∧
        w = Text.trim own := by
  have canonical := Level.canonical_insertAt (Level.canonical_ofText root text) p
    (Stored.canonical_leaf value)
  have legible : Level.Printable ((Level.ofText root text).insertAt p (.leaf value)) := by
    intro path own found
    rcases Level.leaf_of_insertAt found with ⟨rfl, rfl⟩ | before
    · exact printable
    · exact ((Level.writable_ofText root text) path own before).printable
  rw [Level.get?_eq_at? proper, Level.get?_eq_at? proper]
  exact Level.leaf_ofText_text_trimmed_iff (isRootName_of_isValidKey valid) canonical legible q w

theorem get?_rewritten_self (valid : isValidKey root = true) (text : String) {p : List String}
    (printable : Line.Printable ⟨p, value⟩) (proper : p ≠ []) :
    (Level.ofText root (Level.text root ((Level.ofText root text).insertAt p (.leaf value)))).get? p =
      some (.leaf (Text.trim value)) := by
  refine (get?_ofText_text_insertAt valid text printable proper _).mpr ⟨value, ?_, rfl⟩
  exact Level.get?_insertAt _ proper _

/-- Leaves apart from the value that was put in come back as they were. -/
theorem leaf?_rewritten_of_apart (valid : isValidKey root = true) (text : String) {p q : List String}
    (printable : Line.Printable ⟨p, value⟩) (apart : Apart p q) :
    ((Level.ofText root (Level.text root ((Level.ofText root text).insertAt p (.leaf value)))).get?
        q).bind Stored.leaf? = ((Level.ofText root text).get? q).bind Stored.leaf? := by
  have proper : q ≠ [] := by
    rintro rfl
    exact not_apart_nil p apart
  refine Option.ext fun w => ?_
  rw [Stored.bind_leaf?_eq_some_iff, Stored.bind_leaf?_eq_some_iff,
    get?_ofText_text_insertAt valid text printable proper, Level.get?_insertAt_of_apart _ _ apart]
  have trimmed : ∀ own, (Level.ofText root text).get? q = some (.leaf own) → Text.trim own = own := by
    intro own found
    rw [Level.get?_eq_at? proper] at found
    exact (Level.writable_ofText root text q own found).value.2
  constructor
  · rintro ⟨own, found, rfl⟩
    rw [trimmed own found]
    exact found
  · intro found
    exact ⟨w, found, (trimmed w found).symm⟩

end Rewriting

section Running

theorem load_named (root : String) : (Tree.named root).load = ⟨Tree.named root, []⟩ := rfl

theorem load_readText_named (root text : String) :
    ((Tree.named root).readText text true).result.load = ⟨holding root (Level.ofText root text), []⟩ :=
  rfl

theorem ofText_empty (root : String) : Level.ofText root "" = [] := rfl

theorem storedValue?_holding (root key : String) (entries : Level) :
    (holding root entries).storedValue? key =
      (keyPath? root key.toList).bind fun p => (entries.get? p).bind Stored.leaf? := rfl

/-- The tree that the tool opens has the lines of the file. -/
theorem openTree_of_readText {text : String} (read : s.readText path = .ok text) (create : Bool) :
    (openTree Storage.disk path root create).run s =
      (.ok (holding root (Level.ofText root text)), s) := by
  simp [openTree, SettingsFile.load, Storage.disk, read, load_readText_named]
  rfl

/-- Where a file is made, one that is not there has no lines. -/
theorem openTree_of_missing (missing : s.readText path = .error .missing) :
    (openTree Storage.disk path root true).run s = (.ok (holding root (Level.ofText root "")), s) := by
  simp [openTree, SettingsFile.load, Storage.disk, missing, load_named]
  rfl

theorem openTree_of_fault {fault : FileFault} (unread : s.readText path = .error fault)
    {create : Bool} (refused : ¬ (create = true ∧ fault = .missing)) :
    (openTree Storage.disk path root create).run s =
      (.error (.cannotOpen (.unreadable path fault)), s) := by
  simp [openTree, SettingsFile.load, Storage.disk, unread, refused]
  rfl

/-- What `get` shows of stored entries. -/
def answer (root key : String) (entries : Level) : Outcome :=
  printedBy root (holding root entries) (.get key)

theorem answer_of_leaf {p : List String} {entries : Level} (named : path? root key = some p)
    (found : entries.get? p = some (.leaf value)) : answer root key entries = .printed (value ++ "\n") := by
  rw [answer, printedBy, storedValue?_holding]
  rw [path?] at named
  simp [named, found, Stored.leaf?]

theorem answer_of_no_leaf {entries : Level} (absent : ∀ p, path? root key = some p →
    (entries.get? p).bind Stored.leaf? = none) :
    answer root key entries = .failed (.notSet (fullKey root key)) := by
  rw [answer, printedBy, storedValue?_holding]
  cases named : keyPath? root (fullKey root key).toList with
  | none => rfl
  | some p => rw [Option.bind_some, absent p named]

/-- An answer depends on the leaf at the path of the key only. -/
theorem answer_congr {entries others : Level}
    (same : ∀ p, path? root key = some p →
      (entries.get? p).bind Stored.leaf? = (others.get? p).bind Stored.leaf?) :
    answer root key entries = answer root key others := by
  rw [answer, answer, printedBy, printedBy, storedValue?_holding, storedValue?_holding]
  cases named : keyPath? root (fullKey root key).toList with
  | none => rfl
  | some p => simp only [Option.bind_some, same p named]

theorem performed_get_of_readText {text : String} (read : s.readText path = .ok text) :
    performed s path root (.get key) = (answer root key (Level.ofText root text), s) := by
  simp [performed, perform, openTree_of_readText read false, answer]
  rfl

theorem saveTree_disk (t : Tree) (path : String) (s : Storage) :
    (saveTree Storage.disk path t).run s =
      match s.write path t.text.toUTF8 with
      | .ok s' => (.printed "", s')
      | .error fault => (.failed (.settings (.unwritable path fault)), s) := by
  cases written : s.write path t.text.toUTF8 <;>
    (simp [saveTree, SettingsFile.save, Storage.disk, written, -String.toUTF8_eq_toByteArray]; rfl)

/-- Of a key that does not fit on a line no value is found, whatever was set. -/
theorem get_of_not_fitsLine (valid : isValidKey root = true) (unfit : ¬ FitsLine key) {text : String}
    (read : s.readText path = .ok text) :
    performed s path root (.get key) = (.failed (.notSet (fullKey root key)), s) := by
  rw [performed_get_of_readText read, answer_of_no_leaf]
  intro p named
  refine Option.eq_none_iff_forall_ne_some.mpr fun w found => unfit ?_
  rw [Stored.bind_leaf?_eq_some_iff, Level.get?_eq_at? (keyPath?_eq_some named).2.1] at found
  exact fitsLine_of_writable (Level.writable_ofText root text p w found) valid named

/-- What `set` does to the file that holds the entries. -/
theorem performed_set_of_opened {entries : Level}
    (opened : (openTree Storage.disk path root true).run s = (.ok (holding root entries), s)) :
    performed s path root (.set key value) =
      match path? root key with
      | none => (.failed (.settings (.unknownPath (fullKey root key))), s)
      | some p =>
        match s.write path (Level.text root (entries.insertAt p (.leaf value))).toUTF8 with
        | .ok s' => (.printed "", s')
        | .error fault => (.failed (.settings (.unwritable path fault)), s) := by
  simp only [performed, perform, StateT.run_bind, opened]
  simp only [bind]
  cases named : path? root key with
  | none =>
    have nameless : (holding root entries).path? (fullKey root key) = none := named
    rw [Tree.setStored, nameless]
    rfl
  | some p =>
    have meant : (holding root entries).path? (fullKey root key) = some p := named
    rw [Tree.setStored_of_path? meant]
    exact saveTree_disk (holding root (entries.insertAt p (.leaf value))) path s

/-- A value that was set is in the file with the entries that it had. -/
theorem set_eq_printed (done : (performed s path root (.set key value)).1 = .printed out) :
    ∃ text p s', (s.readText path = .ok text ∨ s.readText path = .error .missing ∧ text = "") ∧
      path? root key = some p ∧
      s'.readText path = .ok (Level.text root ((Level.ofText root text).insertAt p (.leaf value))) ∧
      performed s path root (.set key value) = (.printed "", s') := by
  have written : ∀ text, (openTree Storage.disk path root true).run s =
      (.ok (holding root (Level.ofText root text)), s) → ∃ p s', path? root key = some p ∧
      s'.readText path = .ok (Level.text root ((Level.ofText root text).insertAt p (.leaf value))) ∧
      performed s path root (.set key value) = (.printed "", s') := by
    intro text opened
    rw [performed_set_of_opened opened] at done ⊢
    cases named : path? root key with
    | none =>
      rw [named] at done
      cases done
    | some p =>
      rw [named] at done
      dsimp only at done ⊢
      split at done
      · next s' stored => exact ⟨p, s', rfl, Storage.readText_write stored, rfl⟩
      · cases done
  cases read : s.readText path with
  | ok text =>
    obtain ⟨p, s', named, stored, ran⟩ := written text (openTree_of_readText read true)
    exact ⟨text, p, s', .inl rfl, named, stored, ran⟩
  | error fault =>
    by_cases missing : fault = .missing
    · subst missing
      obtain ⟨p, s', named, stored, ran⟩ := written "" (openTree_of_missing read)
      exact ⟨"", p, s', .inr ⟨rfl, rfl⟩, named, stored, ran⟩
    · simp [performed, perform, openTree_of_fault read fun both => missing both.2] at done
      cases done

/-- After a value was set under a key that fits on a line, the key has it without the blanks around
it. -/
theorem performed_get_of_set (valid : isValidKey root = true) (fits : FitsLine key)
    (single : '\n' ∉ value.toList)
    (done : (performed s path root (.set key value)).1 = .printed out) :
    performed (performed s path root (.set key value)).2 path root (.get key) =
      (.printed (Text.trim value ++ "\n"), (performed s path root (.set key value)).2) := by
  obtain ⟨text, p, s', _, named, after, ran⟩ := set_eq_printed done
  have printable : Line.Printable ⟨p, value⟩ :=
    ⟨fits.writable valid named _ (Text.legible_trim single), single⟩
  have found := get?_rewritten_self valid text printable (keyPath?_eq_some named).2.1
  rw [ran, performed_get_of_readText after, answer_of_leaf named found]

/-- What the keys elsewhere answer after a value was set. A file that was not there had no values. -/
theorem performed_get_of_set_elsewhere (valid : isValidKey root = true) (fits : FitsLine key)
    (single : '\n' ∉ value.toList)
    (done : (performed s path root (.set key value)).1 = .printed out) {other : String}
    (elsewhere : Elsewhere root key other) :
    (performed (performed s path root (.set key value)).2 path root (.get other)).1 =
      match s.readText path with
      | .ok _ => (performed s path root (.get other)).1
      | .error _ => .failed (.notSet (fullKey root other)) := by
  obtain ⟨text, p, s', before, named, after, ran⟩ := set_eq_printed done
  have printable : Line.Printable ⟨p, value⟩ :=
    ⟨fits.writable valid named _ (Text.legible_trim single), single⟩
  have same : answer root other (Level.ofText root (Level.text root
      ((Level.ofText root text).insertAt p (.leaf value)))) = answer root other (Level.ofText root text) :=
    answer_congr fun q meant =>
      leaf?_rewritten_of_apart valid text printable (elsewhere p q named meant)
  rw [ran, performed_get_of_readText after, same]
  rcases before with read | ⟨missing, rfl⟩
  · rw [read, performed_get_of_readText read]
  · rw [missing]
    exact answer_of_no_leaf fun q _ => by rw [ofText_empty, Level.get?_empty]; rfl

/-- A value that was set under a key that fits on a line is found without the blanks around it, so as
it is if it has none. The keys elsewhere answer as before. -/
theorem get_of_set (valid : isValidKey root = true) (fits : FitsLine key) (single : '\n' ∉ value.toList)
    (done : (performed s path root (.set key value)).1 = .printed out) :
    ∃ s', performed s path root (.set key value) = (.printed out, s') ∧
      performed s' path root (.get key) = (.printed (Text.trim value ++ "\n"), s') ∧
      ∀ other, Elsewhere root key other →
        (performed s' path root (.get other)).1 =
          match s.readText path with
          | .ok _ => (performed s path root (.get other)).1
          | .error _ => .failed (.notSet (fullKey root other)) :=
  ⟨_, Prod.ext done rfl, performed_get_of_set valid fits single done,
    fun _ elsewhere => performed_get_of_set_elsewhere valid fits single done elsewhere⟩

end Running

section Shelf

/-- A storage with one settings file. -/
def shelf : Storage := ⟨[(Storage.home ++ ["settings"], .file "config.lamp=dim\nconfig.fan=2\n".toUTF8)]⟩

theorem readText_shelf : shelf.readText "settings" = .ok "config.lamp=dim\nconfig.fan=2\n" :=
  Storage.readText_of_readBytes rfl

theorem performed_set_shelf (value : String) :
    (performed shelf "settings" "config" (.set "lamp" value)).1 = .printed "" := by
  rw [performed_set_of_opened (openTree_of_readText readText_shelf true)]
  rfl

theorem fitsLine_lamp : FitsLine "lamp" where
  plain := by simp
  ending := by
    have visible : Text.isBlank 'p' = false := by decide
    simpa using visible

theorem get_of_set_shelf :
    ∃ s', performed shelf "settings" "config" (.set "lamp" "bright") = (.printed "", s') ∧
      performed s' "settings" "config" (.get "lamp") = (.printed "bright\n", s') ∧
      (performed s' "settings" "config" (.get "fan")).1 = .printed "2\n" := by
  obtain ⟨s', ran, found, elsewhere⟩ :=
    get_of_set (by decide) fitsLine_lamp (by decide) (performed_set_shelf "bright")
  refine ⟨s', ran, found, ?_⟩
  have apart : Elsewhere "config" "lamp" "fan" := by
    intro p q named meant
    cases (show some ["lamp"] = some p from named)
    cases (show some ["fan"] = some q from meant)
    exact apart_cons_iff.mpr (.inl (by decide))
  have before : (performed shelf "settings" "config" (.get "fan")).1 = .printed "2\n" := by
    rw [performed_get_of_readText readText_shelf]
    decide
  rw [elsewhere "fan" apart, readText_shelf]
  exact before

/-- Blanks around a value are lost. -/
theorem set_loses_outer_blanks :
    ¬ ∀ (s : Storage) (path root key value out : String), isValidKey root = true →
      '\n' ∉ value.toList → (performed s path root (.set key value)).1 = .printed out →
      (performed (performed s path root (.set key value)).2 path root (.get key)).1 =
          .printed (value ++ "\n") ∧
        ∀ other, Elsewhere root key other →
          (performed (performed s path root (.set key value)).2 path root (.get other)).1 =
            (performed s path root (.get other)).1 := by
  intro claim
  have valid : isValidKey "config" = true := by decide
  have single : '\n' ∉ " on ".toList := by decide
  have printed := (claim shelf "settings" "config" "lamp" " on " "" valid single (performed_set_shelf _)).1
  rw [performed_get_of_set valid fitsLine_lamp single (performed_set_shelf _)] at printed
  exact absurd printed (by decide)

end Shelf

end Settings.Tool
