import Mathlib.Data.List.Basic
import Settings.Proofs.Text
import Settings.Storage

/-!
# Written files are read

What is written under a name is read under it. A file takes the place of no folder, so the way to it
stays open.

* `readText_write`: the text of a file that was written.
-/
namespace Settings.Storage

variable {s s' : Storage} {place target : List String} {item : StorageItem}

theorem eq_ok_of_bind_eq_ok {ε α β : Type} {x : Except ε α} {f : α → Except ε β} {b : β}
    (bound : x >>= f = .ok b) : ∃ a, x = .ok a ∧ f a = .ok b := by
  cases x with
  | error e => cases bound
  | ok a => exact ⟨a, rfl, bound⟩

theorem fromUTF8?_toUTF8 (text : String) : String.fromUTF8? text.toUTF8 = some text := by
  simp only [String.fromUTF8?, String.toUTF8_eq_toByteArray, dif_pos text.isValidUTF8]
  rfl

theorem item?_put_self (vacant : s.item? target ≠ some .folder) :
    (s.put target item).item? target = some item := by
  have ordinary : ¬ (target = [] ∨ target = home) := by
    intro special
    exact vacant (if_pos special)
  rw [item?, if_neg ordinary, put, List.find?_cons_of_pos (by simp)]
  rfl

theorem item?_put_of_ne (different : place ≠ target) :
    (s.put target item).item? place = s.item? place := by
  rw [item?, item?, put, List.find?_cons_of_neg (by simpa using different.symm), List.find?_filter]
  have kept : ∀ p : List String × StorageItem,
      decide ((p.1 != target) = true ∧ (p.1 == place) = true) = (p.1 == place) := by
    intro p
    by_cases same : p.1 = place <;> simp [same, different]
  simp only [kept]

/-- A file in a place that is no folder leaves the folders as they are. -/
theorem item?_put_eq_folder (vacant : s.item? target ≠ some .folder)
    (there : s.item? place = some .folder) : (s.put target item).item? place = some .folder := by
  refine (item?_put_of_ne ?_).trans there
  rintro rfl
  exact vacant there

/-- The place that a segment leads to from a folder. -/
def stepped (place : List String) (segment : String) : Except FileFault (List String) :=
  if segment = "" ∨ segment = "." then .ok place
  else if segment = ".." then .ok place.dropLast
  else if segmentLimit < segment.utf8ByteSize then .error .nameTooLong
  else .ok (place ++ [segment])

@[simp] theorem walk_nil (s : Storage) (place : List String) : s.walk place [] = .ok place := by
  rw [walk]

theorem walk_cons_of_folder (there : s.item? place = some .folder) (segment : String)
    (rest : List String) :
    s.walk place (segment :: rest) = (stepped place segment).bind fun next => s.walk next rest := by
  rw [walk, there, stepped]
  dsimp only
  split
  · rfl
  · split
    · rfl
    · split <;> rfl

/-- Only folders are walked through, one step after the other. -/
theorem walk_cons_eq_ok_iff {segment : String} {rest : List String} :
    s.walk place (segment :: rest) = .ok target ↔
      s.item? place = some .folder ∧
        ∃ next, stepped place segment = .ok next ∧ s.walk next rest = .ok target := by
  cases there : s.item? place with
  | none => simp [walk, there]
  | some item =>
    cases item with
    | file bytes => simp [walk, there]
    | folder =>
      rw [walk_cons_of_folder there]
      cases stepped place segment <;> simp [Except.bind]

theorem walk_append_eq_ok {front back middle : List String} (walked : s.walk place front = .ok middle)
    (further : s.walk middle back = .ok target) : s.walk place (front ++ back) = .ok target := by
  induction front generalizing place with
  | nil =>
    rw [walk_nil] at walked
    cases walked
    exact further
  | cons segment rest ih =>
    obtain ⟨there, next, step, walked⟩ := walk_cons_eq_ok_iff.mp walked
    exact walk_cons_eq_ok_iff.mpr ⟨there, next, step, ih walked⟩

/-- A way stays open when a file is put where no folder is. -/
theorem walk_put (vacant : s.item? target ≠ some .folder) {segments reached : List String}
    (walked : s.walk place segments = .ok reached) :
    (s.put target item).walk place segments = .ok reached := by
  induction segments generalizing place with
  | nil =>
    rw [walk_nil] at walked ⊢
    exact walked
  | cons segment rest ih =>
    obtain ⟨there, next, step, walked⟩ := walk_cons_eq_ok_iff.mp walked
    exact walk_cons_eq_ok_iff.mpr ⟨item?_put_eq_folder vacant there, next, step, ih walked⟩

/-- The segments of a name that does not end with a slash. -/
theorem exists_segments {name : String} (unslashed : (segments name).getLast? ≠ some "") :
    ∃ front last, segments name = front ++ [last] ∧ last ≠ "" ∧ coreSegments name = segments name := by
  have proper : segments name ≠ [] := by
    rw [segments, Text.splitAt]
    simp
  obtain ⟨front, last, shape⟩ := List.eq_nil_or_concat (segments name) |>.resolve_left proper
  rw [List.concat_eq_append] at shape
  have named : last ≠ "" := by
    rintro rfl
    exact unslashed (by rw [shape, List.getLast?_concat])
  refine ⟨front, last, shape, named, ?_⟩
  rw [coreSegments, shape, List.reverse_append, List.reverse_singleton, List.singleton_append,
    List.dropWhile_cons_of_neg (by simpa using named), List.reverse_cons, List.reverse_reverse]

/-- The place of a new item lies in the folder that the name leads to. -/
theorem newPlace_eq_ok {name : String} (free : s.newPlace name = .ok target) :
    nameFault? name = none ∧ ∃ folder last, s.walk (start name) (coreSegments name).dropLast = .ok folder ∧
      s.item? folder = some .folder ∧ (coreSegments name).getLastD "." = last ∧
      ¬ (last = "." ∨ last = "..") ∧ ¬ segmentLimit < last.utf8ByteSize ∧ target = folder ++ [last] := by
  unfold newPlace at free
  split at free
  · cases free
  · next sound =>
    obtain ⟨folder, walked, free⟩ := eq_ok_of_bind_eq_ok free
    dsimp only at free
    split at free
    · cases free
    · cases free
    · next there =>
      split at free
      · cases free
      · next ordinary =>
        split at free
        · cases free
        · next short =>
          cases free
          exact ⟨sound, folder, _, walked, there, rfl, ordinary, short, rfl⟩

/-- What was written is a file in a place where no folder was. -/
theorem write_eq_ok {name : String} {bytes : ByteArray} (written : s.write name bytes = .ok s') :
    ∃ target, s.newPlace name = .ok target ∧ s.item? target ≠ some .folder ∧
      (segments name).getLast? ≠ some "" ∧ s' = s.put target (.file bytes) := by
  obtain ⟨target, free, written⟩ := eq_ok_of_bind_eq_ok written
  split at written
  · cases written
  · next vacant =>
    split at written
    · cases written
    · next unslashed =>
      cases written
      exact ⟨target, free, vacant, unslashed, rfl⟩

/-- A file that was written is in the place that its name means. -/
theorem place_of_write {name : String} {bytes : ByteArray} (written : s.write name bytes = .ok s') :
    ∃ target, s'.place name = .ok target ∧ s'.item? target = some (.file bytes) := by
  obtain ⟨target, free, vacant, unslashed, rfl⟩ := write_eq_ok written
  obtain ⟨sound, folder, last, walked, there, own, ordinary, short, rfl⟩ := newPlace_eq_ok free
  refine ⟨folder ++ [last], ?_, item?_put_self vacant⟩
  obtain ⟨front, name', shape, named, core⟩ := exists_segments unslashed
  rw [core, shape, List.dropLast_concat] at walked
  rw [core, shape, List.getLastD_concat] at own
  subst own
  have step : stepped folder name' = .ok (folder ++ [name']) := by
    rw [not_or] at ordinary
    simp [stepped, named, ordinary, short]
  rw [place, sound, shape]
  refine walk_append_eq_ok (walk_put vacant walked) ?_
  exact walk_cons_eq_ok_iff.mpr ⟨item?_put_eq_folder vacant there, _, step, walk_nil _ _⟩

theorem readText_of_readBytes {name text : String} (read : s.readBytes name = .ok text.toUTF8) :
    s.readText name = .ok text := by
  simp only [readText, read, bind, Except.bind, fromUTF8?_toUTF8]

/-- The text of a file that was written. -/
theorem readText_write {name text : String} (written : s.write name text.toUTF8 = .ok s') :
    s'.readText name = .ok text := by
  obtain ⟨target, there, item⟩ := place_of_write written
  refine readText_of_readBytes ?_
  simp only [readBytes, there, bind, Except.bind, item]

end Settings.Storage
