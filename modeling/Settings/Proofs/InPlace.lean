import Settings.Error

/-!
# Programs that work in place

An assignment can be thought of as a program that changes a state step by step and may fail on the way.
What it did up to a failure stays done, so it takes an argument to see that a failed assignment changes
nothing: all that can fail has to come before the first change.

* `Computes`: a part of a program that leaves the state alone.
* `AllOrNothing`: a program that either does what a function says or fails with the state as it was.
* `AllOrNothing.eq_error_iff`: when such a program fails, and with which state.
* `ReadsAll.allOrNothing`: what was gathered item by item is taken over as a whole.
-/
namespace Settings

/-- A program on a state. A failure leaves the state as it is at that point. -/
abbrev InPlace (σ α : Type) := EStateM Error σ α

namespace InPlace

variable {σ τ α β γ : Type}

/-- Fails if there is nothing. -/
def orFail (err : Error) : Option α → InPlace σ α
  | some x => pure x
  | none => throw err

/-- Runs a program on a part of a state. What it did to the part stays done when it fails. -/
def onPart (put : τ → σ) (p : InPlace τ α) (part : τ) : EStateM.Result Error σ α :=
  match p part with
  | .ok x part => .ok x (put part)
  | .error err part => .error err (put part)

/-- Says more about a failure. -/
def explain (more : Error → Error) (p : InPlace σ α) : InPlace σ α := fun s =>
  match p s with
  | .ok x s => .ok x s
  | .error err s => .error (more err) s

/-- Gathers what is got from each item. -/
def gather (body : α → InPlace σ β) (items : List α) : InPlace σ (List β) :=
  items.foldlM (fun gathered item => do
    let x ← body item
    return gathered ++ [x]) []

/-- The program answers as `r` says, and leaves the state alone. -/
def Computes (p : InPlace σ α) (r : Except Error α) : Prop :=
  ∀ s, p s = match r with
    | .ok x => .ok x s
    | .error err => .error err s

/-- The program does what `f` says, or fails as `f` says and leaves the state alone. -/
def AllOrNothing (p : InPlace σ Unit) (f : σ → Except Error σ) : Prop :=
  ∀ s, p s = match f s with
    | .ok s' => .ok () s'
    | .error err => .error err s

section Computing

variable {p : InPlace σ α} {q : α → InPlace σ β} {r : Except Error α} {g : α → Except Error β}

theorem computes_pure (x : α) : Computes (pure x : InPlace σ α) (.ok x) := fun _ => rfl

theorem computes_throw (err : Error) : Computes (throw err : InPlace σ α) (.error err) := fun _ => rfl

theorem computes_orFail (err : Error) (found : Option α) :
    Computes (orFail err found : InPlace σ α) (found.elim (.error err) .ok) := by
  cases found with
  | none => exact computes_throw err
  | some x => exact computes_pure x

theorem bind_of_error {s s' : σ} {err : Error} (failed : p s = .error err s') :
    (p >>= q) s = .error err s' := by
  change EStateM.bind p q s = _
  rw [EStateM.bind, failed]

theorem bind_of_ok {s s' : σ} {x : α} (done : p s = .ok x s') : (p >>= q) s = q x s' := by
  change EStateM.bind p q s = _
  rw [EStateM.bind, done]

/-- Parts that leave the state alone do so one after the other. -/
theorem Computes.bind (first : Computes p r) (second : ∀ x, Computes (q x) (g x)) :
    Computes (p >>= q) (r >>= g) := by
  intro s
  cases r with
  | error err => exact bind_of_error (first s)
  | ok x => exact (bind_of_ok (first s)).trans (second x s)

/-- A loop leaves the state alone if its body does. -/
theorem Computes.foldlM {step : γ → β → InPlace σ γ} {f : γ → β → Except Error γ}
    (body : ∀ acc item, Computes (step acc item) (f acc item)) (acc : γ) (items : List β) :
    Computes (items.foldlM step acc) (items.foldlM f acc) := by
  induction items generalizing acc with
  | nil => exact computes_pure acc
  | cons item rest ih =>
    rw [List.foldlM_cons, List.foldlM_cons]
    exact (body acc item).bind ih

end Computing

section Changing

variable {p : InPlace σ Unit} {f : σ → Except Error σ} {next : α → InPlace σ Unit}

theorem allOrNothing_modify {change : σ → σ} (same : ∀ s, f s = .ok (change s)) :
    AllOrNothing (modify change) f := by
  intro s
  rw [same]
  rfl

/-- What leaves the state alone may come before an all-or-nothing program. -/
theorem Computes.andThen {first : InPlace σ α} {r : Except Error α} (computes : Computes first r)
    (taken : ∀ x, r = .ok x → AllOrNothing (next x) f)
    (refused : ∀ err, r = .error err → ∀ s, f s = .error err) : AllOrNothing (first >>= next) f := by
  intro s
  cases r with
  | error err =>
    rw [refused err rfl]
    exact bind_of_error (computes s)
  | ok x => exact (bind_of_ok (computes s)).trans (taken x rfl s)

theorem allOrNothing_orFail {err : Error} {found : Option α}
    (taken : ∀ x, found = some x → AllOrNothing (next x) f)
    (refused : found = none → ∀ s, f s = .error err) : AllOrNothing (orFail err found >>= next) f := by
  cases found with
  | none => exact (computes_throw err).andThen nofun fun other same => by cases same; exact refused rfl
  | some x => exact (computes_pure x).andThen (fun y same => by cases same; exact taken x rfl) nofun

theorem allOrNothing_ofExcept {r : Except Error α}
    (taken : ∀ x, r = .ok x → AllOrNothing (next x) f)
    (refused : ∀ err, r = .error err → ∀ s, f s = .error err) :
    AllOrNothing (MonadExcept.ofExcept r >>= next) f := by
  cases r with
  | error err => exact (computes_throw err).andThen nofun refused
  | ok x => exact (computes_pure x).andThen taken nofun

/-- A program may look at the state first. -/
theorem allOrNothing_get {next : σ → InPlace σ Unit}
    (branches : ∀ s, next s s = match f s with
      | .ok s' => .ok () s'
      | .error err => .error err s) : AllOrNothing (get >>= next) f :=
  branches

/-- An all-or-nothing program fails exactly as its function does, and then nothing has changed. -/
theorem AllOrNothing.eq_error_iff (whole : AllOrNothing p f) {s s' : σ} {err : Error} :
    p s = .error err s' ↔ f s = .error err ∧ s' = s := by
  have here := whole s
  cases done : f s with
  | ok after =>
    rw [done] at here
    simp [here]
  | error other =>
    rw [done] at here
    simp [here, eq_comm]

/-- On a part of a state, such a program changes the part or nothing. -/
theorem AllOrNothing.onPart (whole : AllOrNothing p f) (put : σ → τ) (s : σ) :
    InPlace.onPart put p s = match (f s).map put with
      | .ok whole => .ok () whole
      | .error err => .error err (put s) := by
  rw [InPlace.onPart, whole s]
  cases f s <;> rfl

theorem AllOrNothing.explain (whole : AllOrNothing p f) (more : Error → Error) :
    AllOrNothing (p.explain more) fun s => (f s).mapError more := by
  intro s
  rw [InPlace.explain, whole s]
  dsimp only
  cases f s <;> rfl

end Changing

section Gathering

variable {body : α → InPlace σ β} {read : α → Except Error β}
  {readAll : List α → Except Error (List β)} {items : List α}

/-- A reader of all items, which fails as the first item that cannot be read does. -/
structure ReadsAll (read : α → Except Error β) (readAll : List α → Except Error (List β)) : Prop where
  nil : readAll [] = .ok []
  cons : ∀ item rest, readAll (item :: rest) = read item >>= fun x => (readAll rest).map (x :: ·)

theorem ReadsAll.foldlM (reads : ReadsAll read readAll) (gathered : List β) (items : List α) :
    items.foldlM (fun gathered item => read item >>= fun x => .ok (gathered ++ [x])) gathered =
      (readAll items).map (gathered ++ ·) := by
  induction items generalizing gathered with
  | nil =>
    rw [reads.nil]
    exact congrArg Except.ok (List.append_nil gathered).symm
  | cons item rest ih =>
    rw [List.foldlM_cons, reads.cons]
    cases read item with
    | error err => rfl
    | ok x =>
      refine (ih (gathered ++ [x])).trans ?_
      cases readAll rest with
      | error err => rfl
      | ok xs => exact congrArg Except.ok (List.append_assoc gathered [x] xs)

/-- Gathering is reading all items. -/
theorem ReadsAll.computes_gather (reads : ReadsAll read readAll)
    (each : ∀ item, Computes (body item) (read item)) (items : List α) :
    Computes (gather body items) (readAll items) := by
  have whole : Computes (gather body items) _ :=
    Computes.foldlM (fun gathered item =>
      (each item).bind fun x => computes_pure (gathered ++ [x])) [] items
  rw [reads.foldlM] at whole
  cases done : readAll items <;> (rw [done] at whole; exact whole)

/-- What is gathered may be taken over as a whole. -/
theorem ReadsAll.allOrNothing (reads : ReadsAll read readAll)
    (each : ∀ item, Computes (body item) (read item)) {f : σ → Except Error σ}
    {next : List β → InPlace σ Unit}
    (taken : ∀ xs, readAll items = .ok xs → AllOrNothing (next xs) f)
    (refused : ∀ err, readAll items = .error err → ∀ s, f s = .error err) :
    AllOrNothing (gather body items >>= next) f :=
  (reads.computes_gather each items).andThen taken refused

end Gathering

end InPlace

end Settings
