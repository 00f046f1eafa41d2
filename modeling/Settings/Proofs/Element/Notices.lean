import Settings.Element.Operation
import Settings.Proofs.Element.Candor

/-!
# What observers are told

An operation announces an edge, a change and a final change, each at most once and in this order. An
announcement reaches all observers of its class in the order in which they subscribed, and they see the
value that the element has after the operation. An operation that changes the value announces a change.

* `accounts_perform`: the notices of an operation are those of its announcement.
* `ordered_run`: subscriptions stand in the order in which they were made.
-/
namespace Settings

/-- What the observers of an element are told at once. -/
structure Announcement where
  edge : Option Edge
  change : Bool
  final : Bool

namespace Announcement

def silence : Announcement := ⟨none, false, false⟩

def ofChange (change : Bool) : Announcement := ⟨none, change, false⟩

/-- The notices by which observers are told: each observer of a class once, with the value that is
shown. -/
def notices (a : Announcement) (shown : String) (r : Registry) : List Notice :=
  (match a.edge with
    | some edge => r.edgeNotices edge shown
    | none => []) ++
  ((if a.change then r.notices .immediate shown else []) ++
    if a.final then r.notices .final shown else [])

theorem notices_ofChange_true (shown : String) (r : Registry) :
    (ofChange true).notices shown r = r.notices .immediate shown := List.append_nil _

end Announcement

namespace Registry

variable {r : Registry}

/-- The subscriptions stand in the order in which their handles were given away. -/
structure Ordered (r : Registry) : Prop where
  increasing : r.subscriptions.Pairwise fun s s' => s.handle < s'.handle
  given : ∀ s ∈ r.subscriptions, s.handle ≤ r.lastHandle

theorem ordered_empty : empty.Ordered := ⟨List.Pairwise.nil, nofun⟩

theorem Ordered.add (ordered : r.Ordered) (observer : Nat) (noticeClass : NoticeClass)
    (context : Option Value) : (r.add observer noticeClass context).1.Ordered := by
  constructor
  · refine List.pairwise_append.mpr ⟨ordered.increasing, List.pairwise_singleton _ _, ?_⟩
    intro s member new last
    rw [List.mem_singleton.mp last]
    exact Nat.lt_succ_of_le (ordered.given s member)
  · intro s member
    rcases List.mem_append.mp member with old | new
    · exact Nat.le_succ_of_le (ordered.given s old)
    · rw [List.mem_singleton.mp new]
      exact Nat.le_refl _

theorem Ordered.addEdge (ordered : r.Ordered) (observer : Nat) : (r.addEdge observer).1.Ordered :=
  ⟨ordered.increasing, fun s member => Nat.le_succ_of_le (ordered.given s member)⟩

theorem Ordered.remove (ordered : r.Ordered) (handle : Nat) : (r.remove handle).1.Ordered :=
  ⟨ordered.increasing.sublist List.filter_sublist,
    fun s member => ordered.given s (List.mem_filter.mp member).1⟩

theorem ordered_clear (r : Registry) : r.clear.Ordered := ⟨List.Pairwise.nil, nofun⟩

/-- So do the subscriptions of one class. -/
theorem Ordered.ofClass (ordered : r.Ordered) (noticeClass : NoticeClass) :
    (r.ofClass noticeClass).Pairwise fun s s' => s.handle < s'.handle :=
  ordered.increasing.sublist List.filter_sublist

end Registry

namespace Element

/-- Neither makes nor ends a subscription. -/
def Operation.KeepsSubscriptions : Operation → Prop
  | .subscribe .. | .subscribeEdge _ | .unsubscribe _ | .clearSubscriptions => False
  | _ => True

/-- What an operation announces. -/
def announcement : Operation → Element → Announcement
  | .act mode a, e =>
    if e.enabled then
      let outcome := e.kind.handle mode a
      ⟨outcome.edge, outcome.changed, false⟩
    else .silence
  | .edit change, e => .ofChange (e.kind.apply change).isOk
  | .assignText text, e => .ofChange (e.kind.decode text).isOk
  | .assignValue v, e => .ofChange (e.kind.assign v).isOk
  | .increment, e => .ofChange e.kind.increment.2
  | .decrement, e => .ofChange e.kind.decrement.2
  | .load, _ | .changed, _ => .ofChange true
  | .save, e => ⟨none, e.kind.needsPreparing, e.reportsClosing⟩
  | .cancel, e => ⟨none, true, e.reportsClosing⟩
  | .deselect, e => ⟨none, false, e.kind.deselect.encode != e.lastValue⟩
  | .changedFinal, _ => ⟨none, false, true⟩
  | _, _ => .silence

/-- An operation tells the observers what is announced, and a change of the value is announced. -/
structure Accounts (e : Element) (a : Announcement) (r : Reported Element) : Prop where
  notices : r.notices = a.notices r.result.valueString e.registry
  candid : r.result.valueString ≠ e.valueString → a.change = true
  registry : r.result.registry = e.registry

variable {e : Element}

theorem accounts_silence {e' : Element} (same : e'.valueString = e.valueString)
    (registry : e'.registry = e.registry) : Accounts e .silence ⟨e', []⟩ :=
  ⟨rfl, fun differs => absurd same differs, registry⟩

theorem accounts_changed (e : Element) (k : Kind) :
    Accounts e (.ofChange true) (changed { e with kind := k }) :=
  ⟨(Announcement.notices_ofChange_true _ _).symm, fun _ => rfl, rfl⟩

theorem accounts_attempt (e : Element) (assigned : Except Error Kind) :
    Accounts e (.ofChange assigned.isOk)
      (e.attempt (assigned.map fun kind => changed { e with kind := kind })).1 := by
  cases assigned with
  | error err => exact accounts_silence rfl rfl
  | ok k => exact accounts_changed e k

theorem accounts_step (e : Element) (f : Kind → Kind × Bool) :
    Accounts e (.ofChange (f e.kind).2) (e.step f).1 := by
  unfold step
  dsimp only
  cases moved : (f e.kind).2 with
  | true => exact accounts_changed e _
  | false => exact accounts_silence rfl rfl

theorem accounts_handle (mode : HourMode) (a : Action) (e : Element) :
    Accounts e (e.announcement (.act mode a)) (e.handle mode a) := by
  rw [announcement, handle]
  cases e.enabled with
  | false => exact accounts_silence rfl rfl
  | true =>
    refine ⟨?_, Kind.candid_handle mode a e.kind, rfl⟩
    exact congrArg (_ ++ ·) (List.append_nil _).symm

theorem accounts_save (e : Element) : Accounts e (e.announcement .save) e.save := by
  refine ⟨rfl, fun differs => ?_, rfl⟩
  apply Bool.of_not_eq_false
  intro quiet
  exact differs (congrArg Kind.encode (Kind.prepareSave_eq_self quiet))

theorem accounts_deselect (e : Element) : Accounts e (e.announcement .deselect) e.deselect := by
  have same : e.kind.deselect.encode = e.valueString := e.kind.encode_deselect
  rw [announcement, deselect]
  dsimp only
  split
  · next unchanged =>
    have silent : (e.kind.deselect.encode != e.lastValue) = false := bne_eq_false_iff_eq.mpr unchanged
    rw [silent]
    exact accounts_silence same rfl
  · next changed =>
    have final : (e.kind.deselect.encode != e.lastValue) = true := bne_iff_ne.mpr changed
    rw [final]
    exact ⟨rfl, fun differs => absurd same differs, rfl⟩

/-- The notices of an operation are those of its announcement. -/
theorem accounts_perform {op : Operation} (keeps : op.KeepsSubscriptions) (e : Element) :
    Accounts e (e.announcement op) (e.perform op).1 := by
  cases op with
  | act mode a => exact accounts_handle mode a e
  | edit change =>
    rw [perform, announcement, edit]
    cases e.kind.apply change with
    | error violation => exact accounts_silence rfl rfl
    | ok answered => exact accounts_changed e answered.1
  | assignText text => exact accounts_attempt e _
  | assignValue v => exact accounts_attempt e _
  | increment => exact accounts_step e _
  | decrement => exact accounts_step e _
  | load => exact accounts_changed e _
  | save => exact accounts_save e
  | cancel => exact ⟨rfl, fun _ => rfl, rfl⟩
  | select => exact accounts_silence e.kind.encode_select rfl
  | deselect => exact accounts_deselect e
  | changed => exact accounts_changed e e.kind
  | changedFinal => exact ⟨rfl, fun differs => absurd rfl differs, rfl⟩
  | subscribe | subscribeEdge | unsubscribe | clearSubscriptions => exact absurd keeps id
  | _ => exact accounts_silence rfl rfl

theorem ordered_perform (ordered : e.registry.Ordered) (op : Operation) :
    (e.perform op).1.result.registry.Ordered := by
  by_cases keeps : op.KeepsSubscriptions
  · rw [(accounts_perform keeps e).registry]
    exact ordered
  · cases op with
    | subscribe observer initial noticeClass context => exact ordered.add observer noticeClass context
    | subscribeEdge observer => exact ordered.addEdge observer
    | unsubscribe handle => exact ordered.remove handle
    | clearSubscriptions => exact e.registry.ordered_clear
    | _ => exact absurd trivial keeps

/-- Subscriptions stand in the order in which they were made. -/
theorem ordered_run (ops : List Operation) (ordered : e.registry.Ordered) :
    (run ops e).result.registry.Ordered := by
  induction ops generalizing e with
  | nil => exact ordered
  | cons op rest ih => exact ih (ordered_perform ordered op)

/-- Whatever is done to an element but to its subscriptions, the immediate observers are told either not
at all or once each, in the order in which they subscribed, with the value that the element has
afterwards; and they are told if that is another value than before. Around them only the observers of an
edge and of final changes are told. A direct edit tells the immediate observers whatever it makes of the
kind. -/
theorem immediate_told_at_most_once :
    (∀ (e : Element) (op : Operation), op.KeepsSubscriptions →
      (e.perform op).1.notices =
          (e.announcement op).notices (e.perform op).1.result.valueString e.registry ∧
        ((e.perform op).1.result.valueString ≠ e.valueString → (e.announcement op).change = true) ∧
        (e.perform op).1.result.registry = e.registry) ∧
    (∀ (e : Element) (k : Kind),
      (changed { e with kind := k }).notices = e.registry.notices .immediate k.encode) ∧
    ∀ (kind : Kind) (ops : List Operation),
      ((run ops (ofKind kind)).result.registry.ofClass .immediate).Pairwise
        fun s s' => s.handle < s'.handle := by
  refine ⟨fun e op keeps => ?_, fun _ _ => rfl, fun kind ops => ?_⟩
  · have accounts := accounts_perform keeps e
    exact ⟨accounts.notices, accounts.candid, accounts.registry⟩
  · exact (ordered_run ops Registry.ordered_empty).ofClass .immediate

/-- A table with a name without options, which three observers watch. -/
def watchedTable : Element :=
  (run [.subscribe 7 false .immediate none, .subscribe 3 false .final none,
    .subscribe 5 false .immediate (some (.int 1)), .edit (.setOption "disk" "sort" "date"),
    .edit (.removeOption "disk" "sort"), .setReportsClosing true]
    (ofKind (.optionTable (.make [])))).result

/-- Saving drops the name, which is a change for all who watch. -/
theorem immediate_told_watchedTable :
    (watchedTable.perform .save).1.notices =
        [.value 7 "v1\x7b\x7d" none, .value 5 "v1\x7b\x7d" (some (.int 1)),
          .value 3 "v1\x7b\x7d" none] ∧
      (watchedTable.perform .save).1.result.valueString ≠ watchedTable.valueString ∧
      (watchedTable.announcement .save).change = true := by
  obtain ⟨told, candid, _⟩ := immediate_told_at_most_once.1 watchedTable .save trivial
  have differs : (watchedTable.perform .save).1.result.valueString ≠ watchedTable.valueString := by
    decide +kernel
  refine ⟨?_, differs, candid differs⟩
  rw [told]
  decide +kernel

end Element

end Settings
