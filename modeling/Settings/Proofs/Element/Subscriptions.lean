import Mathlib.Data.List.Induction
import Settings.Proofs.Element.Closed
import Settings.Proofs.Element.Notices

/-!
# Live subscriptions

Which subscriptions an element has can be read off its history: those that were made and neither ended
nor cleared later, in the order in which they were made. The registry keeps two lists and one counter of
handles; at any time they stand for exactly the live subscriptions.

* `live_concat`: what one more operation does to the live subscriptions.
* `holds_run`: the registry after a run.
* `handles_run`: the handles that a run gives away.
* `subscriptions_live`: handles, notices and the end of a subscription, after any run.
-/
namespace Settings

/-- A subscription of either sort, to values or to edges. -/
inductive Registration where
  | value (s : Subscription)
  | edge (handle observer : Nat)
  deriving DecidableEq, Repr

namespace Registration

def handle : Registration → Nat
  | .value s => s.handle
  | .edge handle _ => handle

def value? : Registration → Option Subscription
  | .value s => some s
  | .edge .. => none

def edge? : Registration → Option (Nat × Nat)
  | .value _ => none
  | .edge handle observer => some (handle, observer)

/-- What the observer is told of a value if it is of the class: the context comes back to it. -/
def told? (noticeClass : NoticeClass) (shown : String) : Registration → Option Notice
  | .value s => if s.noticeClass = noticeClass then some (.value s.observer shown s.context) else none
  | .edge .. => none

/-- What the observer is told of an edge. -/
def toldEdge? (edge : Edge) (shown : String) : Registration → Option Notice
  | .value _ => none
  | .edge _ observer => some (.edge observer shown edge)

theorem handle_of_value? {x : Registration} {s : Subscription} (picked : x.value? = some s) :
    x.handle = s.handle := by
  cases x with
  | value own => cases picked; rfl
  | edge handle observer => cases picked

theorem handle_of_edge? {x : Registration} {pair : Nat × Nat} (picked : x.edge? = some pair) :
    x.handle = pair.1 := by
  cases x with
  | value own => cases picked
  | edge handle observer => cases picked; rfl

end Registration

namespace Registry

/-- The two lists of a registry are those of its registrations. -/
structure Holds (r : Registry) (registrations : List Registration) : Prop where
  values : r.subscriptions = registrations.filterMap Registration.value?
  edges : r.edgeObservers = registrations.filterMap Registration.edge?

/-- A class is told by telling each of the registrations in turn. -/
structure Tells (r : Registry) (registrations : List Registration) : Prop where
  values : ∀ noticeClass shown,
    r.notices noticeClass shown = registrations.filterMap (Registration.told? noticeClass shown)
  edges : ∀ edge shown,
    r.edgeNotices edge shown = registrations.filterMap (Registration.toldEdge? edge shown)

variable {r : Registry} {registrations : List Registration}

theorem Holds.tells (holds : r.Holds registrations) : r.Tells registrations := by
  constructor
  · intro noticeClass shown
    rw [notices, ofClass, holds.values, List.filter_filterMap, List.map_filterMap]
    congr 1
    funext x
    cases x with
    | value s => by_cases same : s.noticeClass = noticeClass <;>
        simp [Registration.value?, Registration.told?, Subscription.notice, same]
    | edge handle observer => rfl
  · intro edge shown
    rw [edgeNotices, holds.edges, List.map_filterMap]
    congr 1
    funext x
    cases x <;> rfl

theorem Holds.add (holds : r.Holds registrations) (observer : Nat) (noticeClass : NoticeClass)
    (context : Option Value) : (r.add observer noticeClass context).1.Holds
      (registrations ++ [.value ⟨r.lastHandle + 1, observer, noticeClass, context⟩]) := by
  constructor
  · rw [List.filterMap_append, ← holds.values]
    rfl
  · rw [List.filterMap_append, ← holds.edges]
    exact (List.append_nil _).symm

theorem Holds.addEdge (holds : r.Holds registrations) (observer : Nat) :
    (r.addEdge observer).1.Holds (registrations ++ [.edge (r.lastHandle + 1) observer]) := by
  constructor
  · rw [List.filterMap_append, ← holds.values]
    exact (List.append_nil _).symm
  · rw [List.filterMap_append, ← holds.edges]
    rfl

/-- What is picked out of the registrations is filtered by filtering them. -/
theorem filter_filterMap_of_agree {β : Type} {pick : Registration → Option β} {p : β → Bool}
    {q : Registration → Bool} (agree : ∀ x y, pick x = some y → p y = q x)
    (registrations : List Registration) :
    (registrations.filterMap pick).filter p = (registrations.filter q).filterMap pick := by
  rw [List.filter_filterMap, List.filterMap_filter]
  congr 1
  funext x
  cases picked : pick x with
  | none => simp
  | some y => rw [Option.filter_some, agree x y picked]

/-- Handles of both sorts are looked for alike, so that one removal serves both lists. -/
theorem Holds.remove (holds : r.Holds registrations) (handle : Nat) :
    (r.remove handle).1.Holds (registrations.filter fun x => x.handle != handle) := by
  constructor
  · change r.subscriptions.filter (fun s => s.handle != handle) = _
    rw [holds.values]
    apply filter_filterMap_of_agree
    intro x s picked
    rw [Registration.handle_of_value? picked]
  · change r.edgeObservers.filter (fun e => e.1 != handle) = _
    rw [holds.edges]
    apply filter_filterMap_of_agree
    intro x pair picked
    rw [Registration.handle_of_edge? picked]

/-- A handle is in one of the two lists if a registration has it. -/
theorem any_handle (registrations : List Registration) (handle : Nat) :
    ((registrations.filterMap Registration.value?).any (fun s => s.handle == handle) ||
      (registrations.filterMap Registration.edge?).any fun e => e.1 == handle) =
      registrations.any fun x => x.handle == handle := by
  induction registrations with
  | nil => rfl
  | cons x rest ih =>
    rw [List.any_cons, ← ih]
    cases x with
    | value s => exact Bool.or_assoc _ _ _
    | edge own observer => exact Bool.or_left_comm _ _ _

theorem Holds.remove_eq_true_iff (holds : r.Holds registrations) (handle : Nat) :
    (r.remove handle).2 = true ↔ handle ∈ registrations.map Registration.handle := by
  rw [Registry.remove, holds.values, holds.edges]
  simp only [any_handle, List.any_eq_true, beq_iff_eq, List.mem_map]

theorem holds_clear (r : Registry) : r.clear.Holds [] := ⟨rfl, rfl⟩

end Registry

namespace Element

/-- The handle that was given away. -/
def Answer.handle? : Answer → Option Nat
  | .handle n => some n
  | _ => none

/-- An operation of a run, with its answer. -/
abbrev Entry := Operation × Answer

/-- The operations of a run, each with its answer. -/
def log : List Operation → Element → List Entry
  | [], _ => []
  | op :: ops, e => (op, (e.perform op).2) :: log ops (e.perform op).1.result

/-- All handles that were given away, in order. -/
def handles (history : List Entry) : List Nat := history.filterMap fun entry => entry.2.handle?

/-- The registration that an operation made, under the handle that it answered with. -/
def made? : Entry → Option Registration
  | (.subscribe observer _ noticeClass context, .handle n) =>
    some (.value ⟨n, observer, noticeClass, context⟩)
  | (.subscribeEdge observer, .handle n) => some (.edge n observer)
  | _ => none

/-- An operation ends the subscription with a handle. -/
def ends (handle : Nat) : Entry → Bool
  | (.unsubscribe other, _) => handle == other
  | (.clearSubscriptions, _) => true
  | _ => false

/-- The registrations that were made and not ended later, in the order in which they were made. -/
def live : List Entry → List Registration
  | [] => []
  | entry :: later =>
    ((made? entry).toList.filter fun x => !later.any (ends x.handle)) ++ live later

/-- One more operation ends some of the live subscriptions and may add one behind them. -/
theorem live_concat (history : List Entry) (entry : Entry) :
    live (history ++ [entry]) =
      (live history).filter (fun x => !ends x.handle entry) ++ (made? entry).toList := by
  induction history with
  | nil => cases made : made? entry <;> simp [live, made]
  | cons first later ih =>
    -- The first registration is ended by a later operation of the history or by the new one.
    rw [List.cons_append, live, ih, live, List.filter_append, List.append_assoc, List.filter_filter]
    congr 2
    funext x
    simp [List.any_append, Bool.and_comm]

theorem log_concat (ops : List Operation) (op : Operation) (e : Element) :
    log (ops ++ [op]) e = log ops e ++ [(op, ((run ops e).result.perform op).2)] := by
  induction ops generalizing e with
  | nil => rfl
  | cons first rest ih => exact congrArg (_ :: ·) (ih (e.perform first).1.result)

theorem run_concat (ops : List Operation) (op : Operation) (e : Element) :
    (run (ops ++ [op]) e).result = ((run ops e).result.perform op).1.result :=
  run_append ops [op] e

section Quiet

variable {op : Operation} (keeps : op.KeepsSubscriptions)

include keeps

theorem made?_of_keeps (answer : Answer) : made? (op, answer) = none := by
  cases op with
  | subscribe | subscribeEdge => exact absurd keeps id
  | _ => rfl

theorem ends_of_keeps (handle : Nat) (answer : Answer) : ends handle (op, answer) = false := by
  cases op with
  | unsubscribe | clearSubscriptions => exact absurd keeps id
  | _ => rfl

/-- Only subscribing gives a handle away. -/
theorem handle?_of_keeps (e : Element) : (e.perform op).2.handle? = none := by
  cases op with
  | edit change =>
    rw [perform]
    cases e.edit change with
    | error violation => rfl
    | ok answered =>
      obtain ⟨reported, flag⟩ := answered
      cases flag <;> rfl
  | assignText text =>
    rw [perform]
    cases e.assignText text <;> rfl
  | assignValue v =>
    rw [perform]
    cases e.assignValue v <;> rfl
  | subscribe | subscribeEdge | unsubscribe | clearSubscriptions => exact absurd keeps id
  | _ => rfl

end Quiet

variable {e : Element}

/-- What ends no subscription leaves all live ones alive. -/
theorem filter_ends_eq_self {entry : Entry} (lasting : ∀ handle, ends handle entry = false)
    (registrations : List Registration) :
    registrations.filter (fun x => !ends x.handle entry) = registrations := by
  apply List.filter_eq_self.mpr
  intro x _
  rw [lasting x.handle]
  rfl

/-- One operation does to the registry what it does to the live subscriptions. -/
theorem holds_perform {history : List Entry} (holds : e.registry.Holds (live history))
    (op : Operation) : (e.perform op).1.result.registry.Holds
      (live (history ++ [(op, (e.perform op).2)])) := by
  rw [live_concat]
  by_cases keeps : op.KeepsSubscriptions
  · rw [(accounts_perform keeps e).registry, made?_of_keeps keeps,
      filter_ends_eq_self fun handle => ends_of_keeps keeps handle _]
    exact (List.append_nil (live history)).symm ▸ holds
  · cases op with
    | subscribe observer initial noticeClass context =>
      rw [filter_ends_eq_self fun _ => rfl]
      exact holds.add observer noticeClass context
    | subscribeEdge observer =>
      rw [filter_ends_eq_self fun _ => rfl]
      exact holds.addEdge observer
    | unsubscribe handle =>
      have left := holds.remove handle
      rwa [← List.append_nil (List.filter _ _)] at left
    | clearSubscriptions =>
      have cleared := e.registry.holds_clear
      rwa [← List.filter_false (live history), ← List.append_nil (List.filter _ _)] at cleared
    | _ => exact absurd trivial keeps

theorem holds_run (kind : Kind) (ops : List Operation) :
    (run ops (ofKind kind)).result.registry.Holds (live (log ops (ofKind kind))) := by
  induction ops using List.reverseRecOn with
  | nil => exact ⟨rfl, rfl⟩
  | append_singleton ops op ih =>
    rw [run_concat, log_concat]
    exact holds_perform ih op

section Handles

theorem handles_concat (history : List Entry) (entry : Entry) :
    handles (history ++ [entry]) = handles history ++ entry.2.handle?.toList := by
  rw [handles, List.filterMap_append]
  cases given : entry.2.handle? <;> simp [handles, given]

/-- A run gives the handles away one after the other, whatever is ended or cleared in between. -/
theorem handles_run (kind : Kind) (ops : List Operation) :
    handles (log ops (ofKind kind)) =
      List.range' 1 (run ops (ofKind kind)).result.registry.lastHandle := by
  induction ops using List.reverseRecOn with
  | nil => rfl
  | append_singleton ops op ih =>
    rw [run_concat, log_concat, handles_concat, ih]
    -- The counter is never set back, so what matters of the run so far is where it stands.
    generalize (run ops (ofKind kind)).result = e
    by_cases keeps : op.KeepsSubscriptions
    · rw [handle?_of_keeps keeps, (accounts_perform keeps e).registry]
      exact List.append_nil _
    · cases op with
      | subscribe | subscribeEdge =>
        have next : List.range' 1 (e.registry.lastHandle + 1) =
            List.range' 1 e.registry.lastHandle ++ [e.registry.lastHandle + 1] := by
          rw [List.range'_1_concat, Nat.add_comm 1]
        exact next.symm
      | unsubscribe | clearSubscriptions => exact List.append_nil _
      | _ => exact absurd trivial keeps

theorem handle?_of_made {entry : Entry} {x : Registration} (made : made? entry = some x) :
    entry.2.handle? = some x.handle := by
  unfold made? at made
  split at made
  · cases made
    rfl
  · cases made
    rfl
  · cases made

/-- The live subscriptions stand in the order in which their handles were given away. -/
theorem live_sublist_handles (history : List Entry) :
    ((live history).map Registration.handle).Sublist (handles history) := by
  induction history with
  | nil => exact List.Sublist.refl []
  | cons entry later ih =>
    have rest : (handles later).Sublist (handles (entry :: later)) := by
      unfold handles
      exact (List.sublist_cons_self entry later).filterMap _
    rw [live, List.map_append]
    cases made : made? entry with
    | none => exact ih.trans rest
    | some x =>
      have here : handles (entry :: later) = x.handle :: handles later :=
        List.filterMap_cons_some (handle?_of_made made)
      have single : (([x].filter fun y => !later.any (ends y.handle)).map Registration.handle).Sublist
          [x.handle] := List.filter_sublist.map Registration.handle
      rw [here]
      exact single.append ih

end Handles

/-- After any run of operations, however subscriptions were made, ended and cleared in it: all handles
that it gave away differ. Those of the live subscriptions are among them, in the same order; and when a
class is told, exactly its live subscriptions are, each once, in this order, with the context that came
with it. Ending a subscription succeeds exactly if it is live, and then takes only this one away. -/
theorem subscriptions_live {kind : Kind} {ops : List Operation} {e : Element} {history : List Entry}
    (reached : (run ops (ofKind kind)).result = e) (logged : log ops (ofKind kind) = history) :
    (handles history).Nodup ∧
    ((live history).map Registration.handle).Sublist (handles history) ∧
    e.registry.Tells (live history) ∧
    ∀ handle, ((e.unsubscribe handle).2 = true ↔ handle ∈ (live history).map Registration.handle) ∧
      (e.unsubscribe handle).1.registry.Tells
        ((live history).filter fun x => x.handle != handle) := by
  subst reached logged
  have holds := holds_run kind ops
  refine ⟨?_, live_sublist_handles _, holds.tells, fun handle => ⟨?_, ?_⟩⟩
  · rw [handles_run]
    exact List.nodup_range'
  · exact holds.remove_eq_true_iff handle
  · exact (holds.remove handle).tells

/-- Five subscriptions, two of them with one context; the first is ended twice. -/
def doorbell : List Operation :=
  [.subscribe 7 false .immediate (some (.int 1)), .subscribeEdge 9, .subscribe 3 true .final none,
    .unsubscribe 1, .act .twelve .toggle, .subscribe 5 false .immediate (some (.int 1)),
    .subscribe 7 false .immediate none, .unsubscribe 1]

/-- The first handle is not given away again, and ending its subscription again fails. -/
theorem subscriptions_live_doorbell :
    ∃ e history, (run doorbell (ofKind (.switch (.plain false)))).result = e ∧
      log doorbell (ofKind (.switch (.plain false))) = history ∧
      handles history = [1, 2, 3, 4, 5] ∧
      (live history).map Registration.handle = [2, 3, 4, 5] ∧
      e.changed.notices = [.value 5 "True" (some (.int 1)), .value 7 "True" none] ∧
      (e.unsubscribe 1).2 = false ∧ (e.unsubscribe 2).2 = true ∧
      (e.unsubscribe 4).1.changed.notices = [.value 7 "True" none] := by
  obtain ⟨_, _, tells, ending⟩ :=
    @subscriptions_live (.switch (.plain false)) doorbell _ _ rfl rfl
  have shown := tells.values .immediate "True"
  have left := (ending 4).2.values .immediate "True"
  refine ⟨_, _, rfl, rfl, by decide, by decide, ?_, ?_, ?_, ?_⟩
  · exact shown.trans (by decide)
  · apply Bool.of_not_eq_true
    intro found
    have member := (ending 1).1.mp found
    revert member
    decide
  · exact (ending 2).1.mpr (by decide)
  · exact left.trans (by decide)

end Element

end Settings
