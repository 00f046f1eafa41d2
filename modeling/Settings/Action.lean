/-!
# Edit actions

What a remote control or keyboard asks of an element, once the key codes are decoded. An element
ignores the actions that it has no use for.
-/
namespace Settings

inductive Action where
  | first | last | left | right
  | toggle | select
  | delete | backspace | erase
  /-- A numeric key. -/
  | digit (n : Nat)
  /-- A character typed on a keyboard. -/
  | character (c : Char)
  /-- No key was pressed for a while. -/
  | timeout
  deriving DecidableEq, Repr

namespace Action

/-- The decimal digit that an action enters, by key or by character. -/
def digit? : Action → Option Nat
  | .digit n => if n ≤ 9 then some n else none
  | .character c => if c.isDigit then some (c.toNat - '0'.toNat) else none
  | _ => none

theorem digit?_le_nine {a : Action} {d : Nat} (h : a.digit? = some d) : d ≤ 9 := by
  cases a with
  | digit n =>
    simp only [digit?, Option.ite_none_right_eq_some, Option.some.injEq] at h
    omega
  | character c =>
    simp only [digit?, Option.ite_none_right_eq_some, Option.some.injEq] at h
    obtain ⟨hdigit, hd⟩ := h
    simp only [Char.isDigit, Bool.and_eq_true, decide_eq_true_eq] at hdigit
    have hhigh : c.val.toNat ≤ 57 := hdigit.2
    have hzero : ('0' : Char).toNat = 48 := rfl
    have hc : c.toNat = c.val.toNat := rfl
    omega
  | _ => simp [digit?] at h

end Action

end Settings
