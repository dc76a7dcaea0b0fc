import MouseControl.Line.Time

/-!
The least gap between two transfers. A gap is counted from the end of one transfer to the start of
the next; before the first transfer nothing is owed. The gap is taken to be one that can be waited,
and so is what is missing of it: a spacing is not asked whether it fits the range of waits.
-/

set_option autoImplicit false
set_option relaxedAutoImplicit false

namespace MouseControl

/-- The gap to keep, and when the last transfer ended. -/
structure Spacing (τ : Type) where
  interval : τ
  lastLeave : Option τ

namespace Spacing

variable {τ : Type} [TimeScale τ]

/-- A gap of so many milliseconds, with no transfer yet. -/
def ofMilliseconds (n : Number) : Except Fault (Spacing τ) :=
  match TimeScale.milliseconds? n with
  | some interval => .ok ⟨interval, none⟩
  | none => .error .tooLarge

/-- A gap given as a value. -/
def ofValue (v : Value) : Except Fault (Spacing τ) :=
  match v.toNumber? with
  | some n => ofMilliseconds n
  | none => .error .wrongType

/-- How long a transfer that is due now still has to wait, if it has to. -/
def remaining (s : Spacing τ) (now : τ) : Option τ :=
  match s.lastLeave with
  | none => none
  | some last =>
    let rest := last + s.interval - now
    if Zero.zero < rest then some rest else none

end Spacing

end MouseControl
