import MouseControl.Line.Bus

/-!
Bounded retries. An attempt fails when the operation ends in a fault that the policy covers, or
gives a result that is not acceptable; a fault that the policy does not cover ends the retries at
once, and so does a fault of the acceptance check. When the last attempt fails, its own fault is
what is left, or the news that its result was not acceptable.
-/

set_option autoImplicit false
set_option relaxedAutoImplicit false

namespace MouseControl

/-- How often to try, how long to wait after a failed attempt that is not the last, and which
faults count as a failed attempt. -/
structure RetryPolicy where
  attempts : Number
  delay : Number
  retryOn : List FaultKind

namespace RetryPolicy

/-- The faults that count as a failed attempt unless a policy says otherwise: those of this
library. -/
def ownFaults : List FaultKind := [.library]

/-- A policy that tries at least once and does not wait a negative time, as far as comparison
tells. -/
def ofNumbers (attempts delay : Number) (retryOn : List FaultKind) :
    Except Fault RetryPolicy :=
  if attempts.below 1 then .error (Fault.attemptsTooFew attempts).worded
  else if delay.below 0 then .error (Fault.negativeDelay delay).worded
  else .ok ⟨attempts, delay, retryOn⟩

/-- A policy whose numbers are given as values. The attempts are judged before the delay is
looked at. -/
def ofValues (attempts delay : Value) (retryOn : List FaultKind) :
    Except Fault RetryPolicy :=
  match attempts.toNumber?, delay.toNumber? with
  | none, _ => .error .wrongType
  | some n, some d => ofNumbers n d retryOn
  | some n, none =>
    if n.below 1 then .error (Fault.attemptsTooFew n).worded else .error .wrongType

/-- Whether a fault counts as a failed attempt. -/
def covers (policy : RetryPolicy) (fault : Fault) : Bool := policy.retryOn.any fault.isA

variable {σ τ α : Type} [TimeScale τ]

/-- The wait after a failed attempt. -/
def wait (policy : RetryPolicy) : Action (Bus σ τ) Unit :=
  if policy.delay.equalsInt 0 then pure ()
  else do Bus.pause .retry (← Action.ofExcept (TimeScale.wait policy.delay))

/-- Whether a result is acceptable; without a check every result is. -/
def accepts (accept : Option (α → Action (Bus σ τ) Bool)) (result : α) : Action (Bus σ τ) Bool :=
  match accept with
  | none => pure true
  | some check => check result

/-- The attempts from number `index` on, when `left` of them are left. -/
def attemptsFrom (policy : RetryPolicy) (what : Text) (operation : Action (Bus σ τ) α)
    (accept : Option (α → Action (Bus σ τ) Bool)) (index : Nat) : Nat → Action (Bus σ τ) α
  | 0 => throw (Fault.nothingAcceptable what policy.attempts).worded
  | left + 1 => do
    match ← operation.outcome with
    | .ok result =>
      if ← accepts accept result then
        return result
      Bus.note (.attemptRejected what index policy.attempts)
      if left = 0 then
        throw (Fault.nothingAcceptable what policy.attempts).worded
      policy.wait
      attemptsFrom policy what operation accept (index + 1) left
    | .error fault =>
      if policy.covers fault then
        Bus.note (.attemptFailed what index policy.attempts fault)
        if left = 0 then
          throw fault
        policy.wait
        attemptsFrom policy what operation accept (index + 1) left
      else
        throw fault

/-- Tries an operation until it gives an acceptable result or the attempts run out. A number of
attempts that is no integer cannot be counted down. -/
def run (policy : RetryPolicy) (what : Text) (operation : Action (Bus σ τ) α)
    (accept : Option (α → Action (Bus σ τ) Bool)) : Action (Bus σ τ) α :=
  match policy.attempts.toInt? with
  | some n => policy.attemptsFrom what operation accept 1 n.toNat
  | none => throw .wrongType

end RetryPolicy

end MouseControl
