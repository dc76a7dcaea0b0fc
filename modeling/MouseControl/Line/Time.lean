import MouseControl.Fault.Basic

/-!
Scales of time. What the library asks of a scale is only to add, subtract and compare, to wait a
number of seconds and to read a number of milliseconds. The system's clock counts in doubles, and
its waits in 64-bit integers of nanoseconds (`Number.waited`); exact rationals keep that range
without the rounding, and the plain doubles of a played clock know no range.
-/

set_option autoImplicit false
set_option relaxedAutoImplicit false

namespace MouseControl

/-- Why something cannot be waited: it is out of range, negative, or no number. -/
def Fault.IsOfWait (fault : Fault) : Prop :=
  fault = .tooLarge ∨ fault = .negativeWait ∨ fault = .waitOfNaN

theorem Fault.IsOfWait.not_library {fault : Fault} (h : fault.IsOfWait) :
    ¬fault.isA .library = true := by
  rcases h with rfl | rfl | rfl <;> decide

/-- A scale on which points in time and spans are measured. -/
class TimeScale (τ : Type) extends Zero τ, Add τ, Sub τ, LT τ where
  decidableLT : ∀ s t : τ, Decidable (s < t)
  /-- The wait of so many seconds, or why it cannot be waited. -/
  wait : Number → Except Fault τ
  wait_error : ∀ {n : Number} {fault : Fault}, wait n = .error fault → fault.IsOfWait
  /-- The span of so many milliseconds, if the scale has it. -/
  milliseconds? : Number → Option τ

instance TimeScale.instDecidableLT {τ : Type} [TimeScale τ] (s t : τ) : Decidable (s < t) :=
  TimeScale.decidableLT s t

/-- A wait of so many seconds, or why it cannot be waited: it has to fit the range of nanoseconds,
and time does not run back. -/
def waitFor (seconds : Rat) : Except Fault Rat :=
  let nanoseconds := seconds * 1000000000
  if nanoseconds < -(Protocol.waitRange : Rat) ∨ (Protocol.waitRange : Rat) ≤ nanoseconds then
    .error .tooLarge
  else if seconds < 0 then .error .negativeWait
  else .ok seconds

/-- What can be waited is not negative, and in range. -/
theorem waitFor_eq_ok_iff {seconds span : Rat} :
    waitFor seconds = .ok span ↔
      seconds = span ∧ 0 ≤ seconds ∧ seconds * 1000000000 < (Protocol.waitRange : Rat) := by
  have hrange : -(Protocol.waitRange : Rat) ≤ 0 := by decide
  unfold waitFor
  dsimp only
  constructor
  · intro h
    split at h
    · cases h
    · split at h
      · cases h
      · cases h
        grind
  · rintro ⟨rfl, hle, hlt⟩
    have hnanoseconds := Rat.mul_nonneg hle (by decide : (0 : Rat) ≤ 1000000000)
    rw [if_neg (by grind), if_neg (by grind)]

theorem isOfWait_of_waitFor {seconds : Rat} {fault : Fault}
    (h : waitFor seconds = .error fault) : fault.IsOfWait := by
  unfold waitFor at h
  dsimp only at h
  split at h
  · cases h
    exact .inl rfl
  · split at h
    · cases h
      exact .inr (.inl rfl)
    · cases h

namespace Number

/-- The exact value of a number; none of an infinity or a NaN. -/
def toRat? : Number → Option Rat
  | .bool b => some (if b then 1 else 0)
  | .int n => some n
  | .float x =>
    match Binary.ofFloat x with
    | .finite negative significand exponent =>
      let magnitude : Rat := significand * 2 ^ exponent.toNat / 2 ^ (-exponent).toNat
      some (if negative then -magnitude else magnitude)
    | _ => none

/-- Whether a number is a NaN. -/
def isNaN : Number → Bool
  | .float x => Binary.ofFloat x = .nan
  | _ => false

/-- The exact length of a wait of so many seconds, or why it cannot be waited. -/
def waited (n : Number) : Except Fault Rat :=
  match n.toRat? with
  | some seconds => waitFor seconds
  | none => .error (if n.isNaN then .waitOfNaN else .tooLarge)

/-- The double that stands for a number of seconds. -/
def toSeconds (n : Number) : Except Fault Float :=
  match n.toFloat? with
  | some seconds => .ok seconds
  | none => .error .tooLarge

theorem isOfWait_of_waited {n : Number} {fault : Fault} (h : n.waited = .error fault) :
    fault.IsOfWait := by
  unfold waited at h
  split at h
  · exact isOfWait_of_waitFor h
  · cases h
    cases n.isNaN
    · exact .inl rfl
    · exact .inr (.inr rfl)

private theorem nanoseconds_intCast (n : Int) :
    (n : Rat) * 1000000000 = ((n * 1000000000 : Int) : Rat) :=
  (Rat.intCast_mul n 1000000000).symm

/-- An integer of seconds can be waited if its nanoseconds are in range. -/
theorem waited_int {n : Int} (h : 0 ≤ n) (hrange : n * 1000000000 < Protocol.waitRange) :
    (int n).waited = .ok (n : Rat) := by
  refine waitFor_eq_ok_iff.mpr ⟨rfl, Rat.intCast_nonneg.mpr h, ?_⟩
  rw [nanoseconds_intCast]
  exact Rat.intCast_lt_intCast.mpr hrange

/-- An integer of seconds cannot be waited if its nanoseconds are past the range. -/
theorem waited_int_of_le {n : Int} (hrange : Protocol.waitRange ≤ n * 1000000000) :
    (int n).waited = .error .tooLarge := by
  refine if_pos (.inr ?_)
  rw [nanoseconds_intCast]
  exact Rat.intCast_le_intCast.mpr hrange

theorem isOfWait_of_toSeconds {n : Number} {fault : Fault} (h : n.toSeconds = .error fault) :
    fault.IsOfWait := by
  unfold toSeconds at h
  split at h
  · cases h
  · cases h
    exact .inl rfl

end Number

/-- Time as the system's clock tells it: doubles, in seconds. -/
structure SystemTime where
  seconds : Float

instance : TimeScale SystemTime where
  zero := ⟨0.0⟩
  add s t := ⟨s.seconds + t.seconds⟩
  sub s t := ⟨s.seconds - t.seconds⟩
  lt s t := s.seconds < t.seconds
  decidableLT s t := inferInstanceAs (Decidable (s.seconds < t.seconds))
  wait n := n.waited.bind fun _ ↦ n.toSeconds.map SystemTime.mk
  wait_error {n} _ h := by
    rcases hwaited : n.waited with other | _
    · rw [hwaited] at h
      cases h
      exact Number.isOfWait_of_waited hwaited
    · rcases hseconds : n.toSeconds with other | _
      · rw [hwaited, hseconds] at h
        cases h
        exact Number.isOfWait_of_toSeconds hseconds
      · rw [hwaited, hseconds] at h
        cases h
  milliseconds? n := n.toFloat?.map fun x ↦ ⟨x / 1000.0⟩

/-- Exact rationals, in seconds. -/
instance : TimeScale Rat where
  zero := 0
  decidableLT := inferInstance
  wait := Number.waited
  wait_error := Number.isOfWait_of_waited
  milliseconds? n := n.toRat?.map (· / 1000)

/-- Doubles, in seconds, on a clock that is played: nobody waits, so that every double can be
waited. -/
instance : TimeScale Float where
  zero := 0.0
  decidableLT := inferInstance
  wait := Number.toSeconds
  wait_error := Number.isOfWait_of_toSeconds
  milliseconds? n := n.toFloat?.map (· / 1000.0)

end MouseControl
