import MouseControl.Line.Time
import MouseControl.Proofs.Number.Nearest
import MouseControl.Proofs.Number.Order

/-!
What can be waited, told by exact values. Seconds can be waited if they are not negative and their
nanoseconds are in range (`Number.InWaitRange`). Of what a policy lets in, anything else fails as
too large, but for a NaN, which is no length at all (`Number.waited_eq_error_iff`). The system's
clock has the same range as exact time (`SystemTime.exists_wait_eq`): what is in it is far below the
first integer without a double.
-/

set_option autoImplicit false
set_option relaxedAutoImplicit false

namespace MouseControl

namespace Number

/-- A number of seconds that is not negative and in the range of waits. -/
def InWaitRange (n : Number) : Prop :=
  ∃ seconds, n.toRat? = some seconds ∧ 0 ≤ seconds ∧
    seconds * 1000000000 < (Protocol.waitRange : Rat)

theorem isNaN_iff {n : Number} : n.isNaN = true ↔ n.IsNaN := by
  cases n with
  | bool b => simp [isNaN, IsNaN]
  | int n => simp [isNaN, IsNaN]
  | float x => simp [isNaN, IsNaN]

theorem AtLeast.le {n : Number} {bound : Int} (h : n.AtLeast bound) {value : Rat}
    (hvalue : n.toRat? = some value) : (bound : Rat) ≤ value := by
  obtain ⟨other, hother, hle⟩ | ⟨y, rfl, hy⟩ := h
  · rwa [Option.some.inj (hvalue.symm.trans hother)]
  · simp [toRat?_float, Binary.value?, hy] at hvalue

theorem IsNaN.toRat?_eq_none {n : Number} (h : n.IsNaN) : n.toRat? = none := by
  obtain ⟨y, rfl, hy⟩ := h
  simp [toRat?_float, Binary.value?, hy]

/-- A wait lasts as long as the exact value says. -/
theorem waited_eq_ok_iff {n : Number} {span : Rat} :
    n.waited = .ok span ↔ n.toRat? = some span ∧ 0 ≤ span ∧
      span * 1000000000 < (Protocol.waitRange : Rat) := by
  rcases hvalue : n.toRat? with _ | seconds
  · simp [waited, hvalue]
  · rw [waited, hvalue, waitFor_eq_ok_iff, Option.some.injEq]
    constructor
    · rintro ⟨rfl, h⟩
      exact ⟨rfl, h⟩
    · rintro ⟨rfl, h⟩
      exact ⟨rfl, h⟩

theorem exists_waited_iff {n : Number} : (∃ span, n.waited = .ok span) ↔ n.InWaitRange :=
  exists_congr fun _ ↦ waited_eq_ok_iff

/-- A wait that is not negative, or no number, fails for one of two reasons. -/
theorem fault_of_waited {n : Number} (hn : n.AtLeast 0 ∨ n.IsNaN) {fault : Fault}
    (h : n.waited = .error fault) :
    n.IsNaN ∧ fault = .waitOfNaN ∨ ¬n.IsNaN ∧ fault = .tooLarge := by
  by_cases hnan : n.IsNaN
  · rw [waited, hnan.toRat?_eq_none] at h
    dsimp only at h
    rw [if_pos (isNaN_iff.mpr hnan)] at h
    exact .inl ⟨hnan, (Except.error.inj h).symm⟩
  · refine .inr ⟨hnan, ?_⟩
    rcases hvalue : n.toRat? with _ | seconds
    · rw [waited, hvalue] at h
      dsimp only at h
      rw [if_neg (isNaN_iff.not.mpr hnan)] at h
      exact (Except.error.inj h).symm
    · have hle : 0 ≤ seconds := by exact_mod_cast (hn.resolve_right hnan).le hvalue
      rw [waited, hvalue] at h
      dsimp only at h
      rw [waitFor] at h
      split at h
      · exact (Except.error.inj h).symm
      · rw [if_neg hle.not_gt] at h
        cases h

/-- What a policy lets in can be waited if it is in range, and there is one fault for a NaN and one
for anything else. -/
theorem waited_eq_error_iff {n : Number} (hn : n.AtLeast 0 ∨ n.IsNaN) {fault : Fault} :
    n.waited = .error fault ↔
      ¬n.InWaitRange ∧ (n.IsNaN ∧ fault = .waitOfNaN ∨ ¬n.IsNaN ∧ fault = .tooLarge) := by
  rw [← exists_waited_iff]
  rcases hwaited : n.waited with other | span
  · have hother := fault_of_waited hn hwaited
    have hnone : ¬∃ span, (Except.error other : Except Fault Rat) = .ok span := fun ⟨_, h⟩ ↦ by
      cases h
    rw [and_iff_right hnone, Except.error.injEq]
    grind
  · refine iff_of_false (fun h ↦ ?_) fun h ↦ h.1 ⟨span, rfl⟩
    cases h

/-- What can be waited is small enough for a double. -/
theorem exists_toSeconds {n : Number} {span : Rat} (h : n.waited = .ok span) :
    ∃ seconds, n.toSeconds = .ok seconds := by
  cases n with
  | bool b => exact ⟨_, rfl⟩
  | float x => exact ⟨x, rfl⟩
  | int n =>
    obtain ⟨hvalue, hle, hlt⟩ := waited_eq_ok_iff.mp h
    cases hvalue
    have hsmall : n.natAbs < 2 ^ 63 := by
      have hlt : n * 1000000000 < 2 ^ 63 := by exact_mod_cast hlt
      have hle : 0 ≤ n := by exact_mod_cast hle
      omega
    have hthreshold : 2 ^ 63 ≤ 2 ^ 1024 - 2 ^ 970 := by decide +kernel
    have hsome : nearestFloat? n ≠ none := fun hnone ↦
      absurd ((nearestFloat?_eq_none_iff n).mp hnone) (hsmall.trans_le hthreshold).not_ge
    obtain ⟨seconds, hseconds⟩ := Option.ne_none_iff_exists'.mp hsome
    exact ⟨seconds, by rw [toSeconds, toFloat?, hseconds]⟩

end Number

/-- The system waits what can be waited in exact time, and fails over anything else for the same
reason. -/
theorem SystemTime.exists_wait_eq (n : Number) :
    ∃ time : SystemTime, TimeScale.wait n = n.waited.map fun _ ↦ time := by
  have hwait : (TimeScale.wait n : Except Fault SystemTime) =
      n.waited.bind fun _ ↦ n.toSeconds.map mk := rfl
  rcases hwaited : n.waited with fault | span
  · exact ⟨Zero.zero, by rw [hwait, hwaited, Except.bind, Except.map]⟩
  · obtain ⟨seconds, hseconds⟩ := Number.exists_toSeconds hwaited
    exact ⟨⟨seconds⟩, by rw [hwait, hwaited, hseconds, Except.bind, Except.map, Except.map]⟩

end MouseControl
