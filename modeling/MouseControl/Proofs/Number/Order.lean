import Mathlib.Algebra.Order.Field.Power
import Mathlib.Algebra.Order.Field.Rat
import Mathlib.Tactic.Positivity
import Mathlib.Tactic.Ring
import MouseControl.Line.Time
import MouseControl.Proofs.Number.Nearest

/-!
When a number is below zero or one. Every number that is neither an infinity nor a NaN has an exact
value, and comparing it with an integer is comparing that value: doubles are unpacked into
canonical pairs of a mantissa and an exponent, whose order is that of their exponents and then of
their mantissas (`Rounding.magnitude_lt_iff`). An infinity lies below every integer or above all of
them, and a NaN does neither, so a number that is not below a bound need not reach it
(`Number.below_eq_false_iff`).
-/

set_option autoImplicit false
set_option relaxedAutoImplicit false

namespace MouseControl

namespace Binary

/-- The number itself; none of an infinity or a NaN. -/
def value? : Binary → Option ℚ
  | finite negative significand exponent =>
    let magnitude : ℚ := significand * 2 ^ exponent
    some (if negative then -magnitude else magnitude)
  | _ => none

/-- Less than a rational, as the negative infinity always is. -/
def Below (x : Binary) (q : ℚ) : Prop :=
  (∃ value, x.value? = some value ∧ value < q) ∨ x = infinite true

@[simp] theorem below_finite {negative : Bool} {significand : Nat} {exponent : Int} {q : ℚ} :
    (finite negative significand exponent).Below q ↔
      (if negative then -(significand * 2 ^ exponent) else significand * 2 ^ exponent : ℚ) < q := by
  simp [Below, value?]

@[simp] theorem below_infinite {negative : Bool} {q : ℚ} :
    (infinite negative).Below q ↔ negative = true := by
  simp [Below, value?]

@[simp] theorem not_below_nan {q : ℚ} : ¬nan.Below q := by
  simp [Below, value?]

end Binary

namespace Rounding

open Float.Model (Format UnpackedFloat)
open Float.Model.UnpackedFloat

/-! ### What a double stands for -/

def isNegative : Sign → Bool
  | .negative => true
  | .positive => false

theorem isNegative_ofBitVec (b : BitVec 1) : isNegative (.ofBitVec b) = (b.toNat == 1) := by
  revert b
  decide

/-- What an unpacked double stands for. -/
def reading : UnpackedFloat → Binary
  | .zero s => .finite (isNegative s) 0 (-1074)
  | .finite s m e _ => .finite (isNegative s) m e
  | .infinity s => .infinite (isNegative s)
  | .notANumber => .nan

/-- A double stands for what it is unpacked into. -/
theorem ofFloat_eq (x : Float) : Binary.ofFloat x = reading x.toModel.unpack := by
  have hmantissa : x.toBits.toNat % Nat.pow 2 52 =
      (@unpackMantissa .binary64 x.toModel.toBits.toBitVec).toNat := by
    rw [unpackMantissa, BitVec.toNat_cast, BitVec.extractLsb_toNat, Nat.shiftRight_zero]
    rfl
  have hsign : x.toBits.toNat / Nat.pow 2 63 % 2 =
      (@unpackSign .binary64 x.toModel.toBits.toBitVec).toNat := by
    unfold unpackSign
    rw [BitVec.toNat_cast, BitVec.extractLsb_toNat, Nat.shiftRight_eq_div_pow]
    rfl
  have hall : Nat.pow 2 11 - 1 = 2047 := rfl
  have hunpacks := unpacks x.toModel.toBits.toBitVec
  rw [Binary.ofFloat, Binary.ofBits, ← exponentOf_eq, hmantissa, hsign, ← isNegative_ofBitVec,
    exponentOf, hall]
  change _ = reading (unpack .binary64 x.toModel.toBits.toBitVec)
  generalize unpack .binary64 x.toModel.toBits.toBitVec = u at hunpacks ⊢
  cases hunpacks with
  | infinity hlast hblank =>
    rw [if_pos hlast, if_pos hblank]
    rfl
  | notANumber hlast hblank =>
    rw [if_pos hlast, if_neg hblank]
    rfl
  | zero hfirst hblank =>
    rw [hfirst, hblank]
    rfl
  | subnormal hfirst =>
    rw [hfirst]
    rfl
  | normal hfirst hlast hm =>
    subst hm
    rw [if_neg hlast, if_neg hfirst]
    rfl

/-! ### Canonical pairs -/

/-- A mantissa and an exponent as they come out of a double: the mantissa has 53 bits, or fewer
at the least exponent. -/
structure Canonical (m : Nat) (e : Int) : Prop where
  lt : m < 2 ^ 53
  le : -1074 ≤ e
  full : -1074 < e → 2 ^ 52 ≤ m

theorem canonical_unpack {b : BitVec Format.binary64.numBits} {s : Sign} {m : Nat} {e : Int}
    {hm : 0 < m} (h : unpack .binary64 b = .finite s m e hm) : Canonical m e := by
  have hmantissa : (unpackMantissa b).toNat < 2 ^ 52 := (unpackMantissa b).isLt
  have hunpacks := unpacks b
  rw [h] at hunpacks
  cases hunpacks with
  | subnormal => exact ⟨by omega, le_rfl, fun h ↦ absurd h (lt_irrefl _)⟩
  | normal _ _ hm => exact ⟨by omega, by omega, by omega⟩

section

variable {m m' : Nat} {e e' : Int}

/-- A lower exponent makes a smaller number. -/
theorem magnitude_lt_of_lt (h : Canonical m e) (h' : Canonical m' e') (he : e < e') :
    (m * 2 ^ e : ℚ) < m' * 2 ^ e' := by
  have hm : (m : ℚ) < 2 ^ 53 := by exact_mod_cast h.lt
  have hm' : (2 ^ 52 : ℚ) ≤ m' := by exact_mod_cast h'.full (lt_of_le_of_lt h.le he)
  calc (m * 2 ^ e : ℚ) < 2 ^ 53 * 2 ^ e := by gcongr
    _ = 2 ^ 52 * 2 ^ (e + 1) := by
      rw [zpow_add_one₀ two_ne_zero]
      ring
    _ ≤ m' * 2 ^ e' := by
      gcongr
      · exact one_le_two
      · omega

/-- The exponents are compared first, and then the mantissas. -/
theorem magnitude_lt_iff (h : Canonical m e) (h' : Canonical m' e') :
    (m * 2 ^ e : ℚ) < m' * 2 ^ e' ↔ e < e' ∨ e = e' ∧ m < m' := by
  rcases lt_trichotomy e e' with he | rfl | he
  · simp only [magnitude_lt_of_lt h h' he, he, true_or]
  · have hpos : (0 : ℚ) < 2 ^ e := by positivity
    simp only [mul_lt_mul_iff_left₀ hpos, Nat.cast_lt, lt_irrefl, true_and, false_or]
  · simp only [(magnitude_lt_of_lt h' h he).not_gt, he.not_gt, he.ne', false_and, or_self]

end

/-! ### Comparison with zero and one -/

theorem lt_iff (x y : Float) : x < y ↔ x.toModel.unpack.lt y.toModel.unpack = true :=
  decide_eq_true_iff

theorem lt_zero_iff (u : UnpackedFloat) :
    u.lt (.zero .positive) = true ↔ (reading u).Below 0 := by
  cases u with
  | infinity s =>
    have hlt : (infinity s).lt (.zero .positive) = isNegative s := by cases s <;> rfl
    rw [hlt]
    exact Binary.below_infinite.symm
  | notANumber => exact iff_of_false nofun Binary.not_below_nan
  | zero s =>
    have hreading : (Binary.finite (isNegative s) 0 (-1074)).Below 0 ↔ False := by simp
    exact iff_of_false nofun hreading.mp
  | finite s m e hm =>
    have hpos : (0 : ℚ) < m * 2 ^ e := by positivity
    have hlt : (finite s m e hm).lt (.zero .positive) = isNegative s := by cases s <;> rfl
    have hreading : (Binary.finite (isNegative s) m e).Below 0 ↔ isNegative s = true := by
      cases s <;> simp [isNegative, hpos, hpos.le]
    rw [hlt]
    exact hreading.symm

theorem lt_one_iff {u : UnpackedFloat}
    (hu : ∀ {s m e hm}, u = .finite s m e hm → Canonical m e) :
    u.lt one = true ↔ (reading u).Below 1 := by
  cases u with
  | infinity s =>
    have hlt : (infinity s).lt one = isNegative s := by cases s <;> rfl
    rw [hlt]
    exact Binary.below_infinite.symm
  | notANumber => exact iff_of_false nofun Binary.not_below_nan
  | zero s =>
    have hreading : (Binary.finite (isNegative s) 0 (-1074)).Below 1 ↔ True := by simp
    exact iff_of_true rfl (hreading.mpr trivial)
  | finite s m e hm =>
    have hpos : (0 : ℚ) < m * 2 ^ e := by positivity
    cases s with
    | negative =>
      have hreading : (Binary.finite true m e).Below 1 :=
        Binary.below_finite.mpr ((neg_lt_zero.mpr hpos).trans one_pos)
      exact iff_of_true rfl hreading
    | positive =>
      have hone : (2 ^ 52 : ℕ) * 2 ^ (-52 : ℤ) = (1 : ℚ) := by norm_num
      have hcanonical : Canonical (2 ^ 52) (-52) := ⟨by decide, by decide, fun _ ↦ le_rfl⟩
      have horder := magnitude_lt_iff (hu rfl) hcanonical
      have hlt : (finite .positive m e hm).lt one =
          (some ((compare e (-52)).then (compare m (2 ^ 52))) == some .lt) := rfl
      have hreading : (Binary.finite false m e).Below 1 ↔ (m * 2 ^ e : ℚ) < 1 :=
        Binary.below_finite
      rw [hone] at horder
      rw [hlt, beq_iff_eq, Option.some_inj, Ordering.then_eq_lt, Int.compare_eq_lt,
        Int.compare_eq_eq, Nat.compare_eq_lt, ← horder]
      exact hreading.symm

end Rounding

namespace Number

/-! ### Numbers and bounds -/

/-- The exact value is less than a bound, or the number is the negative infinity. -/
def LiesBelow (x : Number) (bound : Int) : Prop :=
  (∃ value, x.toRat? = some value ∧ value < bound) ∨
    ∃ y, x = float y ∧ Binary.ofFloat y = .infinite true

/-- The exact value is a bound or more, or the number is the positive infinity. -/
def AtLeast (x : Number) (bound : Int) : Prop :=
  (∃ value, x.toRat? = some value ∧ bound ≤ value) ∨
    ∃ y, x = float y ∧ Binary.ofFloat y = .infinite false

def IsNaN (x : Number) : Prop := ∃ y, x = float y ∧ Binary.ofFloat y = .nan

theorem not_isNaN_int (n : Int) : ¬(int n).IsNaN := by
  rintro ⟨y, h, -⟩
  cases h

theorem toRat?_float (y : Float) : (float y).toRat? = (Binary.ofFloat y).value? := by
  rcases h : Binary.ofFloat y with ⟨negative, significand, exponent⟩ | negative | _
  · have hpower : (2 ^ exponent : ℚ) = 2 ^ exponent.toNat / 2 ^ (-exponent).toNat := by
      rw [← zpow_natCast, ← zpow_natCast, ← zpow_sub₀ two_ne_zero]
      congr 1
      omega
    simp only [toRat?, h, Binary.value?, hpower, mul_div_assoc]
  · simp only [toRat?, h, Binary.value?]
  · simp only [toRat?, h, Binary.value?]

theorem liesBelow_float {y : Float} {bound : Int} :
    (float y).LiesBelow bound ↔ (Binary.ofFloat y).Below bound := by
  simp [LiesBelow, Binary.Below, toRat?_float]

/-- Of the numbers that do not lie below a bound, only a NaN lies nowhere. -/
theorem not_liesBelow_iff {x : Number} {bound : Int} :
    ¬x.LiesBelow bound ↔ x.AtLeast bound ∨ x.IsNaN := by
  cases x with
  | bool b => simp [LiesBelow, AtLeast, IsNaN, toRat?]
  | int n => simp [LiesBelow, AtLeast, IsNaN, toRat?]
  | float y =>
    rcases h : Binary.ofFloat y with ⟨negative, significand, exponent⟩ | negative | _ <;>
      simp [LiesBelow, AtLeast, IsNaN, toRat?_float, Binary.value?, h]

theorem AtLeast.not_isNaN {x : Number} {bound : Int} (h : x.AtLeast bound) : ¬x.IsNaN := by
  rintro ⟨y, rfl, hnan⟩
  simp [AtLeast, toRat?_float, Binary.value?, hnan] at h

/-- What the comparison with zero or one tells. -/
theorem below_iff {x : Number} {bound : Int} (hbound : bound = 0 ∨ bound = 1) :
    x.below bound = true ↔ x.LiesBelow bound := by
  cases x with
  | bool b =>
    cases b with
    | false => simp [below, LiesBelow, toRat?]
    | true =>
      have hone : (1 : ℚ) < bound ↔ 1 < bound := by exact_mod_cast Iff.rfl
      simp [below, LiesBelow, toRat?, hone]
  | int n => simp [below, LiesBelow, toRat?]
  | float y =>
    rw [liesBelow_float, Rounding.ofFloat_eq, below, decide_eq_true_eq, Rounding.lt_iff]
    rcases hbound with rfl | rfl
    · exact_mod_cast Rounding.lt_zero_iff y.toModel.unpack
    · exact_mod_cast Rounding.lt_one_iff Rounding.canonical_unpack

/-- A number that is not below zero or one is at least that, or is none that could be compared. -/
theorem below_eq_false_iff {x : Number} {bound : Int} (hbound : bound = 0 ∨ bound = 1) :
    x.below bound = false ↔ x.AtLeast bound ∨ x.IsNaN := by
  rw [← not_liesBelow_iff, ← below_iff hbound, Bool.not_eq_true]

end Number

end MouseControl
