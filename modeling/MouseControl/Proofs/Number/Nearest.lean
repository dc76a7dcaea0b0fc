import Mathlib.Algebra.Order.Ring.Nat
import MouseControl.Number.Basic

/-!
The integers that have a nearest double. A double is finite unless all of its eleven bits of
exponent are set (`exists_finite_iff`, `Unpacks`), and a number is packed into such bits only from
the exponent 972 on (`exponent_pack_le`, `exponent_pack_of_large`). An integer of `k + 53` bits is
rounded to the exponent `k`, or to the next one if its first 54 bits are all set (`rounded_eq_iff`).
The largest double is `2 ^ 1024 - 2 ^ 971`, and from half a step above it on an integer has no
nearest double (`nearestFloat?_eq_none_iff`).
-/

set_option autoImplicit false
set_option relaxedAutoImplicit false

namespace MouseControl.Rounding

open Float.Model (Format UnpackedFloat)
open Float.Model.UnpackedFloat

/-! ### Bits of exponent -/

/-- The number that the bits of exponent make. -/
def exponentOf (x : Float) : Nat :=
  (@unpackExponent .binary64 x.toModel.toBits.toBitVec).toNat

theorem exponentOf_le (x : Float) : exponentOf x ≤ 2047 :=
  Nat.le_of_lt_succ (@unpackExponent .binary64 x.toModel.toBits.toBitVec).isLt

theorem exponentOf_eq (x : Float) :
    exponentOf x = x.toBits.toNat / Nat.pow 2 52 % Nat.pow 2 11 := by
  rw [exponentOf, unpackExponent, BitVec.toNat_cast, BitVec.extractLsb_toNat,
    Nat.shiftRight_eq_div_pow]
  rfl

theorem exists_finite_iff (x : Float) :
    (∃ negative significand exponent,
      Binary.ofFloat x = .finite negative significand exponent) ↔ exponentOf x ≠ 2047 := by
  have hall : Nat.pow 2 11 - 1 = 2047 := rfl
  rw [Binary.ofFloat, Binary.ofBits, ← exponentOf_eq, hall]
  by_cases h : exponentOf x = 2047
  · simp only [h, if_true]
    split <;> simp
  · simp only [h, if_false]
    split <;> simp [h]

/-- What bits are unpacked into, told by the numbers that their parts make. -/
inductive Unpacks (b : BitVec Format.binary64.numBits) : UnpackedFloat → Prop
  | infinity : (unpackExponent b).toNat = 2047 → (unpackMantissa b).toNat = 0 →
      Unpacks b (.infinity (.ofBitVec (unpackSign b)))
  | notANumber : (unpackExponent b).toNat = 2047 → (unpackMantissa b).toNat ≠ 0 →
      Unpacks b .notANumber
  | zero : (unpackExponent b).toNat = 0 → (unpackMantissa b).toNat = 0 →
      Unpacks b (.zero (.ofBitVec (unpackSign b)))
  | subnormal {hm : 0 < (unpackMantissa b).toNat} : (unpackExponent b).toNat = 0 →
      Unpacks b (.finite (.ofBitVec (unpackSign b)) (unpackMantissa b).toNat (-1074) hm)
  | normal {m : Nat} {hm : 0 < m} : (unpackExponent b).toNat ≠ 0 →
      (unpackExponent b).toNat ≠ 2047 → m = 2 ^ 52 + (unpackMantissa b).toNat →
      Unpacks b (.finite (.ofBitVec (unpackSign b)) m ((unpackExponent b).toNat - 1075) hm)

theorem unpacks (b : BitVec Format.binary64.numBits) : Unpacks b (unpack .binary64 b) := by
  have hlast : unpackExponent b = -1#11 ↔ (unpackExponent b).toNat = 2047 := BitVec.toNat_inj.symm
  have hfirst : unpackExponent b = 0#11 ↔ (unpackExponent b).toNat = 0 := BitVec.toNat_inj.symm
  have hblank : unpackMantissa b = 0#52 ↔ (unpackMantissa b).toNat = 0 := BitVec.toNat_inj.symm
  unfold unpack
  dsimp only
  by_cases hall : unpackExponent b = -1#11
  · rw [if_pos hall]
    by_cases hnone : unpackMantissa b = 0#52
    · rw [if_pos hnone]
      exact .infinity (hlast.mp hall) (hblank.mp hnone)
    · rw [if_neg hnone]
      exact .notANumber (hlast.mp hall) (hblank.not.mp hnone)
  rw [if_neg hall]
  by_cases hleast : unpackExponent b = 0#11
  · rw [if_pos hleast]
    by_cases hnone : unpackMantissa b = 0#52
    · rw [dif_pos hnone]
      exact .zero (hfirst.mp hleast) (hblank.mp hnone)
    · rw [dif_neg hnone, hfirst.mp hleast]
      exact .subnormal (hfirst.mp hleast)
  · rw [if_neg hleast]
    refine .normal (hfirst.not.mp hleast) (hlast.not.mp hall) ?_
    rw [BitVec.toNat_append, ← Nat.shiftLeft_add_eq_or_of_lt (unpackMantissa b).isLt]
    rfl

/-- Zero, or a number of 53 bits at most with an exponent up to a bound. -/
def Within (bound : Int) : UnpackedFloat → Prop
  | .zero _ => True
  | .finite _ m e _ => m < 2 ^ 53 ∧ e ≤ bound
  | _ => False

theorem within_neg {bound : Int} {u : UnpackedFloat} (h : Within bound u) :
    Within bound u.neg := by
  cases u <;> exact h

theorem within_unpack {b : BitVec Format.binary64.numBits} {k : Nat} (hk : 1 ≤ k)
    (hk' : k ≤ 2046) (h : (unpackExponent b).toNat ≤ k) :
    Within (k - 1075) (unpack .binary64 b) := by
  have hmantissa : (unpackMantissa b).toNat < 2 ^ 52 := (unpackMantissa b).isLt
  have hunpacks := unpacks b
  generalize unpack .binary64 b = u at hunpacks ⊢
  cases hunpacks with
  | infinity hlast | notANumber hlast => omega
  | zero => trivial
  | subnormal => exact ⟨by omega, by omega⟩
  | normal _ _ hm => exact ⟨by omega, by omega⟩

/-- All bits of exponent set are an infinity or a NaN. -/
theorem unpack_of_exponent {b : BitVec Format.binary64.numBits}
    (h : (unpackExponent b).toNat = 2047) :
    (∃ s, unpack .binary64 b = .infinity s) ∨ unpack .binary64 b = .notANumber := by
  have hunpacks := unpacks b
  generalize unpack .binary64 b = u at hunpacks ⊢
  cases hunpacks with
  | infinity => exact .inl ⟨_, rfl⟩
  | notANumber => exact .inr rfl
  | zero hfirst | subnormal hfirst => omega
  | normal _ hlast => exact absurd h hlast

theorem exponentOf_pack (u : UnpackedFloat) :
    exponentOf ⟨Float.Model.pack u⟩ = (unpackExponent (pack .binary64 u)).toNat := rfl

theorem exponent_packedInfinity (s : Sign) :
    (unpackExponent (packedInfinity .binary64 s)).toNat = 2047 := by
  rw [packedInfinity, unpackExponent_packComponents]
  rfl

theorem pack_finite (s : Sign) (m : Nat) (e : Int) (hm : 0 < m) :
    pack .binary64 (.finite s m e hm) =
      if 2048 ≤ (e + 1023 + 52).toNat + 1 then packedInfinity .binary64 s
      else if m.log2 + 1 = 53 then
        packComponents .binary64 s (BitVec.ofNat 11 (e + 1023 + 52).toNat) (BitVec.ofNat 52 m)
      else packComponents .binary64 s 0#11 (BitVec.ofNat 52 m) := rfl

theorem exponent_pack_le {u : UnpackedFloat} {k : Nat} (hk : k ≤ 2046)
    (h : Within (k - 1075) u) : (unpackExponent (pack .binary64 u)).toNat ≤ k := by
  cases u with
  | zero s =>
    have hzero : pack .binary64 (.zero s) = packedZero .binary64 s := rfl
    rw [hzero, packedZero, unpackExponent_packComponents]
    exact Nat.zero_le k
  | finite s m e hm =>
    have he := h.2
    rw [pack_finite, if_neg (by omega)]
    split
    · rw [unpackExponent_packComponents, BitVec.toNat_ofNat]
      exact (Nat.mod_le _ _).trans (by omega)
    · rw [unpackExponent_packComponents]
      exact Nat.zero_le k
  | infinity | notANumber => exact h.elim

theorem exponent_pack_of_large {s : Sign} {m : Nat} {e : Int} {hm : 0 < m} (h : 972 ≤ e) :
    (unpackExponent (pack .binary64 (.finite s m e hm))).toNat = 2047 := by
  rw [pack_finite, if_pos (by omega), exponent_packedInfinity]

/-- The sign does not matter. -/
theorem exponentOf_neg (x : Float) : exponentOf x.neg = 2047 ↔ exponentOf x = 2047 := by
  have hneg : x.neg = ⟨Float.Model.pack x.toModel.unpack.neg⟩ := rfl
  rw [hneg, exponentOf_pack]
  constructor
  · intro h
    rcases Nat.lt_or_eq_of_le (exponentOf_le x) with hlt | heq
    · have hwithin : Within ((2046 : Nat) - 1075) x.toModel.unpack :=
        within_unpack (by decide) (Nat.le_refl _) (Nat.le_of_lt_succ hlt)
      have hle := exponent_pack_le (Nat.le_refl _) (within_neg hwithin)
      omega
    · exact heq
  · intro h
    have hunpack : (∃ s, x.toModel.unpack = .infinity s) ∨ x.toModel.unpack = .notANumber :=
      unpack_of_exponent h
    rcases hunpack with ⟨s, hs⟩ | hs
    · rw [hs]
      exact exponent_packedInfinity (-s)
    · rw [hs]
      rfl

/-! ### Rounding -/

/-- A mantissa of which nothing is cut off yet. -/
def uncut (m : Nat) : ExtendedMantissa := ⟨m, false, false⟩

theorem mantissa_shift (em : ExtendedMantissa) (k : Nat) :
    (em >>> k).mantissa = em.mantissa / 2 ^ k := by
  induction k with
  | zero => exact (Nat.div_one _).symm
  | succ k ih =>
    change (em >>> k).mantissa / 2 = _
    rw [ih, Nat.div_div_eq_div_mul, Nat.pow_succ]

/-- The bit on which rounding depends is the last one cut off. -/
theorem roundBit_shift (m k : Nat) :
    (uncut m >>> (k + 1)).roundBit.toNat = m / 2 ^ k % 2 := by
  have hbit : (uncut m >>> (k + 1)).roundBit = (m / 2 ^ k % 2 != 0) := by
    change ((uncut m >>> k).mantissa % 2 != 0) = _
    rw [mantissa_shift]
    rfl
  rw [hbit]
  rcases Nat.mod_two_eq_zero_or_one (m / 2 ^ k) with h | h <;> rw [h] <;> rfl

theorem roundedMantissa_cases (em : ExtendedMantissa) :
    em.roundedMantissa = em.mantissa ∨ em.roundedMantissa = em.mantissa + 1 := by
  obtain ⟨m, round, sticky⟩ := em
  cases round <;> cases sticky
  · exact .inl rfl
  · exact .inl rfl
  · change m + m % 2 = m ∨ m + m % 2 = m + 1
    omega
  · exact .inr rfl

/-- An odd mantissa is rounded up if and only if the last bit cut off is set. -/
theorem roundedMantissa_of_odd {em : ExtendedMantissa} (h : em.mantissa % 2 = 1) :
    em.roundedMantissa = em.mantissa + em.roundBit.toNat := by
  obtain ⟨m, round, sticky⟩ := em
  cases round <;> cases sticky
  · rfl
  · rfl
  · change m + m % 2 = m + 1
    rw [h]
  · rfl

/-- The exponent that leaves a mantissa of 53 bits, if the least exponent allows it. -/
def target (m : Nat) (e : Int) : Int := max (m.log2 + e - 52) (-1074)

theorem shift_eq (m : Nat) (e : Int) :
    shiftToTargetExponent .binary64 m e .exact =
      (uncut m >>> (target m e - e).toNat, e + (target m e - e).toNat) := by
  have htarget : Format.binary64.targetExponent (Float.Model.totalExponent m e) = target m e := by
    unfold Float.Model.Format.targetExponent Float.Model.totalExponent target
    change max ((m.log2 : Int) + 1 + e - 53) (-1074) = _
    omega
  change shiftToExponent m e .exact (Format.binary64.targetExponent _) = _
  rw [htarget]
  rfl

theorem shift_of_lt {m : Nat} (hm : m < 2 ^ 53) {e : Int} (he : -1074 ≤ e) :
    shiftToTargetExponent .binary64 m e .exact = (uncut m, e) := by
  have hlog : m.log2 ≤ 52 := by
    by_cases h : m = 0
    · simp [h]
    · exact Nat.le_of_lt_succ ((Nat.log2_lt h).mpr hm)
  have hnone : (target m e - e).toNat = 0 := by
    rw [target]
    omega
  rw [shift_eq, hnone, Int.natCast_zero, Int.add_zero]
  rfl

theorem shift_of_carry {e : Int} (he : -1074 ≤ e) :
    shiftToTargetExponent .binary64 (2 ^ 53) e .exact = (uncut (2 ^ 52), e + 1) := by
  have hone : (target (2 ^ 53) e - e).toNat = 1 := by
    rw [target, Nat.log2_two_pow]
    omega
  rw [shift_eq, hone]
  rfl

section

variable (s : Sign) (m : Nat) (e : Int)

/-- The mantissa after rounding, which may have 54 bits. -/
def rounded : Nat := (uncut m >>> (target m e - e).toNat).roundedMantissa

/-- The exponent that goes with it. -/
def roundedExponent : Int := e + (target m e - e).toNat

theorem roundedExponent_eq : roundedExponent m e = max e (target m e) := by
  rw [roundedExponent]
  omega

theorem le_roundedExponent : -1074 ≤ roundedExponent m e := by
  rw [roundedExponent_eq, target]
  omega

theorem rounded_le : rounded m e ≤ 2 ^ 53 := by
  have hfloor : (uncut m >>> (target m e - e).toNat).mantissa < 2 ^ 53 := by
    rw [mantissa_shift, Nat.div_lt_iff_lt_mul (Nat.two_pow_pos _), ← Nat.pow_add]
    refine Nat.lt_of_lt_of_le Nat.lt_log2_self (Nat.pow_le_pow_right (by decide) ?_)
    change m.log2 + 1 ≤ _
    rw [target]
    omega
  rcases roundedMantissa_cases (uncut m >>> (target m e - e).toNat) with h | h
  · rw [rounded, h]
    exact Nat.le_of_lt hfloor
  · rw [rounded, h]
    exact hfloor

variable {m e}

theorem round_eq : roundWithAccuracy .binary64 s m e .exact =
    let final := shiftToTargetExponent .binary64 (rounded m e) (roundedExponent m e) .exact
    if h : final.1.mantissa = 0 then .zero s
    else .finite s final.1.mantissa final.2 (Nat.pos_of_ne_zero h) := by
  rw [roundWithAccuracy, shift_eq]
  rfl

theorem round_of_lt (h : rounded m e < 2 ^ 53) :
    roundWithAccuracy .binary64 s m e .exact =
      if h : rounded m e = 0 then .zero s
      else .finite s (rounded m e) (roundedExponent m e) (Nat.pos_of_ne_zero h) := by
  rw [round_eq, shift_of_lt h (le_roundedExponent m e)]
  rfl

theorem round_of_carry (h : rounded m e = 2 ^ 53) :
    roundWithAccuracy .binary64 s m e .exact =
      .finite s (2 ^ 52) (roundedExponent m e + 1) (by decide) := by
  rw [round_eq, h, shift_of_carry (le_roundedExponent m e)]
  rfl

theorem within_round {bound : Int} (h : roundedExponent m e < bound) :
    Within bound (roundWithAccuracy .binary64 s m e .exact) := by
  rcases Nat.lt_or_eq_of_le (rounded_le m e) with hlt | hcarry
  · rw [round_of_lt s hlt]
    by_cases hzero : rounded m e = 0
    · rw [dif_pos hzero]
      trivial
    · rw [dif_neg hzero]
      exact ⟨hlt, Int.le_of_lt h⟩
  · rw [round_of_carry s hcarry]
    exact ⟨by decide, h⟩

end

/-! ### Powers of two -/

section

variable {n : Nat} (hn : n ≠ 0)

include hn

theorem log2_mul_two_pow (k : Nat) : (n * 2 ^ k).log2 = n.log2 + k := by
  have hpos := Nat.two_pow_pos k
  rw [Nat.log2_eq_iff (Nat.mul_ne_zero hn (Nat.ne_of_gt hpos)), Nat.pow_add, Nat.add_right_comm,
    Nat.pow_add]
  exact ⟨Nat.mul_le_mul_right _ (Nat.log2_self_le hn),
    Nat.mul_lt_mul_of_pos_right Nat.lt_log2_self hpos⟩

theorem roundedExponent_mul (k : Nat) (e : Int) :
    roundedExponent (n * 2 ^ k) e = max e (max (n.log2 + k + e - 52) (-1074)) := by
  rw [roundedExponent_eq, target, log2_mul_two_pow hn, Int.natCast_add]

theorem div_two_pow_lt {j k : Nat} (h : n.log2 < j + k) : n / 2 ^ k < 2 ^ j := by
  rw [Nat.div_lt_iff_lt_mul (Nat.two_pow_pos k), ← Nat.pow_add]
  exact (Nat.log2_lt hn).mp h

theorem le_div_two_pow {j k : Nat} (h : j + k ≤ n.log2) : 2 ^ j ≤ n / 2 ^ k := by
  rw [Nat.le_div_iff_mul_le (Nat.two_pow_pos k), ← Nat.pow_add]
  exact (Nat.le_log2 hn).mp h

end

/-! ### Small integers -/

theorem within_ofNat {n : Nat} (hn : n < 2 ^ 53) :
    Within 1 (UnpackedFloat.ofNat .binary64 n) := by
  rcases Nat.eq_zero_or_pos n with rfl | hpos
  · trivial
  have hne := Nat.ne_of_gt hpos
  have hlog : n.log2 ≤ 52 := Nat.le_of_lt_succ ((Nat.log2_lt hne).mpr hn)
  have hround : UnpackedFloat.ofNat .binary64 n = UnpackedFloat.round .binary64 .positive n 0 := by
    rw [UnpackedFloat.ofNat, ofInt, UnpackedFloat.normalize,
      Int.compare_eq_gt.mpr (Int.natCast_pos.mpr hpos)]
    rfl
  have hcut (k : Nat) (hk : k + n.log2 = 52) : roundedExponent (n * 2 ^ k) (0 - k) < 1 := by
    rw [roundedExponent_mul hne]
    omega
  have hfilled : (0 - max ((n.log2 : Int) + 1 + 0 - 53) (-1074)).toNat + n.log2 = 52 := by omega
  rw [hround]
  refine within_round _ ?_
  rw [Nat.shiftLeft_eq]
  exact hcut _ hfilled

/-- The double one, which small integers are multiplied by. -/
def one : UnpackedFloat := .finite .positive (2 ^ 52) (-52) (by decide)

theorem within_mul_one {u : UnpackedFloat} {bound : Int} (h : Within bound u)
    (hlow : -1074 ≤ bound) : Within (bound + 1) (UnpackedFloat.mul .binary64 u one) := by
  cases u with
  | zero => trivial
  | finite s m e hm =>
    have hlog : m.log2 ≤ 52 := Nat.le_of_lt_succ ((Nat.log2_lt (Nat.ne_of_gt hm)).mpr h.1)
    have he := h.2
    refine within_round _ ?_
    rw [roundedExponent_mul (Nat.ne_of_gt hm)]
    omega
  | infinity | notANumber => exact h.elim

theorem exponentOf_ofNat_of_small {n : Nat} (hn : n < 2 ^ 53) :
    exponentOf (.ofNat n) ≠ 2047 := by
  have hword : n.toUInt64.toNat = n := by
    rw [Nat.toUInt64, UInt64.toNat_ofNat']
    exact Nat.mod_eq_of_lt (Nat.lt_of_lt_of_le hn (by decide))
  have hproduct : Float.ofNat n =
      ⟨Float.Model.pack (UnpackedFloat.mul .binary64 n.toUInt64.toFloat.toModel.unpack one)⟩ := by
    have hone : (1.0 : Float).toModel.unpack = one := rfl
    rw [← hone]
    change Float.ofScientific n false 0 = _
    rw [Float.ofScientific, dif_pos ⟨hn, by decide⟩]
    rfl
  have hfactor : Within ((1076 : Nat) - 1075) n.toUInt64.toFloat.toModel.unpack := by
    refine within_unpack (by decide) (by decide) (exponent_pack_le (by decide) ?_)
    rw [ofUInt64, hword]
    exact within_ofNat hn
  have hle := exponent_pack_le (k := 1077) (by decide) (within_mul_one hfactor (by decide))
  rw [hproduct, exponentOf_pack]
  omega

/-! ### Large integers -/

section

variable {n : Nat} (hn : 2 ^ 53 ≤ n)

include hn

theorem ne_zero_of_large : n ≠ 0 := Nat.ne_of_gt (Nat.lt_of_lt_of_le (by decide) hn)

theorem le_log2_of_large : 53 ≤ n.log2 := (Nat.le_log2 (ne_zero_of_large hn)).mpr hn

theorem exponentOf_ofNat_of_large : exponentOf (.ofNat n) = (unpackExponent (pack .binary64
    (roundWithAccuracy .binary64 .positive (n * 2 ^ 53) (-53) .exact))).toNat := by
  have hscientific : Float.ofNat n = ⟨Float.Model.ofScientific n 0⟩ := by
    change Float.ofScientific n false 0 = _
    rw [Float.ofScientific, dif_neg fun h ↦ absurd h.1 (Nat.not_lt.mpr hn)]
    rfl
  have hround : UnpackedFloat.ofScientific .binary64 n 0 =
      roundWithAccuracy .binary64 .positive (n <<< 53 * 10 ^ 0) (-53 + 0) .exact := by
    rw [UnpackedFloat.ofScientific, dif_neg (ne_zero_of_large hn), if_neg (by decide), if_neg,
      if_pos (Int.le_refl 0)]
    · rfl
    · change ¬(0 : Int) < -(2048 + n.log2)
      omega
  rw [hscientific, Float.Model.ofScientific, hround, exponentOf_pack, Nat.shiftLeft_eq,
    Nat.pow_zero, Nat.mul_one, Int.add_zero]

theorem roundedExponent_of_large : roundedExponent (n * 2 ^ 53) (-53) = n.log2 - 52 := by
  have hlog := le_log2_of_large hn
  rw [roundedExponent_mul (ne_zero_of_large hn)]
  omega

theorem shift_of_large : (target (n * 2 ^ 53) (-53) - -53).toNat = n.log2 + 1 := by
  have hlog := le_log2_of_large hn
  rw [target, log2_mul_two_pow (ne_zero_of_large hn)]
  omega

theorem rounded_ne_zero : rounded (n * 2 ^ 53) (-53) ≠ 0 := by
  have hfloor : 0 < (uncut (n * 2 ^ 53) >>> (n.log2 + 1)).mantissa := by
    rw [mantissa_shift]
    refine Nat.div_pos ?_ (Nat.two_pow_pos _)
    change 2 ^ (n.log2 + 1) ≤ n * 2 ^ 53
    rw [Nat.pow_succ]
    exact Nat.mul_le_mul (Nat.log2_self_le (ne_zero_of_large hn)) (by decide)
  rw [rounded, shift_of_large hn]
  rcases roundedMantissa_cases (uncut (n * 2 ^ 53) >>> (n.log2 + 1)) with h | h <;> omega

/-- Rounding carries if and only if the first 54 bits are all set. -/
theorem rounded_eq_iff :
    rounded (n * 2 ^ 53) (-53) = 2 ^ 53 ↔ n / 2 ^ (n.log2 - 53) = 2 ^ 54 - 1 := by
  have hlog : n.log2 - 53 + 53 = n.log2 := Nat.sub_add_cancel (le_log2_of_large hn)
  have hcut : n * 2 ^ 53 / 2 ^ n.log2 = n / 2 ^ (n.log2 - 53) := by
    rw [← hlog, Nat.pow_add, Nat.add_sub_cancel, Nat.mul_div_mul_right _ _ (Nat.two_pow_pos 53)]
  have hfloor :
      (uncut (n * 2 ^ 53) >>> (n.log2 + 1)).mantissa = n / 2 ^ (n.log2 - 53) / 2 := by
    rw [mantissa_shift, Nat.pow_succ 2 n.log2, ← Nat.div_div_eq_div_mul]
    exact congrArg (· / 2) hcut
  have hbit :
      (uncut (n * 2 ^ 53) >>> (n.log2 + 1)).roundBit.toNat = n / 2 ^ (n.log2 - 53) % 2 := by
    rw [roundBit_shift, hcut]
  have hquotient : n / 2 ^ (n.log2 - 53) < 2 ^ 54 :=
    div_two_pow_lt (ne_zero_of_large hn) (by omega)
  rw [rounded, shift_of_large hn]
  generalize uncut (n * 2 ^ 53) >>> (n.log2 + 1) = em at *
  generalize n / 2 ^ (n.log2 - 53) = q at *
  constructor
  · intro h
    have hodd : em.mantissa % 2 = 1 := by
      rcases roundedMantissa_cases em with heq | heq <;> omega
    have hup := roundedMantissa_of_odd hodd
    omega
  · intro h
    have hodd : em.mantissa % 2 = 1 := by omega
    rw [roundedMantissa_of_odd hodd]
    omega

/-- A large integer has too large an exponent from `2 ^ 1024 - 2 ^ 970` on. -/
theorem exponentOf_ofNat_of_large_iff :
    exponentOf (.ofNat n) = 2047 ↔ 2 ^ 54 - 1 ≤ n / 2 ^ 970 := by
  have hne := ne_zero_of_large hn
  have hexponent := roundedExponent_of_large hn
  have hcases := Nat.lt_or_eq_of_le (rounded_le (n * 2 ^ 53) (-53))
  rw [exponentOf_ofNat_of_large hn]
  rcases Nat.lt_trichotomy n.log2 1023 with hsmall | hlast | hlarge
  · have hwithin : Within ((2046 : Nat) - 1075)
        (roundWithAccuracy .binary64 .positive (n * 2 ^ 53) (-53) .exact) :=
      within_round _ (by omega)
    have hle := exponent_pack_le (Nat.le_refl _) hwithin
    have hquotient : n / 2 ^ 970 < 2 ^ 53 := div_two_pow_lt hne (by omega)
    omega
  · have hiff := rounded_eq_iff hn
    rw [hlast, show 1023 - 53 = 970 from rfl] at hiff
    have hquotient : n / 2 ^ 970 < 2 ^ 54 := div_two_pow_lt hne (by omega)
    rcases hcases with hlt | hcarry
    · have hwithin : Within ((2046 : Nat) - 1075)
          (roundWithAccuracy .binary64 .positive (n * 2 ^ 53) (-53) .exact) := by
        rw [round_of_lt _ hlt, dif_neg (rounded_ne_zero hn)]
        exact ⟨hlt, by omega⟩
      have hle := exponent_pack_le (Nat.le_refl _) hwithin
      omega
    · rw [round_of_carry _ hcarry, exponent_pack_of_large (by omega)]
      omega
  · have hquotient : 2 ^ 54 ≤ n / 2 ^ 970 := le_div_two_pow hne (by omega)
    rcases hcases with hlt | hcarry
    · rw [round_of_lt _ hlt, dif_neg (rounded_ne_zero hn), exponent_pack_of_large (by omega)]
      omega
    · rw [round_of_carry _ hcarry, exponent_pack_of_large (by omega)]
      omega

end

/-! ### Integers -/

theorem exponentOf_ofNat_iff (n : Nat) :
    exponentOf (.ofNat n) = 2047 ↔ 2 ^ 54 - 1 ≤ n / 2 ^ 970 := by
  rcases Nat.lt_or_ge n (2 ^ 53) with hsmall | hlarge
  · have hle : n / 2 ^ 970 ≤ n := Nat.div_le_self n _
    exact iff_of_false (exponentOf_ofNat_of_small hsmall) (by omega)
  · exact exponentOf_ofNat_of_large_iff hlarge

theorem exponentOf_ofInt_iff (n : Int) :
    exponentOf (.ofInt n) = 2047 ↔ 2 ^ 54 - 1 ≤ n.natAbs / 2 ^ 970 := by
  cases n with
  | ofNat n => exact exponentOf_ofNat_iff n
  | negSucc n => exact (exponentOf_neg _).trans (exponentOf_ofNat_iff (n + 1))

end Rounding

/-- From half a step above the largest double on, an integer has no nearest one. -/
theorem nearestFloat?_eq_none_iff (n : Int) :
    nearestFloat? n = none ↔ 2 ^ 1024 - 2 ^ 970 ≤ n.natAbs := by
  have hthreshold (m k : Nat) : 2 ^ 54 - 1 ≤ m / 2 ^ k ↔ 2 ^ (54 + k) - 2 ^ k ≤ m := by
    rw [Nat.le_div_iff_mul_le (Nat.two_pow_pos k), Nat.sub_mul, ← Nat.pow_add, Nat.one_mul]
  have hfinite := Rounding.exists_finite_iff (.ofInt n)
  rw [show 1024 = 54 + 970 from rfl, ← hthreshold, ← Rounding.exponentOf_ofInt_iff, nearestFloat?]
  rcases hx : Binary.ofFloat (.ofInt n) with ⟨negative, significand, exponent⟩ | negative | _
  · simpa [hx] using hfinite
  · simpa [hx] using hfinite
  · simpa [hx] using hfinite

end MouseControl
