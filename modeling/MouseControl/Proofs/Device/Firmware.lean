import Mathlib.Data.Int.Bitwise
import Mathlib.Data.Prod.Lex
import Mathlib.Tactic.Ring
import MouseControl.Device.Model

/-!
Firmware versions. Their arithmetic is that of masks and shifts on the bits of any integers, those
of negative ones running on without end (`pack_eq_lor`, `major_eq_land`, `minor_eq_land`). Packing
and taking apart undo each other but for what lies outside the bytes (`major_pack`, `minor_pack`,
`pack_parts`), and of two versions of two bytes that one is lower whose major number is, or whose
minor number is if the major numbers are the same (`lt_iff_numbers_lt`).
-/

set_option autoImplicit false
set_option relaxedAutoImplicit false

namespace MouseControl

namespace Firmware

/-! ### Bits -/

/-- The low bits that a number does not have are those of its complement. -/
theorem ldiff_mask (m n : Nat) : (2 ^ n - 1).ldiff m = 2 ^ n - (m % 2 ^ n + 1) := by
  have hlt : m % 2 ^ n < 2 ^ n := Nat.mod_lt m (Nat.two_pow_pos n)
  refine Nat.eq_of_testBit_eq fun i ↦ ?_
  rw [Nat.testBit_ldiff, Nat.testBit_two_pow_sub_one, Nat.testBit_two_pow_sub_succ hlt,
    Nat.testBit_mod_two_pow]
  cases decide (i < n) <;> rfl

/-- The low bits of any integer are its remainder, which is not negative. -/
theorem land_mask (z : Int) (n : Nat) : z.land ((2 ^ n - 1 : Nat) : Int) = z % 2 ^ n := by
  cases z with
  | ofNat m =>
    have hbits : (Int.ofNat m).land ((2 ^ n - 1 : Nat) : Int) = ((m &&& 2 ^ n - 1 : Nat) : Int) :=
      rfl
    rw [hbits, Nat.and_two_pow_sub_one_eq_mod]
    push_cast
    rfl
  | negSucc m =>
    have hbits : (Int.negSucc m).land ((2 ^ n - 1 : Nat) : Int) =
        (((2 ^ n - 1).ldiff m : Nat) : Int) := rfl
    have hlt : m % 2 ^ n < 2 ^ n := Nat.mod_lt m (Nat.two_pow_pos n)
    rw [hbits, ldiff_mask, Int.negSucc_emod m (Int.pow_pos (by decide)), Nat.cast_sub hlt]
    push_cast
    ring

/-- Bits that are moved out of the way of others are added to them. -/
theorem shiftLeft_lor {low n : Nat} (h : low < 2 ^ n) (high : Nat) :
    ((high : Int) <<< n).lor low = high * 2 ^ n + low := by
  have hbits : ((high : Int) <<< n).lor low = ((high <<< n ||| low : Nat) : Int) := rfl
  rw [hbits, ← Nat.shiftLeft_add_eq_or_of_lt h, Nat.shiftLeft_eq]
  push_cast
  rfl

theorem land_byte (z : Int) : z.land 0xFF = z % 0x100 := land_mask z 8

theorem pack_eq_lor (a b : Int) : pack a b = ((a.land 0xFF) <<< (8 : Nat)).lor (b.land 0xFF) := by
  have hbyte (z : Int) : ∃ byte : Nat, byte < 2 ^ 8 ∧ z % 0x100 = byte :=
    ⟨(z % 0x100).toNat, by omega, by omega⟩
  obtain ⟨high, -, ha⟩ := hbyte a
  obtain ⟨low, hlow, hb⟩ := hbyte b
  rw [land_byte, land_byte, pack, ha, hb, shiftLeft_lor hlow]
  rfl

theorem major_eq_land (version : Int) : major version = (version >>> (8 : Nat)).land 0xFF := by
  rw [land_byte, Int.shiftRight_eq_div_pow]
  rfl

theorem minor_eq_land (version : Int) : minor version = version.land 0xFF :=
  (land_byte version).symm

/-! ### Packing and taking apart -/

/-- A number of two bytes. -/
def TwoBytes (version : Int) : Prop := 0 ≤ version ∧ version ≤ 0xFFFF

instance (version : Int) : Decidable (TwoBytes version) := inferInstanceAs (Decidable (_ ∧ _))

theorem major_pack (a b : Int) : major (pack a b) = a % 0x100 := by
  rw [major, pack]
  omega

theorem minor_pack (a b : Int) : minor (pack a b) = b % 0x100 := by
  rw [minor, pack]
  omega

theorem pack_numbers (version : Int) :
    pack (major version) (minor version) = version % 0x10000 := by
  rw [pack, major, minor]
  omega

theorem twoBytes_pack (a b : Int) : TwoBytes (pack a b) := by
  rw [TwoBytes, pack]
  omega

/-! ### Order -/

/-- The major and the minor number of a version, the major number counting first. -/
def numbers (version : Int) : Int ×ₗ Int := toLex (major version, minor version)

theorem numbers_lt_iff (v w : Int) : numbers v < numbers w ↔ v % 0x10000 < w % 0x10000 := by
  rw [numbers, numbers, Prod.Lex.toLex_lt_toLex]
  dsimp only [major, minor]
  omega

theorem TwoBytes.emod_eq {version : Int} (h : TwoBytes version) : version % 0x10000 = version :=
  Int.emod_eq_of_lt h.1 (Int.lt_add_one_of_le h.2)

/-- Versions of two bytes are compared number by number. -/
theorem lt_iff_numbers_lt {v w : Int} (hv : TwoBytes v) (hw : TwoBytes w) :
    v < w ↔ numbers v < numbers w := by
  rw [numbers_lt_iff, hv.emod_eq, hw.emod_eq]

end Firmware

namespace Model

open Firmware

/-- The check of a firmware compares its numbers with those of the model's minimum. -/
theorem hasOldFirmware_iff {m : Model} (hgood : TwoBytes m.goodFirmware) {version : Int}
    (hversion : TwoBytes version) :
    m.hasOldFirmware version = true ↔
      m.goodFirmware ≠ 0 ∧ numbers version < numbers m.goodFirmware := by
  rw [hasOldFirmware, Bool.and_eq_true, bne_iff_ne, decide_eq_true_iff,
    lt_iff_numbers_lt hversion hgood]

/-- The minimum of every model has two bytes. -/
theorem twoBytes_goodFirmware (pid : Int) : TwoBytes (forPid known pid).goodFirmware := by
  have hknown : ∀ m ∈ known, TwoBytes m.goodFirmware := by decide
  rw [forPid]
  cases hfind : known.find? fun m ↦ m.pid == pid with
  | none =>
    have hnone : TwoBytes 0 := by decide
    exact hnone
  | some m => exact hknown m (List.mem_of_find?_eq_some hfind)

end Model

end MouseControl
