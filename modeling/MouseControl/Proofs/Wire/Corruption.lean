import MouseControl.Proofs.Wire.Codec

/-!
What the checksum protects. A buffer is intact exactly if bytes 2 to 88, the checksum among them,
have the exclusive or zero (`intact_iff`), so a mask goes undetected exactly if its own bytes 2 to
88 do (`intact_masked_iff`). That sum is the sum of the bytes that the mask touches
(`intact_masked_of_touches`): one changed byte is always detected, and two are exactly if they are
changed differently.
-/

set_option autoImplicit false
set_option relaxedAutoImplicit false

namespace MouseControl

/-! ### Sums -/

@[simp] theorem xorSum_nil : xorSum [] = 0 := rfl

@[simp] theorem xorSum_cons (byte : UInt8) (bytes : Bytes) :
    xorSum (byte :: bytes) = byte ^^^ xorSum bytes := by
  calc xorSum (byte :: bytes) = bytes.foldl (· ^^^ ·) (0 ^^^ byte) := rfl
    _ = bytes.foldl (· ^^^ ·) (byte ^^^ 0) := by rw [UInt8.xor_comm]
    _ = byte ^^^ xorSum bytes := List.foldl_assoc

theorem xorSum_append (first second : Bytes) :
    xorSum (first ++ second) = xorSum first ^^^ xorSum second := by
  induction first with
  | nil => simp
  | cons byte rest ih => rw [List.cons_append, xorSum_cons, xorSum_cons, ih, UInt8.xor_assoc]

theorem xorSum_zipWith {first second : Bytes} (h : first.length = second.length) :
    xorSum (List.zipWith (· ^^^ ·) first second) = xorSum first ^^^ xorSum second := by
  induction first generalizing second with
  | nil =>
    rw [List.eq_nil_of_length_eq_zero h.symm]
    rfl
  | cons byte rest ih =>
    cases second with
    | nil => simp at h
    | cons byte' rest' =>
      rw [List.zipWith_cons_cons, xorSum_cons, xorSum_cons, xorSum_cons, ih (by simpa using h)]
      ac_rfl

/-- A byte that is made zero leaves the sum. -/
theorem xorSum_set_zero (bytes : Bytes) (i : Nat) :
    xorSum (bytes.set i 0) = bytes.getD i 0 ^^^ xorSum bytes := by
  induction bytes generalizing i with
  | nil => simp
  | cons byte rest ih =>
    cases i with
    | zero =>
      rw [List.set_cons_zero, xorSum_cons, xorSum_cons, List.getD_cons_zero, ← UInt8.xor_assoc,
        UInt8.xor_self]
    | succ i =>
      rw [List.set_cons_succ, xorSum_cons, xorSum_cons, List.getD_cons_succ, ih]
      ac_rfl

theorem xorSum_eq_zero {bytes : Bytes} (h : ∀ i, bytes.getD i 0 = 0) : xorSum bytes = 0 := by
  induction bytes with
  | nil => rfl
  | cons byte rest ih =>
    have hfirst : byte = 0 := h 0
    rw [xorSum_cons, hfirst, ih fun i ↦ h (i + 1), UInt8.xor_zero]

/-- The sum of some bytes is that of the places at which they are not zero. -/
theorem xorSum_eq_of_places {places : List Nat} (hnodup : places.Nodup) {bytes : Bytes}
    (h : ∀ i, i ∉ places → bytes.getD i 0 = 0) :
    xorSum bytes = xorSum (places.map fun i ↦ bytes.getD i 0) := by
  induction places generalizing bytes with
  | nil => exact xorSum_eq_zero fun i ↦ h i List.not_mem_nil
  | cons place rest ih =>
    obtain ⟨hplace, hrest⟩ := List.nodup_cons.mp hnodup
    have hset (i : Nat) (hi : i ≠ place) : (bytes.set place 0).getD i 0 = bytes.getD i 0 := by
      rw [List.getD_eq_getElem?_getD, List.getElem?_set_ne hi.symm, List.getD_eq_getElem?_getD]
    have hzero (i : Nat) (hi : i ∉ rest) : (bytes.set place 0).getD i 0 = 0 := by
      by_cases hsame : i = place
      · subst hsame
        rw [List.getD_eq_getElem?_getD, List.getElem?_set]
        by_cases hbound : i < bytes.length <;> simp [hbound]
      · rw [hset i hsame]
        exact h i (List.not_mem_cons_of_ne_of_not_mem hsame hi)
    have hmap : (rest.map fun i ↦ (bytes.set place 0).getD i 0) =
        rest.map fun i ↦ bytes.getD i 0 :=
      List.map_congr_left fun i hi ↦ hset i fun hsame ↦ hplace (hsame ▸ hi)
    rw [List.map_cons, xorSum_cons, ← hmap, ← ih hrest hzero, xorSum_set_zero, ← UInt8.xor_assoc,
      UInt8.xor_self, UInt8.zero_xor]

namespace Frame

/-! ### Sealing -/

/-- A buffer brought up to date: only byte 88 may differ, it is the checksum, and doing so once more
changes nothing. -/
structure Resealed (buffer sealed : Bytes) : Prop where
  reseal_eq : reseal buffer = .ok sealed
  kept : ∀ i, i ≠ 88 → sealed[i]? = buffer[i]?
  again : reseal sealed = .ok sealed
  checksum_eq : sealed[88]? = some (checksum sealed)

variable {buffer mask : Bytes}

theorem checksum_withChecksum (buffer : Bytes) :
    checksum (withChecksum buffer) = checksum buffer := by
  rw [checksum, protectedSpan, withChecksum, List.take_set_of_le (Nat.le_refl _), ← protectedSpan,
    ← checksum]

theorem resealed_withChecksum (h : 89 ≤ buffer.length) : Resealed buffer (withChecksum buffer) := by
  have hreseal {long : Bytes} (hlong : 89 ≤ long.length) : reseal long = .ok (withChecksum long) :=
    if_pos hlong
  refine ⟨hreseal h, fun i hi ↦ ?_, ?_, ?_⟩
  · rw [withChecksum, checksumOffset, List.getElem?_set_ne hi.symm]
  · rw [hreseal (by rwa [length_withChecksum]), withChecksum_withChecksum]
  · rw [checksum_withChecksum, withChecksum, checksumOffset, List.getElem?_set_self h]

/-! ### Detection -/

/-- A buffer that can be taken apart and whose checksum holds. -/
def Intact (buffer : Bytes) : Prop :=
  ∃ parts, decode buffer = .ok parts ∧ parts.checksumValid = true

/-- A buffer with some bits of it flipped. -/
def masked (buffer mask : Bytes) : Bytes := List.zipWith (· ^^^ ·) buffer mask

/-- Bytes 2 to 88: those that the checksum covers, and the checksum. -/
def guarded (buffer : Bytes) : Bytes := (buffer.drop 2).take 87

theorem getD_guarded {k : Nat} (h : k < 87) :
    (guarded buffer).getD k 0 = buffer.getD (k + 2) 0 := by
  rw [guarded, List.getD_eq_getElem?_getD, List.getElem?_take_of_lt h, List.getElem?_drop,
    Nat.add_comm, List.getD_eq_getElem?_getD]

theorem getD_guarded_of_le {k : Nat} (h : 87 ≤ k) : (guarded buffer).getD k 0 = 0 := by
  rw [guarded, List.getD_eq_getElem?_getD, List.getElem?_take_eq_none h]
  rfl

theorem intact_iff (h : buffer.length = 90) : Intact buffer ↔ xorSum (guarded buffer) = 0 := by
  obtain ⟨parts, hparts⟩ := decode_of_length h
  have hbound : 88 < buffer.length := by omega
  have hsplit : guarded buffer = (buffer.drop 2).take 86 ++ [buffer[88]] := by
    rw [guarded, List.take_add_one, List.getElem?_drop, List.getElem?_eq_getElem hbound]
    rfl
  have hvalid : Intact buffer ↔ parts.checksumValid = true := by
    constructor
    · rintro ⟨other, hother, hvalid⟩
      obtain rfl := Except.ok.inj (hparts.symm.trans hother)
      exact hvalid
    · exact fun hvalid ↦ ⟨parts, hparts, hvalid⟩
  rw [hvalid, checksumValid_iff hparts, hsplit, xorSum_append, xorSum_cons, xorSum_nil,
    UInt8.xor_zero, UInt8.xor_eq_zero_iff, List.getElem?_eq_getElem hbound, Option.some_inj]
  exact eq_comm

theorem intact_masked_iff (hbuffer : buffer.length = 90) (hmask : mask.length = 90)
    (h : Intact buffer) : Intact (masked buffer mask) ↔ xorSum (guarded mask) = 0 := by
  have hlength : (masked buffer mask).length = 90 := by
    rw [masked, List.length_zipWith, hbuffer, hmask]
    rfl
  have hguarded : (guarded buffer).length = (guarded mask).length := by
    simp only [guarded, List.length_take, List.length_drop, hbuffer, hmask]
  have hsplit : guarded (masked buffer mask) =
      List.zipWith (· ^^^ ·) (guarded buffer) (guarded mask) := by
    rw [guarded, masked, List.drop_zipWith, List.take_zipWith, guarded, guarded]
  rw [intact_iff hlength, hsplit, xorSum_zipWith hguarded, (intact_iff hbuffer).mp h,
    UInt8.zero_xor]

/-- Of bytes 2 to 88, a mask changes none but these. -/
def Touches (places : List Nat) (mask : Bytes) : Prop :=
  ∀ i, 2 ≤ i → i ≤ 88 → i ∉ places → mask.getD i 0 = 0

/-- Whether a mask is detected depends on the bytes that it touches alone. -/
theorem intact_masked_of_touches (hbuffer : buffer.length = 90) (hmask : mask.length = 90)
    (h : Intact buffer) {places : List Nat} (hnodup : places.Nodup)
    (hrange : ∀ i ∈ places, 2 ≤ i ∧ i ≤ 88) (htouches : Touches places mask) :
    Intact (masked buffer mask) ↔ xorSum (places.map fun i ↦ mask.getD i 0) = 0 := by
  -- with two zeros in front, the guarded bytes keep the places that they have in the mask
  have hplace (i : Nat) (hlow : 2 ≤ i) (hhigh : i ≤ 88) :
      (0 :: 0 :: guarded mask).getD i 0 = mask.getD i 0 := by
    obtain ⟨k, rfl⟩ := Nat.exists_eq_add_of_le' hlow
    exact getD_guarded (by omega)
  have hzero (i : Nat) (hi : i ∉ places) : (0 :: 0 :: guarded mask).getD i 0 = 0 := by
    rcases i with _ | _ | k
    · rfl
    · rfl
    · by_cases hhigh : k + 2 ≤ 88
      · rw [hplace (k + 2) (by omega) hhigh, htouches (k + 2) (by omega) hhigh hi]
      · exact getD_guarded_of_le (by omega)
  have hsum : xorSum (guarded mask) = xorSum (0 :: 0 :: guarded mask) := by
    rw [xorSum_cons, xorSum_cons, UInt8.zero_xor, UInt8.zero_xor]
  rw [intact_masked_iff hbuffer hmask h, hsum, xorSum_eq_of_places hnodup hzero]
  rw [List.map_congr_left fun i hi ↦ hplace i (hrange i hi).1 (hrange i hi).2]

/-- Sealing changes byte 88 of a buffer and nothing else. A changed frame is detected unless the sum
of the mask is zero: a change to one byte of 2 to 88 always is, one to two of them is unless both
are changed alike, and one to no byte of them never is. -/
theorem checksum_protects (draft buffer mask : Bytes) :
    ((∃ sealed, Resealed draft sealed) ↔ 89 ≤ draft.length) ∧
      (buffer.length = 90 → mask.length = 90 → Intact buffer →
        (Intact (masked buffer mask) ↔ xorSum ((mask.drop 2).take 87) = 0) ∧
        (Touches [] mask → Intact (masked buffer mask)) ∧
        (∀ i, 2 ≤ i → i ≤ 88 → Touches [i] mask → mask.getD i 0 ≠ 0 →
          ¬Intact (masked buffer mask)) ∧
        ∀ i j, 2 ≤ i → i < j → j ≤ 88 → Touches [i, j] mask → mask.getD i 0 ≠ 0 →
          mask.getD j 0 ≠ 0 → (Intact (masked buffer mask) ↔ mask.getD i 0 = mask.getD j 0)) := by
  refine ⟨⟨?_, fun hlong ↦ ⟨_, resealed_withChecksum hlong⟩⟩, fun hbuffer hmask h ↦
    ⟨intact_masked_iff hbuffer hmask h, fun hnone ↦ ?_, fun i hlow hhigh hone hi ↦ ?_,
      fun i j hlow hij hhigh htwo _ _ ↦ ?_⟩⟩
  · rintro ⟨sealed, hsealed⟩
    have hreseal := hsealed.reseal_eq
    unfold reseal at hreseal
    split at hreseal
    · next hlong => exact hlong
    · cases hreseal
  · exact (intact_masked_of_touches hbuffer hmask h List.nodup_nil (List.forall_mem_nil _)
      hnone).mpr rfl
  · rw [intact_masked_of_touches hbuffer hmask h (by simp)
      (List.forall_mem_singleton.mpr ⟨hlow, hhigh⟩) hone]
    simpa using hi
  · have hnodup : [i, j].Nodup := by simpa using Nat.ne_of_lt hij
    have hrange : ∀ k ∈ [i, j], 2 ≤ k ∧ k ≤ 88 := by
      simp only [List.mem_cons, List.not_mem_nil, or_false, forall_eq_or_imp, forall_eq]
      omega
    rw [intact_masked_of_touches hbuffer hmask h hnodup hrange htwo]
    simp

/-- In the firmware query two values are changed alike, and nobody notices. -/
theorem intact_of_equal_changes :
    let query := withChecksum (unsealed .firmwareVersion [])
    let mask := ((List.replicate 90 0).set 8 0x21).set 9 0x21
    (query.length = 90 ∧ mask.length = 90 ∧ Intact query ∧ Touches [8, 9] mask ∧
        mask.getD 8 0 ≠ 0 ∧ mask.getD 9 0 ≠ 0) ∧
      masked query mask ≠ query ∧ Intact (masked query mask) := by
  intro query mask
  have hintact : Intact query := ⟨_, rfl, by decide⟩
  have htouches : Touches [8, 9] mask := by
    intro i _ hhigh hi
    obtain ⟨hfirst, hsecond⟩ : i ≠ 8 ∧ i ≠ 9 := by simpa using hi
    rw [List.getD_eq_getElem?_getD, List.getElem?_set_ne hsecond.symm,
      List.getElem?_set_ne hfirst.symm, List.getElem?_replicate_of_lt (by omega)]
    rfl
  obtain ⟨-, h⟩ := checksum_protects [] query mask
  obtain ⟨-, -, -, htwo⟩ := h rfl rfl hintact
  refine ⟨⟨rfl, rfl, hintact, htouches, by decide, by decide⟩, by decide, ?_⟩
  exact (htwo 8 9 (by decide) (by decide) (by decide) htouches (by decide) (by decide)).mpr rfl

end Frame

end MouseControl
