import MouseControl.Proofs.Device.Resolution

/-!
When two pairs of resolutions share a frame. A frame determines its opcode and its values
(`Frame.command_eq_of_encode`), so a frame is shared within one generation only, by pairs with the
same values (`Generation.shareFrame_iff`). A legacy sensor gets the number of steps modulo 64 and
so takes every resolution for 64 others apart by 6400 (`Generation.legacyByte_eq_iff`); an extended
one gets the resolution itself, if it has 16 bits. Neither can confuse two entries of its table.
-/

set_option autoImplicit false
set_option relaxedAutoImplicit false

namespace MouseControl

theorem bigEndian16_eq_iff (m n : Int) :
    bigEndian16 m = bigEndian16 n ↔ m % 0x10000 = n % 0x10000 := by
  constructor
  · intro h
    rw [← join16_bigEndian16 (n := m) rfl, ← join16_bigEndian16 h.symm]
  · intro h
    rw [bigEndian16, bigEndian16, h]

/-- A frame determines the command that it carries. -/
theorem Frame.command_eq_of_encode {opcode opcode' : Opcode} {values values' frame : Bytes}
    (h : encode opcode values = .ok frame) (h' : encode opcode' values' = .ok frame) :
    opcodeBytes opcode = opcodeBytes opcode' ∧ padded values = padded values' := by
  have hfields := (fields_of_encode h).symm.trans (fields_of_encode h')
  rw [List.append_assoc, List.append_assoc] at hfields
  exact List.append_inj (List.append_cancel_left hfields) rfl

namespace Generation

variable {g g' : Generation} {x y x' y' m m' : ResolutionMapping}

/-- One frame sets the resolutions of a pair for one sensor and those of a pair for another. -/
def ShareFrame (g : Generation) (x y : ResolutionMapping) (g' : Generation)
    (x' y' : ResolutionMapping) : Prop :=
  ∃ frame, g.encode x y = .ok frame ∧ g'.encode x' y' = .ok frame

/-! ### Values -/

/-- How many values a resolution command has. -/
def width : Generation → Nat
  | legacy => 2
  | extended => 5

theorem length_of_encodeValues {values : Bytes} (h : g.encodeValues x y = .ok values) :
    values.length = g.width := by
  cases g with
  | legacy =>
    cases h
    rfl
  | extended =>
    rw [encodeValues] at h
    split at h
    · cases h
      rfl
    · cases h

/-- The opcode tells the generations apart. -/
theorem eq_of_opcodeBytes_eq (h : Frame.opcodeBytes g.opcode = Frame.opcodeBytes g'.opcode) :
    g = g' := by
  revert h
  cases g <;> cases g' <;> decide

theorem encode_of_values {values : Bytes} (h : g.encodeValues x y = .ok values) :
    g.encode x y = .ok (Frame.withChecksum (Frame.unsealed g.opcode values)) := by
  have hfew : values.length ≤ Protocol.frameValuesSize := by
    rw [length_of_encodeValues h]
    cases g <;> decide
  exact encode_eq_ok_iff.mpr ⟨values, h, Frame.encode_eq_ok_iff.mpr ⟨hfew, rfl⟩⟩

/-- What is shared is shared within one generation, by pairs that are sent as the same values. -/
theorem shareFrame_iff : ShareFrame g x y g' x' y' ↔
    g = g' ∧ ∃ values, g.encodeValues x y = .ok values ∧ g'.encodeValues x' y' = .ok values := by
  constructor
  · rintro ⟨frame, hframe, hframe'⟩
    obtain ⟨values, hvalues, hencode⟩ := encode_eq_ok_iff.mp hframe
    obtain ⟨values', hvalues', hencode'⟩ := encode_eq_ok_iff.mp hframe'
    obtain ⟨hopcode, hpadded⟩ := Frame.command_eq_of_encode hencode hencode'
    obtain rfl := eq_of_opcodeBytes_eq hopcode
    have hlength : values.length = values'.length := by
      rw [length_of_encodeValues hvalues, length_of_encodeValues hvalues']
    obtain rfl := List.append_inj_left hpadded hlength
    exact ⟨rfl, values, hvalues, hvalues'⟩
  · rintro ⟨rfl, values, hvalues, hvalues'⟩
    exact ⟨_, encode_of_values hvalues, encode_of_values hvalues'⟩

/-! ### The two generations -/

/-- The byte of the legacy generation tells the number of steps modulo 64. -/
theorem legacyByte_eq_iff (r r' : Int) :
    legacyByte r = legacyByte r' ↔ r / 100 % 64 = r' / 100 % 64 := by
  rw [← UInt8.toNat_inj]
  simp only [legacyByte, resolutionStep, UInt8.toNat_ofNat']
  omega

theorem fits16_iff (r : Int) : fits16 r = true ↔ 0 ≤ r ∧ r ≤ 65535 := by
  simp only [fits16, Bool.and_eq_true, decide_eq_true_eq]
  omega

theorem shareFrame_legacy_iff : ShareFrame legacy x y legacy x' y' ↔
    x.resolution / 100 % 64 = x'.resolution / 100 % 64 ∧
      y.resolution / 100 % 64 = y'.resolution / 100 % 64 := by
  rw [shareFrame_iff, ← legacyByte_eq_iff, ← legacyByte_eq_iff]
  simp only [encodeValues, true_and, Except.ok.injEq, exists_eq_left', List.cons.injEq, and_true,
    eq_comm (a := legacyByte x'.resolution), eq_comm (a := legacyByte y'.resolution)]

/-- Both resolutions of a pair are numbers of 16 bits. -/
def FitWords (x y : ResolutionMapping) : Prop :=
  (0 ≤ x.resolution ∧ x.resolution ≤ 65535) ∧ 0 ≤ y.resolution ∧ y.resolution ≤ 65535

/-- The extended generation sends the resolutions themselves. -/
theorem encodeValues_extended_eq_ok_iff {values : Bytes} :
    extended.encodeValues x y = .ok values ↔
      FitWords x y ∧ values = 0 :: bigEndian16 x.resolution ++ bigEndian16 y.resolution := by
  rw [FitWords, ← fits16_iff, ← fits16_iff, ← Bool.and_eq_true, encodeValues]
  split
  next h => simp only [h, true_and, Except.ok.injEq, eq_comm (a := values)]
  next h => simp only [h, false_and, reduceCtorEq]

theorem encode_extended_eq_error_iff :
    (∃ fault, extended.encode x y = .error fault ∧ fault.kind = .packing) ↔ ¬FitWords x y := by
  constructor
  · rintro ⟨fault, hfault, -⟩ hfits
    have hsent := encode_of_values (encodeValues_extended_eq_ok_iff.mpr ⟨hfits, rfl⟩)
    rw [hsent] at hfault
    cases hfault
  · intro hwide
    rw [FitWords, ← fits16_iff, ← fits16_iff, ← Bool.and_eq_true] at hwide
    have hrefused : extended.encodeValues x y = .error .wideResolution := if_neg hwide
    refine ⟨.wideResolution, ?_, rfl⟩
    rw [encode, hrefused]
    rfl

theorem eq_of_bigEndian16_eq {r r' : Int} (hr : 0 ≤ r ∧ r ≤ 65535) (hr' : 0 ≤ r' ∧ r' ≤ 65535)
    (h : bigEndian16 r = bigEndian16 r') : r = r' := by
  rw [bigEndian16_eq_iff] at h
  omega

theorem shareFrame_extended_iff : ShareFrame extended x y extended x' y' ↔
    FitWords x y ∧ x.resolution = x'.resolution ∧ y.resolution = y'.resolution := by
  rw [shareFrame_iff]
  simp only [encodeValues_extended_eq_ok_iff, true_and]
  constructor
  · rintro ⟨values, ⟨hfits, rfl⟩, hfits', hsame⟩
    obtain ⟨hx, hy⟩ := List.append_inj (List.cons.inj hsame).2 rfl
    exact ⟨hfits, eq_of_bigEndian16_eq hfits.1 hfits'.1 hx,
      eq_of_bigEndian16_eq hfits.2 hfits'.2 hy⟩
  · rintro ⟨hfits, hx, hy⟩
    have hfits' : FitWords x' y' := by rwa [FitWords, ← hx, ← hy]
    exact ⟨_, ⟨hfits, rfl⟩, hfits', by rw [hx, hy]⟩

/-! ### Tables -/

/-- The resolution tells the entries of a table apart. -/
theorem eq_of_resolution_eq (hm : m ∈ g.table) (hm' : m' ∈ g.table)
    (h : m.resolution = m'.resolution) : m = m' := by
  obtain ⟨i, -, rfl⟩ := mem_table_iff.mp hm
  obtain ⟨i', -, rfl⟩ := mem_table_iff.mp hm'
  simp only [ResolutionMapping.resolution_ofIndex] at h
  obtain rfl : i = i' := by omega
  rfl

/-- A legacy table has fewer than 64 entries. -/
theorem eq_of_steps_eq (hm : m ∈ legacy.table) (hm' : m' ∈ legacy.table)
    (h : m.resolution / 100 % 64 = m'.resolution / 100 % 64) : m = m' := by
  obtain ⟨i, hi, rfl⟩ := mem_table_iff.mp hm
  obtain ⟨i', hi', rfl⟩ := mem_table_iff.mp hm'
  have hsize : i < 56 ∧ i' < 56 := ⟨hi, hi'⟩
  simp only [ResolutionMapping.resolution_ofIndex] at h
  obtain rfl : i = i' := by omega
  rfl

theorem eq_of_shareFrame (hx : x ∈ g.table) (hy : y ∈ g.table) (hx' : x' ∈ g.table)
    (hy' : y' ∈ g.table) (h : ShareFrame g x y g x' y') : x = x' ∧ y = y' := by
  cases g with
  | legacy =>
    obtain ⟨hsteps, hsteps'⟩ := shareFrame_legacy_iff.mp h
    exact ⟨eq_of_steps_eq hx hx' hsteps, eq_of_steps_eq hy hy' hsteps'⟩
  | extended =>
    obtain ⟨-, hresolution, hresolution'⟩ := shareFrame_extended_iff.mp h
    exact ⟨eq_of_resolution_eq hx hx' hresolution, eq_of_resolution_eq hy hy' hresolution'⟩

/-- A legacy sensor has a frame for every pair of integers, shared by the pairs whose numbers of
whole steps are the same modulo 64. An extended one has a frame of its own for every pair of numbers
of 16 bits, and any other is refused when its resolutions are packed. No frame is for both. So two
pairs of entries of a table share a frame only if they are the same. -/
theorem frames_shared (x y x' y' : ResolutionMapping) :
    (∃ frame, legacy.encode x y = .ok frame) ∧
      (ShareFrame legacy x y legacy x' y' ↔
        x.resolution / 100 % 64 = x'.resolution / 100 % 64 ∧
          y.resolution / 100 % 64 = y'.resolution / 100 % 64) ∧
      ((∃ fault, extended.encode x y = .error fault ∧ fault.kind = .packing) ↔ ¬FitWords x y) ∧
      (ShareFrame extended x y extended x' y' ↔
        FitWords x y ∧ x.resolution = x'.resolution ∧ y.resolution = y'.resolution) ∧
      ¬ShareFrame legacy x y extended x' y' ∧
      ∀ g : Generation, x ∈ g.table → y ∈ g.table → x' ∈ g.table → y' ∈ g.table →
        (ShareFrame g x y g x' y' ↔ x = x' ∧ y = y') := by
  refine ⟨?_, shareFrame_legacy_iff, encode_extended_eq_error_iff, shareFrame_extended_iff, ?_, ?_⟩
  · obtain ⟨frame, hframe, -⟩ : ShareFrame legacy x y legacy x y :=
      shareFrame_legacy_iff.mpr ⟨rfl, rfl⟩
    exact ⟨frame, hframe⟩
  · intro h
    cases (shareFrame_iff.mp h).1
  · intro g hx hy hx' hy'
    refine ⟨eq_of_shareFrame hx hy hx' hy', ?_⟩
    rintro ⟨rfl, rfl⟩
    obtain ⟨frame, hframe⟩ := exists_encode hx hy
    exact ⟨frame, hframe, hframe⟩

end Generation

end MouseControl
