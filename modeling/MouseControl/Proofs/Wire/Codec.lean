import MouseControl.Proofs.Wire.Frame

/-!
Building a frame and taking it apart. What is taken out of a built frame is the command with its ids
cut to 16 bits and its values filled up with zeros (`carries_of_encode`). The other way round,
building from what was taken out of a buffer keeps bytes 4 to 12 and makes all others canonical
(`canonized_of_decode`); a canonical frame is determined by these nine bytes
(`Canonical.eq_of_fields`), so exactly the canonical buffers come back as they were.
-/

set_option autoImplicit false
set_option relaxedAutoImplicit false

namespace MouseControl

/-! ### Ids -/

theorem join16_bigEndian16 {n : Int} {high low : UInt8} (h : bigEndian16 n = [high, low]) :
    join16 high low = n % 0x10000 := by
  obtain ⟨rfl, rfl⟩ : _ = high ∧ _ = low := by simpa [bigEndian16] using h
  simp only [join16, UInt8.toNat_ofNat']
  omega

theorem bigEndian16_join16 (high low : UInt8) : bigEndian16 (join16 high low) = [high, low] := by
  have hhigh := high.toNat_lt
  have hlow := low.toNat_lt
  have hcut : (join16 high low % 0x10000).toNat = high.toNat * 0x100 + low.toNat := by
    rw [join16]
    omega
  have hquotient : (high.toNat * 0x100 + low.toNat) / 0x100 = high.toNat := by omega
  have hrest : (high.toNat * 0x100 + low.toNat) % 0x100 = low.toNat := by omega
  rw [bigEndian16, hcut, hquotient, hrest, UInt8.ofNat_toNat, UInt8.ofNat_toNat]

namespace Frame

/-- Values with a zero for each that is missing. -/
def padded (values : Bytes) : Bytes :=
  values ++ List.replicate (Protocol.frameValuesSize - values.length) 0

variable {opcode : Opcode} {values frame buffer : Bytes} {parts : CommandFrame}

theorem length_padded (h : values.length ≤ Protocol.frameValuesSize) :
    (padded values).length = Protocol.frameValuesSize := by
  rw [padded, List.length_append, List.length_replicate]
  omega

/-- A missing value is sent as zero. -/
theorem encode_padded (h : values.length ≤ Protocol.frameValuesSize) :
    encode opcode (padded values) = encode opcode values := by
  have hzeros : Protocol.frameValuesSize - values.length +
      (Protocol.frameSize - 8 - Protocol.frameValuesSize) =
        Protocol.frameSize - 8 - values.length := by
    simp only [Protocol.frameValuesSize, Protocol.frameSize] at *
    omega
  have hunsealed : unsealed opcode (padded values) = unsealed opcode values := by
    rw [unsealed, length_padded h, padded, unsealed]
    simp only [List.append_assoc, List.replicate_append_replicate, hzeros]
  rw [encode, encode, length_padded h, hunsealed, if_neg (Nat.lt_irrefl _), if_neg (by omega)]

/-- Up to byte 12 a frame holds zeros, the two ids and the values. -/
theorem fields_of_encode (h : encode opcode values = .ok frame) :
    frame.take 13 = List.replicate 4 0 ++ opcodeBytes opcode ++ padded values := by
  have hlength := (encode_eq_ok_iff.mp h).1
  rw [← encode_padded hlength] at h
  have htake := take_of_encode h
  rwa [length_padded hlength] at htake

/-- A canonical frame with these four bytes for its ids and these five values. -/
structure Conveys (ids values frame : Bytes) : Prop where
  canonical : Canonical frame
  fields_eq : (frame.drop 4).take 9 = ids ++ values

theorem conveys_of_encode (h : encode opcode values = .ok frame) :
    Conveys (opcodeBytes opcode) (padded values) frame where
  canonical := canonical_of_encode h
  fields_eq := by
    rw [List.take_drop, fields_of_encode h]
    rfl

/-- A command of too many values is refused as a bad value. -/
theorem encode_eq_error (h : Protocol.frameValuesSize < values.length) :
    encode opcode values = .error (.tooManyValues values.length) :=
  if_pos h

theorem decode_eq_error (h : buffer.length ≠ Protocol.frameSize) :
    decode buffer = .error (.frameSize buffer.length) :=
  if_neg h

theorem length_of_decode (h : decode buffer = .ok parts) : buffer.length = Protocol.frameSize :=
  Decidable.byContradiction fun hlength ↦ nomatch (decode_eq_error hlength).symm.trans h

theorem exists_encode_of_decode (h : decode buffer = .ok parts) :
    ∃ frame, encode ⟨parts.command, parts.request⟩ parts.values = .ok frame := by
  refine ⟨_, encode_eq_ok_iff.mpr ⟨?_, rfl⟩⟩
  rw [values_of_decode h]
  exact List.length_take_le _ _

/-! ### What a built frame carries -/

/-- A frame taken apart is that of a command: accepted, with the ids cut to 16 bits, the values
filled up with zeros, and a checksum that holds. -/
structure Carries (opcode : Opcode) (values : Bytes) (parts : CommandFrame) : Prop where
  status_eq : parts.status = 0
  command_eq : parts.command = opcode.command % 0x10000
  request_eq : parts.request = opcode.request % 0x10000
  values_eq : parts.values = padded values
  valid : parts.checksumValid = true

/-- The checksum that a frame of full length has in byte 88 is the one it calls for. -/
theorem checksumValid_iff (h : decode buffer = .ok parts) :
    parts.checksumValid = true ↔
      buffer[88]? = some (((buffer.drop 2).take 86).foldl (· ^^^ ·) 0) := by
  unfold decode at h
  split at h
  · next hlength =>
    cases h
    have hbound : 88 < buffer.length := by
      rw [hlength]
      decide
    have hspan : (buffer.drop 2).take 86 = protectedSpan buffer := by
      rw [protectedSpan, List.drop_take]
      rfl
    rw [hspan, CommandFrame.checksumValid, beq_iff_eq, Int.natCast_inj, UInt8.toNat_inj,
      checksumOffset, List.getD_eq_getElem?_getD, List.getElem?_eq_getElem hbound]
    exact (Option.some_inj).symm
  · cases h

theorem carries_of_encode (h : encode opcode values = .ok frame) :
    ∃ parts, decode frame = .ok parts ∧ Carries opcode values parts := by
  obtain ⟨parts, hparts⟩ := decode_of_length (length_of_encode h)
  refine ⟨parts, hparts, ?_⟩
  have hvalid := (checksumValid_iff hparts).mpr (canonical_of_encode h).checksum_eq
  have hpadded := length_padded (encode_eq_ok_iff.mp h).1
  have hfields := fields_of_encode h
  have hbyte (i : Nat) (hi : i < 13) :
      frame.getD i 0 = (List.replicate 4 0 ++ opcodeBytes opcode ++ padded values).getD i 0 := by
    rw [← hfields]
    simp only [List.getD_eq_getElem?_getD, List.getElem?_take_of_lt hi]
  have hvalues : (frame.drop 8).take Protocol.frameValuesSize = padded values := by
    rw [List.take_drop]
    show (frame.take 13).drop 8 = _
    rw [hfields]
    rfl
  rw [decode, if_pos (length_of_encode h)] at hparts
  cases hparts
  refine ⟨?_, ?_, ?_, hvalues, hvalid⟩
  · rw [hbyte 0 (by decide)]
    rfl
  · rw [hbyte 4 (by decide), hbyte 5 (by decide)]
    exact join16_bigEndian16 rfl
  · rw [hbyte 6 (by decide), hbyte 7 (by decide)]
    exact join16_bigEndian16 rfl

/-! ### What is built from a buffer -/

/-- A canonical frame with the ids and the values of a buffer. -/
structure Canonized (buffer frame : Bytes) : Prop where
  canonical : Canonical frame
  fields_eq : ∀ i, 4 ≤ i → i ≤ 12 → frame[i]? = buffer[i]?

/-- The ids and the values determine a canonical frame. -/
theorem Canonical.eq_of_fields {frame frame' : Bytes} (h : Canonical frame)
    (h' : Canonical frame') (hfields : ∀ i, 4 ≤ i → i ≤ 12 → frame[i]? = frame'[i]?) :
    frame = frame' := by
  have hlow (i : Nat) (hi : i < 88) : frame[i]? = frame'[i]? := by
    by_cases hfield : 4 ≤ i ∧ i ≤ 12
    · exact hfields i hfield.1 hfield.2
    · rw [h.zero i (by omega), h'.zero i (by omega)]
  have hspan : (frame.drop 2).take 86 = (frame'.drop 2).take 86 := by
    have htake : frame.take 88 = frame'.take 88 := by
      refine List.ext_getElem? fun i ↦ ?_
      by_cases hi : i < 88
      · rw [List.getElem?_take_of_lt hi, List.getElem?_take_of_lt hi, hlow i hi]
      · rw [List.getElem?_take_eq_none (by omega), List.getElem?_take_eq_none (by omega)]
    simpa only [List.take_drop] using congrArg (List.drop 2) htake
  refine List.ext_getElem? fun i ↦ ?_
  by_cases hi : i < 88
  · exact hlow i hi
  by_cases hchecksum : i = 88
  · subst hchecksum
    rw [h.checksum_eq, h'.checksum_eq, hspan]
  by_cases hlast : i = 89
  · rw [h.zero i (by omega), h'.zero i (by omega)]
  · have hlength := h.length_eq
    have hlength' := h'.length_eq
    rw [List.getElem?_eq_none (by omega), List.getElem?_eq_none (by omega)]

/-- The ids that were taken out of a buffer are put back into its bytes 4 to 7. -/
theorem opcodeBytes_of_decode (h : decode buffer = .ok parts) :
    opcodeBytes ⟨parts.command, parts.request⟩ = (buffer.drop 4).take 4 := by
  unfold decode at h
  split at h
  · next hlength =>
    cases h
    have hbyte (i : Nat) (hi : i < 90) :
        buffer.drop i = buffer.getD i 0 :: buffer.drop (i + 1) := by
      have hbound : i < buffer.length := hlength.symm ▸ hi
      rw [List.drop_eq_getElem_cons hbound, List.getD_eq_getElem?_getD,
        List.getElem?_eq_getElem hbound, Option.getD_some]
    rw [opcodeBytes, bigEndian16_join16, bigEndian16_join16, hbyte 4 (by decide),
      hbyte 5 (by decide), hbyte 6 (by decide), hbyte 7 (by decide)]
    rfl
  · cases h

theorem canonized_of_decode (hbuffer : decode buffer = .ok parts)
    (hframe : encode ⟨parts.command, parts.request⟩ parts.values = .ok frame) :
    Canonized buffer frame := by
  refine ⟨canonical_of_encode hframe, fun i hlow hhigh ↦ ?_⟩
  have hlength : buffer.length = 90 := length_of_decode hbuffer
  have hpadded : padded parts.values = (buffer.drop 8).take 5 := by
    have hfull : ((buffer.drop 8).take 5).length = 5 := by
      rw [List.length_take, List.length_drop, hlength]
      rfl
    rw [values_of_decode hbuffer, padded, Protocol.frameValuesSize, hfull]
    exact List.append_nil _
  have hfields : frame.take 13 = List.replicate 4 0 ++ (buffer.drop 4).take 9 := by
    rw [fields_of_encode hframe, opcodeBytes_of_decode hbuffer, hpadded, List.append_assoc,
      show 9 = 4 + 5 from rfl, List.take_add, List.drop_drop]
  calc frame[i]? = (frame.take 13)[i]? := (List.getElem?_take_of_lt (by omega)).symm
    _ = ((buffer.drop 4).take 9)[i - 4]? := by
      rw [hfields, List.getElem?_append_right hlow]
      rfl
    _ = buffer[4 + (i - 4)]? := by
      rw [List.getElem?_take_of_lt (by omega), List.getElem?_drop]
    _ = buffer[i]? := by rw [Nat.add_sub_cancel' hlow]

/-- A buffer is canonical if it has its full length, its padding is zero and its checksum holds. -/
theorem canonical_iff (h : decode buffer = .ok parts) :
    Canonical buffer ↔ (∀ i, i < 4 ∨ (13 ≤ i ∧ i ≤ 87) ∨ i = 89 → buffer[i]? = some 0) ∧
      parts.checksumValid = true := by
  rw [checksumValid_iff h]
  constructor
  · intro hcanonical
    exact ⟨hcanonical.zero, hcanonical.checksum_eq⟩
  · rintro ⟨hzero, hchecksum⟩
    exact ⟨length_of_decode h, hzero, hchecksum⟩

theorem Canonized.eq_iff (h : Canonized buffer frame) : frame = buffer ↔ Canonical buffer := by
  constructor
  · rintro rfl
    exact h.canonical
  · intro hbuffer
    exact h.canonical.eq_of_fields hbuffer h.fields_eq

/-- Up to five values can be built into a frame, which carries the command when it is taken apart;
more are refused as a bad value. Every buffer of 90 bytes can be taken apart, and what is built from
its ids and values is the canonical frame with the same bytes 4 to 12, that is the buffer itself
exactly if its padding is zero and its checksum holds; a buffer of another length is refused as a
bad value. -/
theorem roundTrip (opcode : Opcode) (values buffer : Bytes) :
    ((∃ frame parts, encode opcode values = .ok frame ∧ decode frame = .ok parts ∧
        Carries opcode values parts) ↔ values.length ≤ 5) ∧
      ((∃ fault, encode opcode values = .error fault ∧ fault.kind = .value) ↔
        5 < values.length) ∧
      ((∃ parts frame, decode buffer = .ok parts ∧
        encode ⟨parts.command, parts.request⟩ parts.values = .ok frame ∧
        Canonized buffer frame ∧
        (frame = buffer ↔ (∀ i, i < 4 ∨ (13 ≤ i ∧ i ≤ 87) ∨ i = 89 → buffer[i]? = some 0) ∧
          parts.checksumValid = true)) ↔ buffer.length = 90) ∧
      ((∃ fault, decode buffer = .error fault ∧ fault.kind = .value) ↔ buffer.length ≠ 90) := by
  refine ⟨⟨?_, fun hfew ↦ ?_⟩, ⟨?_, fun hmany ↦ ?_⟩, ⟨?_, fun hlength ↦ ?_⟩, ?_, fun hlength ↦ ?_⟩
  · rintro ⟨frame, parts, hframe, -, -⟩
    exact (encode_eq_ok_iff.mp hframe).1
  · have hframe : encode opcode values = .ok _ := encode_eq_ok_iff.mpr ⟨hfew, rfl⟩
    obtain ⟨parts, hparts, hcarries⟩ := carries_of_encode hframe
    exact ⟨_, parts, hframe, hparts, hcarries⟩
  · rintro ⟨fault, hfault, -⟩
    refine Nat.lt_of_not_le fun hfew ↦ ?_
    rw [encode_eq_ok_iff.mpr ⟨hfew, rfl⟩] at hfault
    cases hfault
  · exact ⟨_, encode_eq_error hmany, rfl⟩
  · rintro ⟨parts, frame, hparts, -⟩
    exact length_of_decode hparts
  · obtain ⟨parts, hparts⟩ := decode_of_length hlength
    obtain ⟨frame, hframe⟩ := exists_encode_of_decode hparts
    have hcanonized := canonized_of_decode hparts hframe
    exact ⟨parts, frame, hparts, hframe, hcanonized,
      hcanonized.eq_iff.trans (canonical_iff hparts)⟩
  · rintro ⟨fault, hfault, -⟩ hlength
    obtain ⟨parts, hparts⟩ := decode_of_length hlength
    rw [hparts] at hfault
    cases hfault
  · exact ⟨_, decode_eq_error hlength, rfl⟩

end Frame

end MouseControl
