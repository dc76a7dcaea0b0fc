import MouseControl.Wire.Frame

/-!
Sealed frames. A frame that `Frame.encode` builds has its full length and carries its own checksum,
so sealing it once more changes nothing (`sealed_of_encode`), and all that it does not need is zero
(`canonical_of_encode`). What command a frame gives is read from bytes 4 to 7, and the first two
values name the LED that an LED command is for (`isOf_encode`, `selects_encode`).
-/

set_option autoImplicit false
set_option relaxedAutoImplicit false

namespace MouseControl.Frame

/-- A full-length frame whose checksum is up to date. -/
structure Sealed (frame : Bytes) : Prop where
  length_eq : frame.length = Protocol.frameSize
  checksum_eq : withChecksum frame = frame

/-- A frame of 90 bytes that is zero but for the ids and the values in bytes 4 to 12 and the
checksum in byte 88, the exclusive or of bytes 2 to 87. -/
structure Canonical (frame : Bytes) : Prop where
  length_eq : frame.length = 90
  zero : ∀ i, i < 4 ∨ (13 ≤ i ∧ i ≤ 87) ∨ i = 89 → frame[i]? = some 0
  checksum_eq : frame[88]? = some (((frame.drop 2).take 86).foldl (· ^^^ ·) 0)

/-- The four bytes that name a command. -/
def opcodeBytes (opcode : Opcode) : Bytes :=
  bigEndian16 opcode.command ++ bigEndian16 opcode.request

/-- Whether a frame gives a command. -/
def isOf (opcode : Opcode) (frame : Bytes) : Bool := (frame.drop 4).take 4 == opcodeBytes opcode

/-- Whether a frame starts its values with a selector. -/
def selects (selector frame : Bytes) : Bool := (frame.drop 8).take 2 == selector

theorem Sealed.reseal_eq {frame : Bytes} (h : Sealed frame) : reseal frame = .ok frame := by
  have hlong : checksumOffset < frame.length := by
    rw [h.length_eq]
    decide
  rw [reseal, if_pos hlong, h.checksum_eq]

theorem decode_of_length {frame : Bytes} (h : frame.length = Protocol.frameSize) :
    ∃ parts, decode frame = .ok parts := by
  rw [decode, if_pos h]
  exact ⟨_, rfl⟩

theorem values_of_decode {data : Bytes} {parts : CommandFrame} (h : decode data = .ok parts) :
    parts.values = (data.drop 8).take Protocol.frameValuesSize := by
  unfold decode at h
  split at h
  · cases h
    rfl
  · cases h

/-- The checksum byte is not among the bytes that it covers. -/
theorem withChecksum_withChecksum (buffer : Bytes) :
    withChecksum (withChecksum buffer) = withChecksum buffer := by
  have hspan : protectedSpan (withChecksum buffer) = protectedSpan buffer := by
    rw [protectedSpan, withChecksum, List.take_set_of_le (Nat.le_refl _), protectedSpan]
  have hsum : checksum (withChecksum buffer) = checksum buffer := by
    rw [checksum, hspan, checksum]
  rw [withChecksum, hsum, withChecksum, List.set_set]

section Encode

variable {opcode : Opcode} {values frame : Bytes}

theorem encode_eq_ok_iff :
    encode opcode values = .ok frame ↔
      values.length ≤ Protocol.frameValuesSize ∧ frame = withChecksum (unsealed opcode values) := by
  unfold encode
  split
  · simp only [reduceCtorEq, false_iff, not_and]
    omega
  · simp only [Except.ok.injEq]
    exact ⟨fun h ↦ ⟨by omega, h.symm⟩, fun h ↦ h.2.symm⟩

theorem sealed_of_encode (h : encode opcode values = .ok frame) : Sealed frame where
  length_eq := length_of_encode h
  checksum_eq := by
    obtain ⟨-, rfl⟩ := encode_eq_ok_iff.mp h
    exact withChecksum_withChecksum _

/-- Before its padding a frame holds zeros, the two ids and the values. -/
theorem take_of_encode (h : encode opcode values = .ok frame) :
    frame.take (8 + values.length) = List.replicate 4 0 ++ opcodeBytes opcode ++ values := by
  obtain ⟨hlength, rfl⟩ := encode_eq_ok_iff.mp h
  have hbound : 8 + values.length ≤ checksumOffset := by
    simp only [Protocol.frameValuesSize, checksumOffset] at *
    omega
  have hhead : 8 + values.length =
      (List.replicate 4 0 ++ opcodeBytes opcode ++ values).length := by
    simp [opcodeBytes, bigEndian16]
    omega
  have hsplit : unsealed opcode values = (List.replicate 4 0 ++ opcodeBytes opcode ++ values) ++
      List.replicate (Protocol.frameSize - 8 - values.length) 0 := by
    simp only [unsealed, opcodeBytes, List.append_assoc]
  rw [withChecksum, List.take_set_of_le hbound, hsplit, hhead, List.take_append_length]

theorem isOf_encode (h : encode opcode values = .ok frame) (other : Opcode) :
    isOf other frame = (opcodeBytes opcode == opcodeBytes other) := by
  have htake : (frame.drop 4).take 4 = opcodeBytes opcode := by
    have hhead := congrArg (List.take 8) (take_of_encode h)
    rw [List.take_take, Nat.min_eq_left (by omega)] at hhead
    rw [List.take_drop, hhead]
    simp [opcodeBytes, bigEndian16]
  rw [isOf, htake]

theorem selects_encode (h : encode opcode values = .ok frame) (hvalues : 2 ≤ values.length)
    (selector : Bytes) : selects selector frame = (values.take 2 == selector) := by
  have htake : (frame.drop 8).take 2 = values.take 2 := by
    have hhead := congrArg (List.take 10) (take_of_encode h)
    rw [List.take_take, Nat.min_eq_left (by omega)] at hhead
    rw [List.take_drop, hhead]
    simp [opcodeBytes, bigEndian16]
  rw [selects, htake]

/-- In front of the ids and behind the last value that there may be, a frame is zero. -/
theorem getElem?_unsealed_eq_zero (h : values.length ≤ Protocol.frameValuesSize) {i : Nat}
    (hi : i < 4 ∨ 13 ≤ i ∧ i < Protocol.frameSize) :
    (unsealed opcode values)[i]? = some 0 := by
  simp only [Protocol.frameValuesSize, Protocol.frameSize] at h hi
  rcases hi with hlow | ⟨hlow, hhigh⟩
  · simp only [unsealed, List.append_assoc]
    rw [List.getElem?_append_left (by simpa using hlow), List.getElem?_replicate_of_lt hlow]
  · have hhead : (List.replicate 4 (0 : UInt8) ++ bigEndian16 opcode.command ++
        bigEndian16 opcode.request ++ values).length = 8 + values.length := by
      simp [bigEndian16]
      omega
    rw [unsealed, List.getElem?_append_right (by omega), hhead, List.getElem?_replicate_of_lt]
    simp only [Protocol.frameSize]
    omega

theorem canonical_of_encode (h : encode opcode values = .ok frame) : Canonical frame where
  length_eq := length_of_encode h
  zero := by
    intro i hi
    obtain ⟨hlength, rfl⟩ := encode_eq_ok_iff.mp h
    rw [withChecksum, List.getElem?_set_ne (by simp only [checksumOffset]; omega)]
    refine getElem?_unsealed_eq_zero hlength ?_
    simp only [Protocol.frameSize]
    omega
  checksum_eq := by
    obtain ⟨hlength, rfl⟩ := encode_eq_ok_iff.mp h
    have hspan : ((withChecksum (unsealed opcode values)).drop 2).take 86 =
        protectedSpan (unsealed opcode values) := by
      rw [List.take_drop, withChecksum, List.take_set_of_le (by decide)]
      rfl
    rw [hspan, withChecksum, checksumOffset, List.getElem?_set_self]
    · rfl
    · rw [length_unsealed opcode hlength]
      decide

end Encode

end MouseControl.Frame
