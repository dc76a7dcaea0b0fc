import MouseControl.Fault.Basic

/-!
The command frame. A request and its response are 90 bytes each: the status in byte 0, the command
and request ids in bytes 4 to 7, high byte first, up to five values in bytes 8 to 12, and in byte
88 the checksum, the exclusive or of bytes 2 to 87. All other bytes are padding. The codec judges
no frame; whether the checksum holds and the status is good is for the caller to ask.
-/

set_option autoImplicit false
set_option relaxedAutoImplicit false

namespace MouseControl

/-- The exclusive or of some bytes. -/
def xorSum (bytes : Bytes) : UInt8 := bytes.foldl (· ^^^ ·) 0

/-- The low 16 bits of an integer, high byte first. -/
def bigEndian16 (n : Int) : Bytes :=
  [UInt8.ofNat ((n % 0x10000).toNat / 0x100), UInt8.ofNat ((n % 0x10000).toNat % 0x100)]

/-- The integer that a high and a low byte make. -/
def join16 (high low : UInt8) : Int := high.toNat * 0x100 + low.toNat

namespace Frame

/-- Where the checksum stands. -/
def checksumOffset : Nat := 88

/-- The bytes of a buffer that the checksum covers. -/
def protectedSpan (buffer : Bytes) : Bytes := (buffer.take checksumOffset).drop 2

/-- The checksum that belongs to the content of a buffer. -/
def checksum (buffer : Bytes) : UInt8 := xorSum (protectedSpan buffer)

/-- A buffer with its checksum brought up to date. -/
def withChecksum (buffer : Bytes) : Bytes := buffer.set checksumOffset (checksum buffer)

/-- A buffer with its checksum brought up to date, if it is long enough to have one. -/
def reseal (buffer : Bytes) : Except Fault Bytes :=
  if checksumOffset < buffer.length then .ok (withChecksum buffer) else .error .noChecksumByte

/-- A frame before its checksum is known. -/
def unsealed (opcode : Opcode) (values : Bytes) : Bytes :=
  List.replicate 4 0 ++ bigEndian16 opcode.command ++ bigEndian16 opcode.request ++ values ++
    List.replicate (Protocol.frameSize - 8 - values.length) 0

/-- The sealed frame of a command. Ids are cut to 16 bits and missing values are zero. -/
def encode (opcode : Opcode) (values : Bytes) : Except Fault Bytes :=
  if Protocol.frameValuesSize < values.length then .error (.tooManyValues values.length)
  else .ok (withChecksum (unsealed opcode values))

@[simp] theorem length_withChecksum (buffer : Bytes) :
    (withChecksum buffer).length = buffer.length :=
  List.length_set

theorem length_unsealed (opcode : Opcode) {values : Bytes}
    (h : values.length ≤ Protocol.frameValuesSize) :
    (unsealed opcode values).length = Protocol.frameSize := by
  simp only [unsealed, bigEndian16, Protocol.frameSize, Protocol.frameValuesSize,
    List.length_append, List.length_replicate, List.length_cons, List.length_nil] at *
  omega

theorem length_of_encode {opcode : Opcode} {values frame : Bytes}
    (h : encode opcode values = .ok frame) : frame.length = Protocol.frameSize := by
  unfold encode at h
  split at h
  · cases h
  · cases h
    rw [length_withChecksum, length_unsealed opcode (by omega)]

end Frame

/-- A frame taken apart. -/
structure CommandFrame where
  status : Int
  command : Int
  request : Int
  values : Bytes
  checksum : Int
  /-- The checksum that the content calls for. -/
  computed : Int
  deriving DecidableEq, Repr

namespace CommandFrame

def checksumValid (frame : CommandFrame) : Bool := frame.checksum == frame.computed

/-- Whether the firmware accepted the command. -/
def statusOk (frame : CommandFrame) : Bool := Protocol.acceptedStatus.contains frame.status

/-- The two values from an offset on as one integer. A negative offset counts from the end. -/
def valueBe16 (frame : CommandFrame) (offset : Int) : Except Fault Int :=
  let start := if offset < 0 then offset + frame.values.length else offset
  if start < 0 then .error .valueOffset
  else match frame.values.drop start.toNat with
    | high :: low :: _ => .ok (join16 high low)
    | _ => .error .valueOffset

/-- A frame as messages show it. -/
def shown (frame : CommandFrame) : Text :=
  "CommandFrame(command=0x" ++ upperHex 4 frame.command ++ ", request=0x" ++
    upperHex 4 frame.request ++ ", status=0x" ++ upperHex 2 frame.status ++ ", values=" ++
    hexBytes " " frame.values ++ ")"

end CommandFrame

/-- Takes a frame apart. Only the length of a buffer can be wrong. -/
def Frame.decode (buffer : Bytes) : Except Fault CommandFrame :=
  if buffer.length = Protocol.frameSize then
    .ok
      { status := (buffer.getD 0 0).toNat
        command := join16 (buffer.getD 4 0) (buffer.getD 5 0)
        request := join16 (buffer.getD 6 0) (buffer.getD 7 0)
        values := (buffer.drop 8).take Protocol.frameValuesSize
        checksum := (buffer.getD checksumOffset 0).toNat
        computed := (checksum buffer).toNat }
  else .error (.frameSize buffer.length)

end MouseControl
