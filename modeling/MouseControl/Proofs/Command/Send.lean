import Mathlib.Data.List.Basic
import MouseControl.Line.Replay
import MouseControl.Proofs.Command.Exchange
import MouseControl.Proofs.Wire.Codec

/-!
Sending any bytes at all. Only bytes of the full length of a frame get as far as the line
(`run_exchange_of_length_ne`); they go out with their checksum byte made right and all else as it
was (`stamped_withChecksum`). From there on writing may fail, and reading may, but no response is
refused for what is in it: unless the observer of anomalies fails, it is taken apart and given
(`account_exchange`).
-/

set_option autoImplicit false
set_option relaxedAutoImplicit false

namespace MouseControl

open MouseControl.Action

/-! ### Sealing any bytes -/

namespace Frame

/-- A buffer with byte 88 replaced by the exclusive or of bytes 2 to 87. -/
structure Stamped (buffer frame : Bytes) : Prop where
  length_eq : frame.length = buffer.length
  checksum_eq : frame[88]? = some (((buffer.drop 2).take 86).foldl (· ^^^ ·) 0)
  kept : ∀ i, i ≠ 88 → frame[i]? = buffer[i]?

variable {buffer : Bytes}

theorem stamped_withChecksum (h : checksumOffset < buffer.length) :
    Stamped buffer (withChecksum buffer) where
  length_eq := length_withChecksum buffer
  checksum_eq := by
    rw [withChecksum, List.take_drop]
    exact List.getElem?_set_self h
  kept _ hi := List.getElem?_set_ne (Ne.symm hi)

theorem reseal_eq_ok (h : checksumOffset < buffer.length) :
    reseal buffer = .ok (withChecksum buffer) := if_pos h

theorem reseal_eq_error (h : buffer.length ≤ checksumOffset) :
    reseal buffer = .error .noChecksumByte := if_neg (Nat.not_lt.mpr h)

theorem sealed_withChecksum (h : buffer.length = Protocol.frameSize) :
    Sealed (withChecksum buffer) where
  length_eq := (length_withChecksum buffer).trans h
  checksum_eq := withChecksum_withChecksum buffer

end Frame

namespace Channel

variable {σ τ : Type} [TimeScale τ] (c : Channel σ τ)

/-! ### Bytes of a wrong length -/

/-- Too few bytes for a checksum are refused before anything is done. -/
theorem run_exchange_of_short {buffer : Bytes} (h : buffer.length ≤ Frame.checksumOffset)
    (bus : Bus σ τ) : (c.exchange buffer).run bus = (.error .noChecksumByte, bus) := by
  have hseal : (ofExcept (Frame.reseal buffer)).run bus = (.error .noChecksumByte, bus) := by
    rw [run_ofExcept, Frame.reseal_eq_error h]
  rw [exchange, run_bind_error hseal]

/-- Bytes with room for a checksum, but of another length than a frame, are refused once they are
sealed. -/
theorem run_exchange_of_length_ne {buffer : Bytes} (hlong : Frame.checksumOffset < buffer.length)
    (h : buffer.length ≠ Protocol.frameSize) (bus : Bus σ τ) :
    (c.exchange buffer).run bus = (.error (.frameSize buffer.length), bus) := by
  have hseal : (ofExcept (Frame.reseal buffer)).run bus =
      (.ok (Frame.withChecksum buffer), bus) := by
    rw [run_ofExcept, Frame.reseal_eq_ok hlong]
  have hlength := Frame.length_withChecksum buffer
  have hdecode : (ofExcept (Frame.decode (Frame.withChecksum buffer))).run bus =
      (.error (.frameSize buffer.length), bus) := by
    rw [run_ofExcept, Frame.decode_eq_error (hlength.symm ▸ h), hlength]
  rw [exchange, run_bind_ok hseal, run_bind_error hdecode]

/-- Bytes of the right length are sent as their sealed frame is. -/
theorem run_exchange_of_length {buffer : Bytes} (h : buffer.length = Protocol.frameSize)
    (bus : Bus σ τ) :
    (c.exchange buffer).run bus = (c.exchange (Frame.withChecksum buffer)).run bus := by
  have hlong : Frame.checksumOffset < buffer.length := by
    rw [h]
    decide
  rw [exchange, exchange, Frame.reseal_eq_ok hlong, (Frame.sealed_withChecksum h).reseal_eq]

/-! ### Frames -/

/-- How it ends to send a sealed frame: nothing passes over the line but its one write and, after
every byte of it was taken, reads of a response. The faults of the write and of the read are passed
on. What was read is a whole frame, and it is given as it comes apart, unless its status is to be
reported and the observer of anomalies fails. -/
structure SendAccount (frame : Bytes) (bus : Bus σ τ)
    (r : Except Fault CommandFrame × Bus σ τ) : Prop where
  transfers_eq : ∃ result reads, transfers r.2.trace = transfers bus.trace ++
      .wrote (c.frameWrite frame) result :: reads.map (.read c.responseRead) ∧
    (result ≠ .ok (frame.length : Int) → reads = [])
  unwritten : ∀ fault after,
    (c.write Protocol.writeRequest Protocol.commandValue frame).run bus = (.error fault, after) →
      r = (.error fault, after)
  unread : ∀ mid fault after,
    (c.write Protocol.writeRequest Protocol.commandValue frame).run bus = (.ok (), mid) →
    (c.read Protocol.readRequest Protocol.commandValue Protocol.frameSize).run mid =
      (.error fault, after) →
      r = (.error fault, after)
  answered : ∀ mid data after,
    (c.write Protocol.writeRequest Protocol.commandValue frame).run bus = (.ok (), mid) →
    (c.read Protocol.readRequest Protocol.commandValue Protocol.frameSize).run mid =
      (.ok data, after) →
      data.length = 90 ∧ ∃ sent answer, Frame.decode frame = .ok sent ∧
        Frame.decode data = .ok answer ∧
          r.1 = if answer.statusOk then .ok answer else
            (bus.anomalyObserver.verdict
              (.anomaly ⟨sent.command, sent.request, answer.status⟩)).map fun _ ↦ answer

theorem sendAccount {frame : Bytes} (hframe : Frame.Sealed frame) (bus : Bus σ τ) :
    c.SendAccount frame bus ((c.exchange frame).run bus) := by
  obtain ⟨result, reads, htransfers, -, hshort, -⟩ := c.transfers_exchange hframe bus
  obtain ⟨sent, hsent, hr⟩ := c.run_exchange hframe bus
  refine ⟨⟨result, reads, htransfers, hshort⟩, fun fault after hwrite ↦ ?_,
    fun mid fault after hwrite hread ↦ ?_, fun mid data after hwrite hread ↦ ?_⟩
  · rw [hr, run_bind_error hwrite]
  · rw [hr, run_bind_ok hwrite, run_bind_error hread]
  · obtain ⟨-, -, hwritten, -⟩ :=
      c.transfers_write Protocol.writeRequest Protocol.commandValue frame bus
    obtain ⟨results, -, hkept, -, hreads⟩ :=
      c.transfers_read Protocol.readRequest Protocol.commandValue Protocol.frameSize mid
    rw [hwrite] at hwritten
    rw [hread] at hkept hreads
    obtain ⟨-, -, hlength, -⟩ := hreads.of_ok data rfl
    have hdata : data.length = Protocol.frameSize := by exact_mod_cast hlength
    obtain ⟨answer, hanswer⟩ := Frame.decode_of_length hdata
    refine ⟨hdata, sent, answer, hsent, hanswer, ?_⟩
    rw [hr, run_bind_ok hwrite, run_bind_ok hread, outcome_understand sent hanswer, outcome_assess,
      hkept.trans hwritten]
    cases answer.statusOk <;> rfl

/-! ### Any bytes -/

/-- Fewer than 89 bytes are refused as a bad index and other bytes than 90 as a bad value, and
nothing is done. Of 90 bytes byte 88 is replaced by the exclusive or of bytes 2 to 87, and what is
sent is that frame. -/
theorem account_exchange (buffer : Bytes) (bus : Bus σ τ) :
    let r := (c.exchange buffer).run bus
    (buffer.length < 89 → ∃ fault, r = (.error fault, bus) ∧ fault.kind = .index) ∧
      (89 ≤ buffer.length → buffer.length ≠ 90 →
        ∃ fault, r = (.error fault, bus) ∧ fault.kind = .value) ∧
      (buffer.length = 90 → ∃ frame, Frame.Stamped buffer frame ∧ c.SendAccount frame bus r) := by
  intro r
  refine ⟨fun hshort ↦ ?_, fun hlong hlength ↦ ?_, fun hlength ↦ ?_⟩
  · exact ⟨_, c.run_exchange_of_short (Nat.le_of_lt_succ hshort) bus, rfl⟩
  · exact ⟨_, c.run_exchange_of_length_ne hlong hlength bus, rfl⟩
  · have hlong : Frame.checksumOffset < buffer.length := by
      rw [hlength]
      decide
    have hr : r = _ := c.run_exchange_of_length hlength bus
    rw [hr]
    exact ⟨_, Frame.stamped_withChecksum hlong,
      c.sendAccount (Frame.sealed_withChecksum hlength) bus⟩

/-- Of a response that was read whole nothing is given if its status is not an accepted one and the
observer of anomalies fails. -/
theorem answer_lost_to_observer :
    let c : Channel Replay Rat :=
      ⟨Replay.transport, ⟨.int 1, .int 0, RetryPolicy.ownFaults⟩, 3000⟩
    let data : Bytes := 5 :: List.replicate 89 0
    let bus : Bus Replay Rat :=
      { device := { reads := [.ok data] }, clock := 0, spacing := ⟨0, none⟩,
        anomalyObserver := .failing (.reported .lookup "observer") }
    let frame : Bytes := List.replicate 90 0
    let written := (c.write Protocol.writeRequest Protocol.commandValue frame).run bus
    let read := (c.read Protocol.readRequest Protocol.commandValue Protocol.frameSize).run written.2
    written.1.toOption = some () ∧ read.1.toOption = some data ∧
      (Frame.decode data).toOption.isSome = true ∧
      ((c.exchange frame).run bus).1.mapError Fault.kind = .error .lookup := by
  decide +kernel

end Channel

end MouseControl
