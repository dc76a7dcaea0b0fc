import MouseControl.Line.Retry

/-!
Exact transfers. A write is made once and must take every byte; a read is tried again, by the
channel's policy, until it gives exactly the bytes asked for. Transfers keep their gap.
-/

set_option autoImplicit false
set_option relaxedAutoImplicit false

namespace MouseControl

/-- What transfers are made with. -/
structure Channel (σ τ : Type) where
  transport : Transport σ τ
  readPolicy : RetryPolicy
  timeout : Int

namespace Channel

/-- The policy of reads when none is given: three attempts, back to back. -/
def defaultReadPolicy : RetryPolicy :=
  ⟨.int Protocol.readAttempts, .float Protocol.readDelay, RetryPolicy.ownFaults⟩

variable {σ τ : Type} [TimeScale τ]

/-- One raw write in its slot. -/
def rawWrite (c : Channel σ τ) (call : WriteCall) : Action (Bus σ τ) Int :=
  Bus.spaced (Bus.call (.wrote call) (c.transport.write call))

/-- One raw read in its slot. -/
def rawRead (c : Channel σ τ) (call : ReadCall) : Action (Bus σ τ) Bytes :=
  Bus.spaced (Bus.call (.read call) (c.transport.read call))

/-- The raw write that a write makes. -/
def writeCall (c : Channel σ τ) (request value : Int) (data : Bytes) : WriteCall :=
  ⟨request, value, Protocol.commandIndex, data, c.timeout⟩

/-- The raw read that a read makes. -/
def readCall (c : Channel σ τ) (request value length : Int) : ReadCall :=
  ⟨request, value, Protocol.commandIndex, length, c.timeout⟩

/-- Sends some data, all of it. -/
def write (c : Channel σ τ) (request value : Int) (data : Bytes) : Action (Bus σ τ) Unit := do
  let transferred ← c.rawWrite (c.writeCall request value data)
  if transferred ≠ data.length then
    Bus.note (.shortWrite request value transferred data.length)
    throw (Fault.shortWrite request value transferred data.length).worded

/-- One attempt to read so many bytes. -/
def readOnce (c : Channel σ τ) (request value length : Int) : Action (Bus σ τ) Bytes := do
  let data ← c.rawRead (c.readCall request value length)
  if (data.length : Int) ≠ length then
    throw (Fault.shortRead request value data.length length).worded
  return data

/-- Reads exactly so many bytes. -/
def read (c : Channel σ τ) (request value length : Int) : Action (Bus σ τ) Bytes :=
  tryCatch
    (c.readPolicy.run ("USB read " ++ Fault.requestText request value)
      (c.readOnce request value length) none)
    fun fault ↦ do
      if fault.isA .transfer then
        Bus.note (.readFailed fault)
      throw fault

end Channel

end MouseControl
