import MouseControl.Command.Exchange

/-!
The firmware probe: the device is asked for its firmware version until it names one. A version is
one once its major number is not zero.
-/

set_option autoImplicit false
set_option relaxedAutoImplicit false

namespace MouseControl

/-- The policy of the probe when none is given: five attempts, a quarter of a second apart. -/
def defaultProbePolicy : RetryPolicy :=
  ⟨.int Protocol.probeAttempts, .float Protocol.probeDelay, RetryPolicy.ownFaults⟩

namespace Channel

variable {σ τ : Type} [TimeScale τ]

/-- Asks for the firmware version once. -/
def askFirmware (c : Channel σ τ) : Action (Bus σ τ) Int := do
  let query ← Action.ofExcept (Frame.encode .firmwareVersion [])
  Action.ofExcept ((← c.exchange query).valueBe16 0)

/-- Whether a reported version is one. -/
def isFirmware (version : Int) : Bool := Firmware.major version != 0

/-- Asks for the firmware version until the device names one. -/
def probe (c : Channel σ τ) (policy : RetryPolicy) : Action (Bus σ τ) Int :=
  tryCatch
    (policy.run "Firmware version probe" c.askFirmware
      (some fun version ↦ pure (isFirmware version)))
    fun fault ↦ do
      if fault.isA .transfer || fault.isA .exhausted then
        Bus.note (.firmwareUnread fault)
        throw (Fault.notResponding policy.attempts).worded
      else
        throw fault

end Channel

end MouseControl
