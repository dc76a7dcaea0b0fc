import MouseControl.Line.Channel
import MouseControl.Wire.Frame

/-!
One exchange: a frame goes out and the response comes in. Nothing in a full-length response makes
an exchange fail. A checksum that does not hold is noted; a status that is not accepted is noted
and reported as an anomaly of the command that was sent, which the firmware is taken to have
carried out all the same.
-/

set_option autoImplicit false
set_option relaxedAutoImplicit false

namespace MouseControl

variable {σ τ : Type} [TimeScale τ]

/-- Reports an anomaly and remembers it. -/
def Bus.reportAnomaly (a : Anomaly) : Action (Bus σ τ) Unit := do
  Bus.note (.anomaly a)
  modify fun bus ↦ { bus with lastAnomaly := some a }
  Bus.report (← get).anomalyObserver (.anomaly a)

namespace Channel

/-- What is said about a response to a frame. -/
def assess (sent answer : CommandFrame) : Action (Bus σ τ) Unit := do
  Bus.note (.answered sent.command sent.request answer.status)
  if !answer.checksumValid then
    Bus.note (.badChecksum sent.command sent.request answer.checksum answer.computed)
  if !answer.statusOk then
    Bus.reportAnomaly ⟨sent.command, sent.request, answer.status⟩

/-- Sends a frame, its checksum brought up to date, and gives the response. -/
def exchange (c : Channel σ τ) (frame : Bytes) : Action (Bus σ τ) CommandFrame := do
  let frame ← Action.ofExcept (Frame.reseal frame)
  let sent ← Action.ofExcept (Frame.decode frame)
  c.write Protocol.writeRequest Protocol.commandValue frame
  let answer ← Action.ofExcept (Frame.decode
    (← c.read Protocol.readRequest Protocol.commandValue Protocol.frameSize))
  assess sent answer
  return answer

end Channel

end MouseControl
