/-!
The kinds of faults and their order. A policy that covers a kind covers the kinds below it: every
fault of this library is below `library`, an invalid argument is also a bad value, and a USB
library's fault is a fault of the operating system.
-/

set_option autoImplicit false
set_option relaxedAutoImplicit false

namespace MouseControl

/-- The kinds of faults. -/
inductive FaultKind where
  /-- Any fault of this library. -/
  | library
  /-- A transfer failed or moved the wrong number of bytes. -/
  | transfer
  /-- The firmware never answered the version probe. -/
  | notResponding
  /-- A change or a commit without a claim. -/
  | busy
  | invalidArgument
  /-- Every attempt ran and none gave an acceptable result. -/
  | exhausted
  /-- A response with an unexpected status. -/
  | anomaly
  | any
  | runtime
  | notImplemented
  | value
  | textDecoding
  | system
  | usb
  | lookup
  | index
  | missingModule
  | type
  /-- A value without the parts it is asked for. -/
  | shape
  | overflow
  | packing
  deriving DecidableEq, Repr

namespace FaultKind

/-- A kind followed by every kind above it. -/
def ancestors : FaultKind → List FaultKind
  | any => [any]
  | runtime => [runtime, any]
  | notImplemented => [notImplemented, runtime, any]
  | library => [library, runtime, any]
  | transfer => [transfer, library, runtime, any]
  | notResponding => [notResponding, library, runtime, any]
  | busy => [busy, library, runtime, any]
  | exhausted => [exhausted, library, runtime, any]
  | anomaly => [anomaly, library, runtime, any]
  | invalidArgument => [invalidArgument, library, runtime, value, any]
  | value => [value, any]
  | textDecoding => [textDecoding, value, any]
  | system => [system, any]
  | usb => [usb, system, any]
  | lookup => [lookup, any]
  | index => [index, lookup, any]
  | missingModule => [missingModule, any]
  | type => [type, any]
  | shape => [shape, any]
  | overflow => [overflow, any]
  | packing => [packing, any]

/-- Whether a kind is another one or below it. -/
def isA (kind above : FaultKind) : Bool := kind.ancestors.contains above

/-- What is above a kind above a kind is above it. -/
theorem ancestors_trans (low : FaultKind) :
    ∀ middle ∈ low.ancestors, ∀ high ∈ middle.ancestors, high ∈ low.ancestors := by
  cases low <;> decide

theorem isA_trans {low middle high : FaultKind} (h : low.isA middle = true)
    (h' : middle.isA high = true) : low.isA high = true := by
  simp only [isA, List.contains_iff_mem] at *
  exact ancestors_trans low middle h high h'

end FaultKind

end MouseControl
