/-!
The fixed numbers of the vendor protocol and of its tuning: product ids, the shape of a control
transfer, the opcodes, the accepted status bytes, and the default timing.
-/

set_option autoImplicit false
set_option relaxedAutoImplicit false

namespace MouseControl

/-- A buffer of bytes. -/
abbrev Bytes := List UInt8

/-- What a command frame asks for: a command id and a request id below it. -/
structure Opcode where
  command : Int
  request : Int
  deriving DecidableEq, Repr

namespace Opcode

def firmwareVersion : Opcode := ⟨0x0002, 0x0081⟩

def frequency : Opcode := ⟨0x0001, 0x0005⟩

def led : Opcode := ⟨0x0003, 0x0300⟩

def legacyResolution : Opcode := ⟨0x0003, 0x0401⟩

def extendedResolution : Opcode := ⟨0x0007, 0x0405⟩

end Opcode

namespace Protocol

/-- The release of this library. -/
def version : List Nat := [0, 3, 0]

def vendorId : Int := 0x1532

def classicPid : Int := 0x0015

def epicPid : Int := 0x001F

def secondEditionPid : Int := 0x002E

def hexPid : Int := 0x0036

def thirdEditionPid : Int := 0x0040

def hexV2Pid : Int := 0x0050

/-- The interface that control transfers are addressed to. -/
def interfaceNumber : Int := 0

/-- The request type of an outgoing class request to an interface. -/
def outRequestType : Int := 0x21

/-- The request type of an incoming class request to an interface. -/
def inRequestType : Int := 0xA1

def writeRequest : Int := 0x09

def readRequest : Int := 0x01

/-- Feature report zero, as the value field of a transfer names it. -/
def commandValue : Int := 0x0300

def commandIndex : Int := 0

def defaultTimeout : Int := 3000

def frameSize : Nat := 90

def frameValuesSize : Nat := 5

/-- The status bytes by which the firmware accepts a command. -/
def acceptedStatus : List Int := [0, 1, 2]

/-- The least gap between two transfers, in milliseconds. -/
def packetSpacing : Int := 25

def probeAttempts : Int := 5

/-- The pause between two firmware probes, in seconds. -/
def probeDelay : Float := 0.25

def readAttempts : Int := 3

/-- The pause between two read attempts, in seconds. -/
def readDelay : Float := 0.0

/-- The most digits of an integer that is read from a text, leading zeros included, or written in
base ten. -/
def mostDigits : Nat := 4300

/-- The end of the range in which waits are counted, in nanoseconds: they are 64-bit integers. -/
def waitRange : Int := 0x8000000000000000

end Protocol

end MouseControl
