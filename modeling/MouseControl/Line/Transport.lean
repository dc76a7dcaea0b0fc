import MouseControl.Fault.Basic

/-!
Raw transports. A transport is a record of steps over a state of its own, so that a real device, a
recording of one and an adversary are all values of one type. Each step tells its outcome, the
state it leaves and the time it took.
-/

set_option autoImplicit false
set_option relaxedAutoImplicit false

namespace MouseControl

/-- An outgoing class transfer. -/
structure WriteCall where
  request : Int
  value : Int
  index : Int
  data : Bytes
  timeout : Int
  deriving DecidableEq, Repr

/-- An incoming class transfer, which asks for a number of bytes. -/
structure ReadCall where
  request : Int
  value : Int
  index : Int
  length : Int
  timeout : Int
  deriving DecidableEq, Repr

/-- How a transport answers a call. -/
structure Reply (σ τ α : Type) where
  outcome : Except Fault α
  state : σ
  elapsed : τ

/-- A raw transport over states `σ`, timed on the scale `τ`. A write tells how many bytes were
taken and a read gives the bytes that came. -/
structure Transport (σ τ : Type) where
  isOpen : σ → Bool
  openDevice : σ → Reply σ τ Unit
  closeDevice : σ → Reply σ τ Unit
  write : WriteCall → σ → Reply σ τ Int
  read : ReadCall → σ → Reply σ τ Bytes

end MouseControl
