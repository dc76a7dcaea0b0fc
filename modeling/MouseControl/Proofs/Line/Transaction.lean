import MouseControl.Line.Channel

/-!
Transactions: what a channel can be asked for, as a whole. A write is over with one transfer, a read
may take several.
-/

set_option autoImplicit false
set_option relaxedAutoImplicit false

namespace MouseControl

/-- A write or a read of a channel. -/
inductive Transaction where
  | write (request value : Int) (data : Bytes)
  | read (request value length : Int)
  deriving DecidableEq, Repr

/-- Carries out a transaction. A write gives no bytes. -/
def Channel.carryOut {σ τ : Type} [TimeScale τ] (c : Channel σ τ) :
    Transaction → Action (Bus σ τ) Bytes
  | .write request value data => do
    c.write request value data
    return []
  | .read request value length => c.read request value length

/-- The outcome of each transaction and the line after it, whether the ones before failed or not. -/
def Channel.trail {σ τ : Type} [TimeScale τ] (c : Channel σ τ) (bus : Bus σ τ) :
    List Transaction → List (Except Fault Bytes × Bus σ τ)
  | [] => []
  | t :: rest =>
    let r := (c.carryOut t).run bus
    r :: c.trail r.2 rest

end MouseControl
