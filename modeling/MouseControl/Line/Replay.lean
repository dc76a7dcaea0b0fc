import MouseControl.Line.Time
import MouseControl.Line.Transport

/-!
A transport that replays a recording. Each call takes the next outcome of its kind; when none is
left it succeeds, a write taking every byte and a read giving zeros. The replay takes no time.
-/

set_option autoImplicit false
set_option relaxedAutoImplicit false

namespace MouseControl

/-- The outcomes that are still to come, and whether the device is open. -/
structure Replay where
  isOpen : Bool := false
  opens : List (Except Fault Unit) := []
  closes : List (Except Fault Unit) := []
  writes : List (Except Fault Int) := []
  reads : List (Except Fault Bytes) := []

namespace Replay

/-- The flag after an attempt to change it, which only a success does. -/
def flagAfter (outcome : Except Fault Unit) (before after : Bool) : Bool :=
  match outcome with
  | .ok () => after
  | .error _ => before

/-- A recording as a transport. -/
def transport {τ : Type} [TimeScale τ] : Transport Replay τ where
  isOpen := Replay.isOpen
  openDevice s :=
    let outcome := s.opens.head?.getD (.ok ())
    ⟨outcome, { s with opens := s.opens.tail, isOpen := flagAfter outcome s.isOpen true },
      Zero.zero⟩
  closeDevice s :=
    let outcome := s.closes.head?.getD (.ok ())
    ⟨outcome, { s with closes := s.closes.tail, isOpen := flagAfter outcome s.isOpen false },
      Zero.zero⟩
  write call s :=
    ⟨s.writes.head?.getD (.ok call.data.length), { s with writes := s.writes.tail }, Zero.zero⟩
  read call s :=
    ⟨s.reads.head?.getD (.ok (List.replicate call.length.toNat 0)),
      { s with reads := s.reads.tail }, Zero.zero⟩

end Replay

end MouseControl
