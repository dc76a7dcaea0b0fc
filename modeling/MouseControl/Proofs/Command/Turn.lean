import MouseControl.Proofs.Command.Exchange
import MouseControl.Proofs.Device.Configuration

/-!
The grammar of a line. A turn is what one exchange leaves on the wire: the write of a canonical
frame and, once every byte of it was taken, the reads of the response (`Turn`). An exchange of a
built frame is one turn (`takesTurns_exchange`), so a push and a probe are nothing but turns
(`takesTurns_push`, `takesTurns_probe`).
-/

set_option autoImplicit false
set_option relaxedAutoImplicit false

namespace MouseControl

open MouseControl.Action

variable {σ τ : Type}

/-- A read of a response that another may follow: it failed in a way of this library's own, or did
not bring 90 bytes. -/
def Inconclusive : Except Fault Bytes → Prop
  | .error fault => fault.isA .library = true
  | .ok data => data.length ≠ 90

/-- The transfers of one exchange, made with a timeout. The frame is written once. Unless it was
taken whole nothing is read; otherwise so many reads as there are attempts at the most follow, and
all but the last are inconclusive. -/
inductive Turn (timeout : Int) (attempts : Nat) : List (Event τ) → Prop
  | untaken {frame : Bytes} {result : Except Fault Int} (hframe : Frame.Canonical frame)
      (hresult : result ≠ .ok 90) :
      Turn timeout attempts [.wrote ⟨0x09, 0x0300, 0, frame, timeout⟩ result]
  | taken {frame : Bytes} {failed : List (Except Fault Bytes)} {last : Except Fault Bytes}
      (hframe : Frame.Canonical frame) (hfailed : ∀ result ∈ failed, Inconclusive result)
      (hcount : failed.length + 1 ≤ attempts) :
      Turn timeout attempts (.wrote ⟨0x09, 0x0300, 0, frame, timeout⟩ (.ok 90) ::
        (failed ++ [last]).map (.read ⟨0x01, 0x0300, 0, 90, timeout⟩))

/-- All the transfers of a line are turns, one after another. -/
def TurnByTurn (timeout : Int) (attempts : Nat) (events : List (Event τ)) : Prop :=
  ∃ turns : List (List (Event τ)), events = turns.flatten ∧
    ∀ turn ∈ turns, Turn timeout attempts turn

theorem TurnByTurn.append {timeout : Int} {attempts : Nat} {first second : List (Event τ)}
    (hfirst : TurnByTurn timeout attempts first) (hsecond : TurnByTurn timeout attempts second) :
    TurnByTurn timeout attempts (first ++ second) := by
  obtain ⟨turns, rfl, hturns⟩ := hfirst
  obtain ⟨others, rfl, hothers⟩ := hsecond
  refine ⟨turns ++ others, List.flatten_append.symm, ?_⟩
  exact List.forall_mem_append.mpr ⟨hturns, hothers⟩

/-- What passes over a line is turns. -/
def Bus.TakesTurns (timeout : Int) (attempts : Nat) (bus bus' : Bus σ τ) : Prop :=
  ∃ new, transfers bus'.trace = transfers bus.trace ++ new ∧ TurnByTurn timeout attempts new

instance (timeout : Int) (attempts : Nat) :
    IsPreorder (Bus σ τ) (Bus.TakesTurns timeout attempts) where
  refl bus := ⟨[], (List.append_nil _).symm, [], rfl, List.forall_mem_nil _⟩
  trans _ _ _ := by
    rintro ⟨first, hfirst, hturns⟩ ⟨second, hsecond, hturns'⟩
    exact ⟨first ++ second, by rw [hsecond, hfirst, List.append_assoc], hturns.append hturns'⟩

theorem Bus.Silent.takesTurns {timeout : Int} {attempts : Nat} {bus bus' : Bus σ τ}
    (h : bus.Silent bus') : bus.TakesTurns timeout attempts bus' :=
  ⟨[], by rw [h.transfers_eq, List.append_nil], [], rfl, List.forall_mem_nil _⟩

theorem Bus.bookkeeping_takesTurns [TimeScale τ] (timeout : Int) (attempts : Nat) :
    Bookkeeping (TakesTurns timeout attempts : Bus σ τ → Bus σ τ → Prop) where
  note n := (silent_bookkeeping.note n).mono fun _ _ ↦ Silent.takesTurns
  pause why span := (silent_bookkeeping.pause why span).mono fun _ _ ↦ Silent.takesTurns
  leave := silent_bookkeeping.leave.mono fun _ _ ↦ Silent.takesTurns
  remember a bus := (silent_bookkeeping.remember a bus).takesTurns
  record a := (silent_bookkeeping.record a).mono fun _ _ ↦ Silent.takesTurns

/-- A policy that covers the library's own faults tries again after what is inconclusive. -/
theorem RetryPolicy.Repeats.inconclusive {policy : RetryPolicy} {result : Except Fault Bytes}
    (hown : policy.retryOn = ownFaults) (h : policy.Repeats Protocol.frameSize result) :
    Inconclusive result := by
  rcases result with fault | data
  · simpa [Repeats, covers, hown, ownFaults, Inconclusive] using h
  · exact fun hlength ↦ h (by rw [hlength]; rfl)

/-- If there are attempts at all, the transfers that they make end in a last one, and all before it
were inconclusive. -/
theorem RetryPolicy.Attempted.exists_last {policy : RetryPolicy} {attempts : Nat}
    {reads : List (Except Fault Bytes)} (h : policy.Attempted Protocol.frameSize attempts reads)
    (hown : policy.retryOn = ownFaults) (hpos : 1 ≤ attempts) :
    ∃ failed last, reads = failed ++ [last] ∧ (∀ result ∈ failed, Inconclusive result) ∧
      failed.length + 1 ≤ attempts := by
  have hne : reads ≠ [] := h.ne_nil (Nat.one_le_iff_ne_zero.mp hpos)
  have hsplit : reads = reads.dropLast ++ [reads.getLast hne] :=
    (List.dropLast_append_getLast hne).symm
  refine ⟨reads.dropLast, reads.getLast hne, hsplit, fun result hresult ↦ ?_, ?_⟩
  · exact (h.repeats result hresult).inconclusive hown
  · have hlength := congrArg List.length hsplit
    rw [List.length_append, List.length_singleton] at hlength
    exact hlength ▸ h.length_le

namespace Channel

variable [TimeScale τ] {c : Channel σ τ} {attempts : Nat}

/-- The exchange of a frame that was built is one turn. -/
theorem takesTurns_exchange (hown : c.readPolicy.retryOn = RetryPolicy.ownFaults)
    (hattempts : c.readPolicy.attempts.toInt? = some (attempts : Int)) (hpos : 1 ≤ attempts)
    {opcode : Opcode} {values frame : Bytes} (hframe : Frame.encode opcode values = .ok frame) :
    Keeps (Bus.TakesTurns c.timeout attempts) (c.exchange frame) := by
  intro bus
  have hcanonical := Frame.canonical_of_encode hframe
  have hlength : (frame.length : Int) = 90 := by exact_mod_cast hcanonical.length_eq
  obtain ⟨result, reads, htransfers, -, hnone, hattempted, -⟩ :=
    c.transfers_exchange (Frame.sealed_of_encode hframe) bus
  rw [hlength] at hnone hattempted
  refine ⟨_, htransfers, [_], List.flatten_singleton.symm, List.forall_mem_singleton.mpr ?_⟩
  by_cases htaken : result = .ok 90
  · obtain ⟨failed, last, rfl, hfailed, hcount⟩ :=
      (hattempted htaken _ hattempts).exists_last hown hpos
    rw [htaken]
    exact .taken hcanonical hfailed hcount
  · rw [hnone htaken]
    exact .untaken hcanonical htaken

theorem takesTurns_push (hown : c.readPolicy.retryOn = RetryPolicy.ownFaults)
    (hattempts : c.readPolicy.attempts.toInt? = some (attempts : Int)) (hpos : 1 ≤ attempts)
    (config : Configuration) : Keeps (Bus.TakesTurns c.timeout attempts) (c.push config) := by
  refine keeps_push fun frame hmem ↦ ?_
  obtain ⟨opcode, values, hframe⟩ := exists_encode_of_mem_framesOf hmem
  exact takesTurns_exchange hown hattempts hpos hframe

theorem takesTurns_probe (hown : c.readPolicy.retryOn = RetryPolicy.ownFaults)
    (hattempts : c.readPolicy.attempts.toInt? = some (attempts : Int)) (hpos : 1 ≤ attempts)
    (policy : RetryPolicy) : Keeps (Bus.TakesTurns c.timeout attempts) (c.probe policy) :=
  keeps_probe (Bus.bookkeeping_takesTurns _ _).handling.toWaiting policy fun _ hquery ↦
    takesTurns_exchange hown hattempts hpos hquery

end Channel

end MouseControl
