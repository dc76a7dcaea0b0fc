import MouseControl.Proofs.Line.Ledger
import MouseControl.Session.Basic

/-!
What a claim and a release do, as equations. A claim opens the transport if it is the first one and
the transport is closed, and counts only after that has succeeded (`run_claim`). A release counts
before it closes a transport that the session owns (`run_release`). Neither concerns the
configuration or says anything on the line that is not about holding the transport (`Reclaims`).
-/

set_option autoImplicit false
set_option relaxedAutoImplicit false

namespace MouseControl.Session

open MouseControl.Action

variable {σ τ α : Type}

/-- A session with one claim more. -/
def taken (s : Session σ τ) : Session σ τ :=
  { s with
    claims := s.claims + 1
    bus := ((Bus.mark .claimed).run s.bus).2 }

/-- A session with one claim less. -/
def dropped (s : Session σ τ) : Session σ τ :=
  { s with
    claims := s.claims - 1
    bus := ((Bus.mark .released).run s.bus).2 }

theorem run_requireClaim (s : Session σ τ) :
    requireClaim.run s = (if s.claims = 0 then .error .notClaimed else .ok (), s) := by
  rw [requireClaim, run_bind_ok (run_get s)]
  split <;> rfl

variable [TimeScale τ] (mouse : Mouse σ τ)

/-- The call that opens the transport. -/
def opening : Action (Bus σ τ) Unit := Bus.call .opened mouse.channel.transport.openDevice

/-- The call that closes the transport. -/
def closing : Action (Bus σ τ) Unit := Bus.call .closed mouse.channel.transport.closeDevice

theorem run_claim (s : Session σ τ) :
    (claim mouse).run s =
      if s.claims = 0 ∧ mouse.channel.transport.isOpen s.bus.device = false then
        match (opening mouse).run s.bus with
        | (.ok (), bus) => (.ok (), taken { s with bus := bus, ownsTransport := true })
        | (.error fault, bus) => (.error fault, { s with bus := bus })
      else (.ok (), taken s) := by
  rw [claim, run_bind_ok (run_get s)]
  simp only [Bool.not_eq_true']
  split
  · rw [run_bind, onBus, run_onPart, opening]
    rcases (Bus.call .opened mouse.channel.transport.openDevice).run s.bus with ⟨_ | _, _⟩ <;> rfl
  · rfl

variable {mouse} in
theorem claims_of_claim {s t : Session σ τ} (h : (claim mouse).run s = (.ok (), t)) :
    0 < t.claims := by
  rw [run_claim] at h
  split at h
  · rcases hopening : (opening mouse).run s.bus with ⟨fault | _, bus⟩ <;> rw [hopening] at h
    · cases h
    · cases h
      exact Nat.succ_pos _
  · cases h
    exact Nat.succ_pos _

theorem run_release (s : Session σ τ) :
    (release mouse).run s =
      if s.claims = 0 then (.error .releasedUnclaimed, s)
      else if s.claims = 1 ∧ s.ownsTransport = true then
        match (closing mouse).run s.dropped.bus with
        | (.ok (), bus) => (.ok (), { s.dropped with bus := bus, ownsTransport := false })
        | (.error fault, bus) => (.error fault, { s.dropped with bus := bus })
      else (.ok (), s.dropped) := by
  rw [release, run_bind_ok (run_get s)]
  dsimp only
  by_cases hclaims : s.claims = 0
  · rw [if_pos hclaims, if_pos hclaims]
    rfl
  · rw [if_neg hclaims, if_neg hclaims, run_bind_ok (run_set s _)]
    have hmark : (onBus (Bus.mark .released) : Action (Session σ τ) Unit).run
        { s with claims := s.claims - 1 } = (.ok (), s.dropped) := rfl
    rw [run_bind_ok hmark]
    split
    · rw [run_bind, onBus, run_onPart, closing]
      rcases (Bus.call .closed mouse.channel.transport.closeDevice).run s.dropped.bus with
        ⟨_ | _, _⟩ <;> rfl
    · rfl

/-- The configuration is left alone, and what is added to the trace is about claims and about
opening and closing the transport. -/
structure Reclaims (s s' : Session σ τ) : Prop where
  config_eq : s'.config = s.config
  observer_eq : s'.bus.anomalyObserver = s.bus.anomalyObserver
  grows : ∃ new, s'.bus.trace = s.bus.trace ++ new ∧
    ∀ entry ∈ new, entry.event.isPassive = false

instance : IsPreorder (Session σ τ) Reclaims where
  refl s := ⟨rfl, rfl, [], (List.append_nil _).symm, List.forall_mem_nil _⟩
  trans _ _ _ h h' := by
    obtain ⟨first, hfirst, hactive⟩ := h.grows
    obtain ⟨second, hsecond, hactive'⟩ := h'.grows
    refine ⟨h'.config_eq.trans h.config_eq, h'.observer_eq.trans h.observer_eq, first ++ second,
      by rw [hsecond, hfirst, List.append_assoc], ?_⟩
    exact List.forall_mem_append.mpr ⟨hactive, hactive'⟩

namespace Reclaims

omit [TimeScale τ] in
/-- One such event is added to the trace. -/
theorem of_concat {s s' : Session σ τ} {entry : Entry τ} (hconfig : s'.config = s.config)
    (hobserver : s'.bus.anomalyObserver = s.bus.anomalyObserver)
    (htrace : s'.bus.trace = s.bus.trace ++ [entry]) (hactive : entry.event.isPassive = false) :
    Reclaims s s' :=
  ⟨hconfig, hobserver, _, htrace, List.forall_mem_singleton.mpr hactive⟩

omit [TimeScale τ] in
theorem silent {s s' : Session σ τ} (h : Reclaims s s') : s.bus.Silent s'.bus where
  transfers_eq := by
    obtain ⟨new, htrace, hactive⟩ := h.grows
    have hnone : transfers new = [] := by
      refine List.filter_eq_nil_iff.mpr fun event hevent ↦ ?_
      obtain ⟨entry, hentry, rfl⟩ := List.mem_map.mp hevent
      have hentry := hactive entry hentry
      cases hkind : entry.event with
      | wrote | read =>
        rw [hkind] at hentry
        cases hentry
      | _ => exact Bool.false_ne_true
    rw [htrace, transfers_append, hnone, List.append_nil]
  observer_eq := h.observer_eq

theorem opened : Keeps Reclaims (onBus (opening mouse)) := fun _ ↦ of_concat rfl rfl rfl rfl

theorem closed : Keeps Reclaims (onBus (closing mouse)) := fun _ ↦ of_concat rfl rfl rfl rfl

theorem claim : Keeps Reclaims (Session.claim mouse) := by
  intro s
  rw [run_claim]
  split
  · have hopened : Reclaims s { s with bus := ((opening mouse).run s.bus).2 } := opened mouse s
    rcases h : (opening mouse).run s.bus with ⟨fault | _, bus⟩ <;> rw [h] at hopened
    · exact hopened
    · have htaken : Reclaims { s with bus := bus }
          (taken { s with bus := bus, ownsTransport := true }) := of_concat rfl rfl rfl rfl
      exact trans_of Reclaims hopened htaken
  · exact of_concat rfl rfl rfl rfl

theorem release : Keeps Reclaims (Session.release mouse) := by
  intro s
  rw [run_release]
  split
  · exact refl_of Reclaims s
  · have hdropped : Reclaims s s.dropped := of_concat rfl rfl rfl rfl
    split
    · have hclosed : Reclaims s { s.dropped with bus := ((closing mouse).run s.dropped.bus).2 } :=
        trans_of Reclaims hdropped (closed mouse s.dropped)
      rcases h : (closing mouse).run s.dropped.bus with ⟨fault | _, bus⟩ <;> rw [h] at hclosed
      · exact hclosed
      · exact ⟨hclosed.config_eq, hclosed.observer_eq, hclosed.grows⟩
    · exact hdropped

theorem elapse (span : τ) : Keeps Reclaims (modify fun s : Session σ τ ↦
    { s with bus := { s.bus with clock := s.bus.clock + span } } : Action (Session σ τ) PUnit) :=
  fun _ ↦ ⟨rfl, rfl, [], (List.append_nil _).symm, List.forall_mem_nil _⟩

omit [TimeScale τ] in
theorem observe (observer : Observer) (s : Session σ τ) :
    Reclaims s { s with observer := observer } :=
  ⟨rfl, rfl, [], (List.append_nil _).symm, List.forall_mem_nil _⟩

end Reclaims

end MouseControl.Session
