import MouseControl.Proofs.Line.Traffic

/-!
What some events of a trace tell. `extract pick` is the part of a trace that `pick` picks, in order,
each event seen as what it is picked for. One entry more adds at most one thing (`extract_concat`).
What a channel does on its line adds nothing if `pick` passes over transfers, pauses and anomalies
(`Channel.movesAlong_omits`). `Bus.Adds kind` says that a trace goes on with events of some kind, as
a channel's does if transfers, pauses and anomalies are of that kind (`Channel.movesAlong_adds`).
-/

set_option autoImplicit false
set_option relaxedAutoImplicit false

namespace MouseControl

open MouseControl.Action

variable {σ τ β : Type}

/-- What is picked from the events of a trace. -/
def extract (pick : Event τ → Option β) (trace : List (Entry τ)) : List β :=
  trace.filterMap fun entry ↦ pick entry.event

/-- Nothing that a channel does on its line is picked. -/
structure PassesOver (pick : Event τ → Option β) : Prop where
  paused : ∀ why span, pick (.paused why span) = none
  wrote : ∀ call outcome, pick (.wrote call outcome) = none
  read : ∀ call outcome, pick (.read call outcome) = none
  anomalyReported : ∀ anomaly, pick (.anomalyReported anomaly) = none

/-- Nothing is added to what is picked. -/
def Bus.Omits (pick : Event τ → Option β) (bus bus' : Bus σ τ) : Prop :=
  extract pick bus'.trace = extract pick bus.trace

instance (pick : Event τ → Option β) : IsPreorder (Bus σ τ) (Bus.Omits pick) where
  refl _ := rfl
  trans _ _ _ h h' := Eq.trans h' h

section Traces

variable (pick : Event τ → Option β)

theorem extract_append (first second : List (Entry τ)) :
    extract pick (first ++ second) = extract pick first ++ extract pick second :=
  List.filterMap_append

theorem extract_concat (trace : List (Entry τ)) (entry : Entry τ) :
    extract pick (trace ++ [entry]) = extract pick trace ++ (pick entry.event).toList := by
  rw [extract_append]
  cases h : pick entry.event <;> simp [extract, h]

variable {pick}

theorem extract_eq_nil {trace : List (Entry τ)} (h : ∀ entry ∈ trace, pick entry.event = none) :
    extract pick trace = [] :=
  List.filterMap_eq_nil_iff.mpr h

/-- Entries that are not picked change nothing. -/
theorem Bus.omits_of_append {bus bus' : Bus σ τ} {new : List (Entry τ)}
    (htrace : bus'.trace = bus.trace ++ new) (h : ∀ entry ∈ new, pick entry.event = none) :
    bus.Omits pick bus' := by
  rw [Omits, htrace, extract_append, extract_eq_nil h, List.append_nil]

theorem Bus.omits_of_concat {bus bus' : Bus σ τ} {entry : Entry τ}
    (htrace : bus'.trace = bus.trace ++ [entry]) (h : pick entry.event = none) :
    bus.Omits pick bus' :=
  omits_of_append htrace (List.forall_mem_singleton.mpr h)

/-- What an observer hears of some reports. -/
def Observer.hears (observer : Observer) (reports : List β) : List β :=
  match observer with
  | .absent => []
  | .present _ => reports

@[simp] theorem Observer.hears_nil (observer : Observer) :
    observer.hears ([] : List β) = [] := by
  cases observer <;> rfl

theorem Bus.trace_report (observer : Observer) (r : Report) (bus : Bus σ τ) :
    ((report observer r).run bus).2.trace =
      bus.trace ++ observer.hears [⟨bus.clock, bus.clock, r.event⟩] := by
  cases observer with
  | absent => exact (List.append_nil _).symm
  | present verdict => rfl

theorem Bus.extract_record (event : Event τ) (bus : Bus σ τ) :
    extract pick ((record event).run bus).2.trace =
      extract pick bus.trace ++ (pick event).toList :=
  extract_concat pick bus.trace _

theorem Bus.omits_report (observer : Observer) {r : Report} (h : pick r.event = none) :
    Keeps (Omits pick : Bus σ τ → Bus σ τ → Prop) (report observer r) := by
  rcases observer with _ | verdict
  · exact keeps_pure _
  · exact keeps_bind (fun _ ↦ omits_of_concat rfl h) fun _ ↦ keeps_ofExcept _

/-- Unless nobody is there, a report is made, whether the observer fails or not. -/
theorem Bus.extract_report {observer : Observer} (hobserver : observer ≠ .absent) (r : Report)
    (bus : Bus σ τ) : extract pick ((report observer r).run bus).2.trace =
      extract pick bus.trace ++ (pick r.event).toList := by
  cases observer with
  | absent => exact absurd rfl hobserver
  | present verdict => exact extract_record r.event bus

theorem Channel.movesAlong_omits [TimeScale τ] (c : Channel σ τ) (h : PassesOver pick) :
    c.MovesAlong (fun _ ↦ True) (Bus.Omits pick : Bus σ τ → Bus σ τ → Prop) where
  note _ _ := rfl
  pause why span _ := Bus.omits_of_concat rfl (h.paused why span)
  leave _ := rfl
  remember _ _ := rfl
  record anomaly _ := Bus.omits_of_concat rfl (h.anomalyReported anomaly)
  write call _ _ := Bus.omits_of_concat rfl (h.wrote call _)
  read call _ := Bus.omits_of_concat rfl (h.read call _)

end Traces

section Growth

/-- The trace goes on with events of one kind. -/
def Bus.Adds (kind : Event τ → Prop) (bus bus' : Bus σ τ) : Prop :=
  ∃ new, bus'.trace = bus.trace ++ new ∧ ∀ entry ∈ new, kind entry.event

instance (kind : Event τ → Prop) : IsPreorder (Bus σ τ) (Bus.Adds kind) where
  refl bus := ⟨[], (List.append_nil _).symm, List.forall_mem_nil _⟩
  trans _ _ _ := by
    rintro ⟨first, hfirst, hkind⟩ ⟨second, hsecond, hkind'⟩
    refine ⟨first ++ second, by rw [hsecond, hfirst, List.append_assoc], ?_⟩
    exact List.forall_mem_append.mpr ⟨hkind, hkind'⟩

variable {kind : Event τ → Prop}

theorem Bus.adds_nothing {bus bus' : Bus σ τ} (htrace : bus'.trace = bus.trace) :
    bus.Adds kind bus' :=
  ⟨[], by rw [htrace, List.append_nil], List.forall_mem_nil _⟩

theorem Bus.adds_concat {bus bus' : Bus σ τ} {entry : Entry τ}
    (htrace : bus'.trace = bus.trace ++ [entry]) (h : kind entry.event) : bus.Adds kind bus' :=
  ⟨[entry], htrace, List.forall_mem_singleton.mpr h⟩

/-- Transfers, pauses and reports of anomalies are of one kind. -/
structure CoversTraffic (kind : Event τ → Prop) : Prop where
  paused : ∀ why span, kind (.paused why span)
  wrote : ∀ call outcome, kind (.wrote call outcome)
  read : ∀ call outcome, kind (.read call outcome)
  anomalyReported : ∀ anomaly, kind (.anomalyReported anomaly)

theorem Channel.movesAlong_adds [TimeScale τ] (c : Channel σ τ) (h : CoversTraffic kind) :
    c.MovesAlong (fun _ ↦ True) (Bus.Adds kind : Bus σ τ → Bus σ τ → Prop) where
  note _ _ := Bus.adds_nothing rfl
  pause why span _ := Bus.adds_concat rfl (h.paused why span)
  leave _ := Bus.adds_nothing rfl
  remember _ _ := Bus.adds_nothing rfl
  record anomaly _ := Bus.adds_concat rfl (h.anomalyReported anomaly)
  write call _ _ := Bus.adds_concat rfl (h.wrote call _)
  read call _ := Bus.adds_concat rfl (h.read call _)

end Growth

end MouseControl
