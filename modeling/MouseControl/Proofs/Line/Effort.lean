import Mathlib.Algebra.Group.Pi.Basic
import Mathlib.Tactic.Abel
import MouseControl.Proofs.Line.Extract
import MouseControl.Proofs.Line.Pacing

/-!
How much a line is put to. The chores of a trace are its transfers, its pauses between attempts, and
the calls that open and close the transport; a `Budget` bounds the number of each, and pauses that
keep the gap between transfers may be as many as there are transfers (`Affordable`). `Spends`
relates states between which a trace grows within a budget. Budgets add up along an action
(`keeps_add_bind`, `keeps_nsmul_forM`), and staying within no budget at all is a preorder. A
transfer costs itself, its gap included (`spends_slot`), retries cost every attempt and a wait
between each two (`spends_retried`), and a read without waiting costs as many transfers as it has
attempts (`Channel.spends_read`).
-/

set_option autoImplicit false
set_option relaxedAutoImplicit false

namespace MouseControl

open MouseControl.Action

variable {σ τ S α β : Type}

/-! ### Chores -/

/-- Something that a line is put to. -/
inductive Chore where
  | write
  | read
  /-- A pause between two attempts. -/
  | rest
  | opening
  | closing
  deriving DecidableEq

/-- The chore that an event is. -/
def Event.chore? : Event τ → Option Chore
  | .wrote .. => some .write
  | .read .. => some .read
  | .paused .retry _ => some .rest
  | .opened _ => some .opening
  | .closed _ => some .closing
  | _ => none

/-- How often a trace tells of a chore. -/
def tally (chore : Chore) (trace : List (Entry τ)) : ℕ := (extract Event.chore? trace).count chore

/-- How often a trace tells of a pause that keeps a gap. -/
def gaps (trace : List (Entry τ)) : ℕ := trace.countP fun entry ↦ entry.event.isSpacing

/-- The most of each chore that a line may be put to. -/
structure Budget where
  writes : ℕ := 0
  reads : ℕ := 0
  rests : ℕ := 0
  openings : ℕ := 0
  closings : ℕ := 0

/-- The most that a budget allows of a chore. -/
def Budget.limit (b : Budget) : Chore → ℕ
  | .write => b.writes
  | .read => b.reads
  | .rest => b.rests
  | .opening => b.openings
  | .closing => b.closings

/-- Some entries are within a budget, and of pauses to keep a gap there are no more than there are
transfers. -/
structure Affordable (budget : Chore → ℕ) (new : List (Entry τ)) : Prop where
  tally_le : ∀ chore, tally chore new ≤ budget chore
  gaps_le : gaps new ≤ tally .write new + tally .read new

/-- A chore is no pause that keeps a gap. -/
theorem Event.isSpacing_of_chore {event : Event τ} {chore : Chore} (h : event.chore? = some chore) :
    event.isSpacing = false := by
  cases event with
  | paused why span =>
    cases why with
    | spacing => cases h
    | retry => rfl
  | _ => rfl

theorem tally_append (chore : Chore) (first second : List (Entry τ)) :
    tally chore (first ++ second) = tally chore first + tally chore second := by
  rw [tally, extract_append, List.count_append, tally, tally]

theorem gaps_append (first second : List (Entry τ)) :
    gaps (first ++ second) = gaps first + gaps second :=
  List.countP_append

namespace Affordable

variable {budget budget' : Chore → ℕ} {new new' : List (Entry τ)}

theorem nil : Affordable budget ([] : List (Entry τ)) := ⟨fun _ ↦ Nat.zero_le _, Nat.zero_le _⟩

theorem append (h : Affordable budget new) (h' : Affordable budget' new') :
    Affordable (budget + budget') (new ++ new') where
  tally_le chore := by
    rw [tally_append]
    exact Nat.add_le_add (h.tally_le chore) (h'.tally_le chore)
  gaps_le := by
    have hfirst := h.gaps_le
    have hsecond := h'.gaps_le
    rw [gaps_append, tally_append, tally_append]
    omega

/-- What is no chore and keeps no gap is free. -/
theorem of_free (hfree : ∀ entry ∈ new,
    entry.event.chore? = none ∧ entry.event.isSpacing = false) : Affordable budget new := by
  have hnone : extract Event.chore? new = [] :=
    extract_eq_nil fun entry hentry ↦ (hfree entry hentry).1
  have hgaps : gaps new = 0 :=
    List.countP_eq_zero.mpr fun entry hentry ↦ by simp [(hfree entry hentry).2]
  refine ⟨fun chore ↦ ?_, by rw [hgaps]; exact Nat.zero_le _⟩
  rw [tally, hnone]
  exact Nat.zero_le _

/-- A chore costs itself. -/
theorem single {entry : Entry τ} {chore : Chore} (h : entry.event.chore? = some chore) :
    Affordable (Pi.single chore 1) [entry] where
  tally_le other := by
    have hextract : extract Event.chore? [entry] = [chore] := by simp [extract, h]
    rw [tally, hextract]
    by_cases hother : chore = other
    · subst hother
      simp
    · simp [hother]
  gaps_le := by simp [gaps, Event.isSpacing_of_chore h]

/-- A transfer pays for the pause in front of it. -/
theorem pausedSingle {pause entry : Entry τ} {chore : Chore} (hpause : pause.event.chore? = none)
    (h : entry.event.chore? = some chore) (hchore : chore = .write ∨ chore = .read) :
    Affordable (Pi.single chore 1) [pause, entry] := by
  obtain ⟨htally, hgaps⟩ := single h
  have hsame (other : Chore) : tally other [pause, entry] = tally other [entry] := by
    simp [tally, extract, hpause]
  have hone : 1 ≤ tally .write [entry] + tally .read [entry] := by
    rcases hchore with rfl | rfl <;> simp [tally, extract, h]
  have hspacing : gaps [entry] = 0 := by simp [gaps, Event.isSpacing_of_chore h]
  refine ⟨fun other ↦ (hsame other).trans_le (htally other), ?_⟩
  have hfirst : gaps [pause] ≤ 1 := List.countP_le_length
  rw [hsame, hsame, show [pause, entry] = [pause] ++ [entry] from rfl, gaps_append]
  omega

theorem mono (h : Affordable budget new) (hle : budget ≤ budget') : Affordable budget' new :=
  ⟨fun chore ↦ (h.tally_le chore).trans (hle chore), h.gaps_le⟩

end Affordable

/-! ### Spending -/

/-- A trace grows within a budget. -/
def Spends (trace : S → List (Entry τ)) (budget : Chore → ℕ) (s s' : S) : Prop :=
  ∃ new, trace s' = trace s ++ new ∧ Affordable budget new

namespace Spends

variable {trace : S → List (Entry τ)} {budget budget' : Chore → ℕ} {s s' s'' : S}

theorem of_trace_eq (h : trace s' = trace s) : Spends trace budget s s' :=
  ⟨[], by rw [h, List.append_nil], .nil⟩

theorem add (h : Spends trace budget s s') (h' : Spends trace budget' s' s'') :
    Spends trace (budget + budget') s s'' := by
  obtain ⟨first, hfirst, haffordable⟩ := h
  obtain ⟨second, hsecond, haffordable'⟩ := h'
  exact ⟨first ++ second, by rw [hsecond, hfirst, List.append_assoc],
    haffordable.append haffordable'⟩

theorem mono (hle : budget ≤ budget') (h : Spends trace budget s s') :
    Spends trace budget' s s' := by
  obtain ⟨new, htrace, haffordable⟩ := h
  exact ⟨new, htrace, haffordable.mono hle⟩

theorem of_free {entry : Entry τ} (htrace : trace s' = trace s ++ [entry])
    (hchore : entry.event.chore? = none) (hspacing : entry.event.isSpacing = false) :
    Spends trace budget s s' :=
  ⟨[entry], htrace, .of_free (List.forall_mem_singleton.mpr ⟨hchore, hspacing⟩)⟩

theorem of_single {entry : Entry τ} {chore : Chore} (htrace : trace s' = trace s ++ [entry])
    (h : entry.event.chore? = some chore) : Spends trace (Pi.single chore 1) s s' :=
  ⟨[entry], htrace, .single h⟩

end Spends

instance (trace : S → List (Entry τ)) : IsPreorder S (Spends trace 0) where
  refl _ := .of_trace_eq rfl
  trans _ _ _ h h' := by simpa using h.add h'

section Actions

variable {trace : S → List (Entry τ)} {budget budget' : Chore → ℕ}

theorem keeps_stay {x : Action S α} (h : ∀ s, (x.run s).2 = s) : Keeps (Spends trace budget) x :=
  fun s ↦ .of_trace_eq (by rw [h])

/-- The costs of two actions in a row add up; if the first fails, the second costs nothing. -/
theorem keeps_add_bind {x : Action S α} {next : α → Action S β} (hx : Keeps (Spends trace budget) x)
    (hnext : ∀ a, Keeps (Spends trace budget') (next a)) :
    Keeps (Spends trace (budget + budget')) (x >>= next) := by
  intro s
  have hfirst := hx s
  rw [run_bind]
  rcases hrun : x.run s with ⟨fault | a, t⟩
  all_goals rw [hrun] at hfirst
  · exact hfirst.add (.of_trace_eq rfl)
  · exact hfirst.add (hnext a t)

/-- What comes after an action may cost nothing. -/
theorem keeps_bind_free {x : Action S α} {next : α → Action S β}
    (hx : Keeps (Spends trace budget) x) (hnext : ∀ a, Keeps (Spends trace 0) (next a)) :
    Keeps (Spends trace budget) (x >>= next) := by
  have h := keeps_add_bind hx hnext
  rwa [add_zero] at h

theorem keeps_tryCatch_free {x : Action S α} {handle : Fault → Action S α}
    (hx : Keeps (Spends trace budget) x)
    (hhandle : ∀ fault, Keeps (Spends trace 0) (handle fault)) :
    Keeps (Spends trace budget) (tryCatch x handle) := by
  intro s
  have h := (hx s).add (leads_tryCatch x hhandle s)
  rwa [add_zero] at h

theorem keeps_add_ensuring {x : Action S α} {cleanup : Action S Unit}
    (hx : Keeps (Spends trace budget) x) (hcleanup : Keeps (Spends trace budget') cleanup) :
    Keeps (Spends trace (budget + budget')) (x.ensuring cleanup) :=
  fun s ↦ (hx s).add (leads_ensuring x hcleanup s)

/-- What follows a settled outcome follows a result. -/
theorem keeps_settled_bind {outcome : Except Fault α} {next : α → Action S β}
    (h : ∀ a, outcome = .ok a → Keeps (Spends trace budget) (next a)) :
    Keeps (Spends trace budget) (Action.ofExcept outcome >>= next) := by
  rcases outcome with fault | a
  · exact keeps_stay fun _ ↦ rfl
  · exact h a rfl

/-- A loop costs the length of its list times what each turn costs. -/
theorem keeps_nsmul_forM {body : α → Action S PUnit} {list : List α}
    (hbody : ∀ a ∈ list, Keeps (Spends trace budget) (body a)) :
    Keeps (Spends trace (list.length • budget)) (list.forM body) := by
  induction list with
  | nil => exact keeps_stay fun _ ↦ rfl
  | cons a rest ih =>
    obtain ⟨hfirst, hrest⟩ := List.forall_mem_cons.mp hbody
    rw [List.forM_eq_forM, List.forM_cons, List.length_cons, succ_nsmul']
    exact keeps_add_bind hfirst fun _ ↦ ih hrest

end Actions

/-! ### Lines -/

namespace Bus

variable {budget : Chore → ℕ}

theorem free_note (n : Notice) :
    Keeps (Spends Bus.trace budget) (note n : Action (Bus σ τ) Unit) :=
  fun _ ↦ .of_trace_eq rfl

/-- Telling of something costs nothing. -/
theorem free_record {event : Event τ} (hchore : event.chore? = none)
    (hspacing : event.isSpacing = false) :
    Keeps (Spends Bus.trace budget) (record event : Action (Bus σ τ) Unit) :=
  fun _ ↦ .of_free rfl hchore hspacing

theorem free_telling : Telling (Spends Bus.trace 0 : Bus σ τ → Bus σ τ → Prop) where
  note := free_note
  remember _ _ := .of_trace_eq rfl
  record _ := free_record rfl rfl

variable [TimeScale τ]

/-- A transfer in its slot costs itself. -/
theorem spends_slot {event : Except Fault α → Event τ} {chore : Chore}
    (hevent : ∀ outcome, (event outcome).chore? = some chore)
    (hchore : chore = .write ∨ chore = .read) (step : σ → Reply σ τ α) :
    Keeps (Spends Bus.trace (Pi.single chore 1)) (spaced (call event step)) := by
  intro bus
  rw [run_spaced]
  obtain ⟨-, hentered⟩ | ⟨rest, -, hentered⟩ := bus.entered_cases
  · rw [hentered]
    exact .of_single rfl (hevent _)
  · rw [hentered]
    exact ⟨[_, _], List.append_assoc _ _ _, .pausedSingle rfl (hevent _) hchore⟩

end Bus

/-! ### Retries -/

namespace RetryPolicy

variable [TimeScale τ] (policy : RetryPolicy)

/-- A wait is one rest at most. -/
theorem spends_wait :
    Keeps (Spends Bus.trace (Pi.single .rest 1)) (policy.wait : Action (Bus σ τ) Unit) := by
  unfold wait
  refine keeps_ite (fun _ ↦ keeps_stay fun _ ↦ rfl) fun _ ↦ ?_
  rcases (TimeScale.wait policy.delay : Except Fault τ) with fault | span
  · exact keeps_stay fun _ ↦ rfl
  · exact fun _ ↦ .of_single rfl rfl

/-- A wait of no time is no rest. -/
theorem free_wait (h : policy.delay.equalsInt 0 = true) :
    Keeps (Spends Bus.trace 0) (policy.wait : Action (Bus σ τ) Unit) :=
  keeps_stay fun bus ↦ by rw [policy.run_wait_of_equalsInt h bus]

variable {policy} {operation : Action (Bus σ τ) α} {accept : Option (α → Action (Bus σ τ) Bool)}
  {cost idle : Chore → ℕ}

/-- Retries cost an operation for every attempt and a wait between each two, whatever comes of
them. -/
theorem spends_attempts (what : Text) (hoperation : Keeps (Spends Bus.trace cost) operation)
    (haccept : ∀ result, Keeps (Spends Bus.trace 0) (accepts accept result))
    (hwait : Keeps (Spends Bus.trace idle) (policy.wait : Action (Bus σ τ) Unit)) (left : ℕ) :
    ∀ index, Keeps (Spends Bus.trace (left • cost + (left - 1) • idle))
      (policy.attemptsFrom what operation accept index left) := by
  induction left with
  | zero => exact fun _ ↦ keeps_stay fun _ ↦ rfl
  | succ left ih =>
    intro index bus
    have hgoOn (fault : Fault) : Keeps (Spends Bus.trace (left • cost + left • idle))
        (policy.goOn what operation accept index left fault) := by
      refine keeps_ite (fun _ ↦ keeps_stay fun _ ↦ rfl) fun hleft ↦ ?_
      obtain ⟨fewer, rfl⟩ := Nat.exists_eq_succ_of_ne_zero hleft
      have hrest := keeps_add_bind hwait fun _ ↦ ih (index + 1)
      have hsum : idle + ((fewer + 1) • cost + (fewer + 1 - 1) • idle) =
          (fewer + 1) • cost + (fewer + 1) • idle := by
        rw [Nat.add_sub_cancel, succ_nsmul idle]
        abel
      rwa [hsum] at hrest
    have hsum : (left + 1) • cost + (left + 1 - 1) • idle =
        cost + (left • cost + left • idle) := by
      rw [Nat.add_sub_cancel, succ_nsmul' cost, add_assoc]
    rw [hsum]
    -- The operation costs its share however it ends; what is left pays for going on.
    have hfirst := hoperation bus
    rcases hrun : operation.run bus with ⟨fault | result, mid⟩
    all_goals rw [hrun] at hfirst
    · by_cases hcovers : policy.covers fault = true
      · obtain ⟨log, hgone⟩ : ∃ log, _ =
            (policy.goOn what operation accept index left fault).run { mid with log := log } :=
          run_of_covered hrun hcovers
        rw [hgone]
        exact hfirst.add (hgoOn fault { mid with log := log })
      · rw [run_of_foreign hrun hcovers]
        exact hfirst.add (.of_trace_eq rfl)
    · have hjudged := haccept result mid
      rcases hverdict : (accepts accept result).run mid with ⟨fault | _ | _, judged⟩
      all_goals
        rw [hverdict] at hjudged
        have hfirst : Spends Bus.trace cost bus judged := by simpa using hfirst.add hjudged
      · rw [run_of_check_fault hrun hverdict]
        exact hfirst.add (.of_trace_eq rfl)
      · obtain ⟨log, hgone⟩ : ∃ log, _ =
            (policy.goOn what operation accept index left _).run { judged with log := log } :=
          run_of_rejected hrun hverdict
        rw [hgone]
        exact hfirst.add (hgoOn _ { judged with log := log })
      · rw [run_of_accepted hrun hverdict]
        exact hfirst.add (.of_trace_eq rfl)

theorem spends_retried {attempts : ℕ} (hattempts : policy.attempts.toInt? = some (attempts : ℤ))
    (what : Text) (hoperation : Keeps (Spends Bus.trace cost) operation)
    (haccept : ∀ result, Keeps (Spends Bus.trace 0) (accepts accept result))
    (hwait : Keeps (Spends Bus.trace idle) (policy.wait : Action (Bus σ τ) Unit)) :
    Keeps (Spends Bus.trace (attempts • cost + (attempts - 1) • idle))
      (policy.run what operation accept) := by
  intro bus
  rw [run_of_counted hattempts]
  exact spends_attempts what hoperation haccept hwait attempts 1 bus

end RetryPolicy

/-! ### Transfers -/

namespace Channel

variable [TimeScale τ] (c : Channel σ τ)

theorem spends_write (request value : Int) (data : Bytes) :
    Keeps (Spends Bus.trace (Pi.single .write 1)) (c.write request value data) := by
  refine keeps_bind_free (Bus.spends_slot (fun _ ↦ rfl) (.inl rfl) _) fun transferred ↦
    keeps_ite (fun _ ↦ ?_) fun _ ↦ keeps_pure _
  exact keeps_bind (Bus.free_note _) fun _ ↦ keeps_throw _

/-- A read that does not wait between two attempts costs one transfer for each. -/
theorem spends_read {attempts : ℕ} (hattempts : c.readPolicy.attempts.toInt? = some (attempts : ℤ))
    (hdelay : c.readPolicy.delay.equalsInt 0 = true) (request value length : Int) :
    Keeps (Spends Bus.trace (attempts • Pi.single .read 1)) (c.read request value length) := by
  have honce : Keeps (Spends Bus.trace (Pi.single .read 1)) (c.readOnce request value length) := by
    refine keeps_bind_free (Bus.spends_slot (fun _ ↦ rfl) (.inr rfl) _) fun data ↦
      keeps_ite (fun _ ↦ ?_) fun _ ↦ keeps_pure _
    exact keeps_bind (keeps_throw _) fun _ ↦ keeps_pure _
  have hattempted : Keeps (Spends Bus.trace (attempts • Pi.single .read 1 + (attempts - 1) • 0))
      (c.attempting request value length) :=
    RetryPolicy.spends_retried hattempts _ honce (fun _ ↦ keeps_pure _)
      (c.readPolicy.free_wait hdelay)
  rw [nsmul_zero, add_zero] at hattempted
  refine keeps_tryCatch_free hattempted fun fault ↦ ?_
  exact keeps_ite (fun _ ↦ keeps_bind (Bus.free_note _) fun _ ↦ keeps_throw _) fun _ ↦ keeps_throw _

end Channel

end MouseControl
