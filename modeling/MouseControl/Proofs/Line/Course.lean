import MouseControl.Proofs.Line.Attempts

/-!
Retries of an operation on a line, run by run. Where a `Rehearsal` says beforehand what each call
comes to, here each run is told after the fact, by whatever suits the operation. Retries are a
course of runs with nothing transferred in between (`Course`), all but the last of which settled
nothing, and their outcome is that of the last run, or what it left (`Tried`). Retries with an
attempt at least always have such a course (`RetryPolicy.exists_course`).
-/

set_option autoImplicit false
set_option relaxedAutoImplicit false

namespace MouseControl

open MouseControl.Action

variable {σ τ α β : Type}

/-! ### Policies -/

namespace RetryPolicy

/-- A policy keeps the numbers it is built from, once they have passed its checks. -/
theorem ofNumbers_eq_ok_iff {attempts delay : Number} {retryOn : List FaultKind}
    {policy : RetryPolicy} : ofNumbers attempts delay retryOn = .ok policy ↔
      attempts.below 1 = false ∧ delay.below 0 = false ∧ policy = ⟨attempts, delay, retryOn⟩ := by
  unfold ofNumbers
  split
  next hattempts => simp [hattempts]
  next hattempts =>
    split
    next hdelay => simp [hdelay]
    next hdelay => simp [hattempts, hdelay, eq_comm]

/-- A policy built from two numbers, whatever they are, that tries again after the faults of this
library, as policies do unless they are told otherwise. -/
def Standard (policy : RetryPolicy) : Prop :=
  ∃ attempts delay, ofNumbers attempts delay ownFaults = .ok policy

namespace Standard

variable {policy : RetryPolicy}

theorem covers_iff (h : policy.Standard) (fault : Fault) :
    policy.covers fault = true ↔ fault.isA .library = true := by
  obtain ⟨attempts, delay, hpolicy⟩ := h
  obtain ⟨-, -, rfl⟩ := ofNumbers_eq_ok_iff.mp hpolicy
  simp [covers, ownFaults]

/-- If its attempts can be counted, there is one at least. -/
theorem one_le (h : policy.Standard) {n : Int} (hn : policy.attempts.toInt? = some n) : 1 ≤ n := by
  obtain ⟨attempts, delay, hpolicy⟩ := h
  obtain ⟨hbelow, -, rfl⟩ := ofNumbers_eq_ok_iff.mp hpolicy
  rcases attempts with b | m | x
  · cases hn
    cases b
    · exact absurd hbelow (by decide)
    · decide
  · cases hn
    simpa [Number.below] using hbelow
  · cases hn

end Standard

end RetryPolicy

/-! ### What an attempt comes to -/

namespace RetryPolicy

/-- An attempt settles retries with a fault that the policy does not cover, or with a result that is
good. -/
def Settles (policy : RetryPolicy) (good : α → Bool) : Except Fault α → Prop
  | .error fault => ¬policy.covers fault = true
  | .ok result => good result = true

/-- The fault that an attempt leaves which settles nothing; the news of a result has to
be worded. -/
def leftover (policy : RetryPolicy) (what : Text) : Except Fault α → Fault
  | .error fault => fault
  | .ok _ => (Fault.nothingAcceptable what policy.attempts).worded

variable [TimeScale τ] {policy : RetryPolicy} {what : Text} {operation : Action (Bus σ τ) α}
  {accept : Option (α → Action (Bus σ τ) Bool)} {good : α → Bool} {index left : Nat}
  {bus mid : Bus σ τ} {outcome : Except Fault α}

/-- An attempt that settles the retries is the last one. -/
theorem run_of_settles (h : operation.run bus = (outcome, mid))
    (haccept : ∀ result bus, (accepts accept result).run bus = (.ok (good result), bus))
    (hsettles : policy.Settles good outcome) :
    (policy.attemptsFrom what operation accept index (left + 1)).run bus = (outcome, mid) := by
  rcases outcome with fault | result
  · exact run_of_foreign h hsettles
  · have hgood : good result = true := hsettles
    refine run_of_accepted h ?_
    rw [haccept, hgood]

/-- Any other leaves its fault to go on with. -/
theorem run_of_not_settles (h : operation.run bus = (outcome, mid))
    (haccept : ∀ result bus, (accepts accept result).run bus = (.ok (good result), bus))
    (hsettles : ¬policy.Settles good outcome) :
    ∃ log, (policy.attemptsFrom what operation accept index (left + 1)).run bus =
      (policy.goOn what operation accept index left (policy.leftover what outcome)).run
        { mid with log := log } := by
  rcases outcome with fault | result
  · exact run_of_covered h (not_not.mp hsettles)
  · have hgood : good result = false := eq_false_of_ne_true hsettles
    refine run_of_rejected h ?_
    rw [haccept, hgood]

end RetryPolicy

/-! ### Courses of runs -/

/-- Runs one after another, each told by a tale, with nothing transferred between them. -/
def Course (tells : Bus σ τ → β → Bus σ τ → Prop) : Bus σ τ → List β → Bus σ τ → Prop
  | bus, [], last => bus.Silent last
  | bus, tale :: rest, last =>
    ∃ mid between, tells bus tale mid ∧ mid.Silent between ∧ Course tells between rest last

namespace Course

variable {tells : Bus σ τ → β → Bus σ τ → Prop}

/-- A single run. -/
theorem single {bus mid last : Bus σ τ} {tale : β} (h : tells bus tale mid)
    (hsilent : mid.Silent last) : Course tells bus [tale] last :=
  ⟨mid, last, h, hsilent, refl_of Bus.Silent last⟩

/-- What each run says of the transfers, the course says of them all, in their order. -/
theorem transfers_eq {events : β → List (Event τ)}
    (h : ∀ bus tale mid, tells bus tale mid →
      transfers mid.trace = transfers bus.trace ++ events tale)
    {tales : List β} : ∀ {bus last : Bus σ τ}, Course tells bus tales last →
      transfers last.trace = transfers bus.trace ++ tales.flatMap events := by
  induction tales with
  | nil =>
    intro bus last hcourse
    rw [Bus.Silent.transfers_eq hcourse, List.flatMap_nil, List.append_nil]
  | cons tale rest ih =>
    rintro bus last ⟨mid, between, htale, hsilent, hrest⟩
    rw [ih hrest, hsilent.transfers_eq, h bus tale mid htale, List.append_assoc,
      List.flatMap_cons]

/-- A silence at the end of a course is part of it. -/
theorem append_silent {tales : List β} : ∀ {bus last last' : Bus σ τ},
    Course tells bus tales last → last.Silent last' → Course tells bus tales last' := by
  induction tales with
  | nil => exact fun hcourse hsilent ↦ trans_of Bus.Silent hcourse hsilent
  | cons tale rest ih =>
    rintro bus last last' ⟨mid, between, htale, hbetween, hrest⟩ hsilent
    exact ⟨mid, between, htale, hbetween, ih hrest hsilent⟩

/-- What holds on every line and of every run on it, holds of every run of a course. -/
theorem forall_mem {kept : Bus σ τ → Prop} {good : β → Prop}
    (hsilent : ∀ bus bus', bus.Silent bus' → kept bus → kept bus')
    (h : ∀ bus tale mid, kept bus → tells bus tale mid → good tale ∧ kept mid)
    {tales : List β} : ∀ {bus last : Bus σ τ}, kept bus → Course tells bus tales last →
      ∀ tale ∈ tales, good tale := by
  induction tales with
  | nil => exact fun _ _ ↦ List.forall_mem_nil _
  | cons tale rest ih =>
    rintro bus last hkept ⟨mid, between, htale, hbetween, hrest⟩
    obtain ⟨hgood, hmid⟩ := h bus tale mid hkept htale
    exact List.forall_mem_cons.mpr ⟨hgood, ih (hsilent mid between hbetween hmid) hrest⟩

end Course

/-! ### How retries go -/

/-- How retries with so many attempts left went, told by what the attempts came to. All but the last
settled nothing, and a wait followed each of them. If the last one did not either, no attempt is
left, or the wait that was due cannot be waited. -/
structure Tried (τ : Type) [TimeScale τ] (policy : RetryPolicy) (what : Text) (good : α → Bool)
    (left : Nat) (failed : List (Except Fault α)) (last outcome : Except Fault α) : Prop where
  length_lt : failed.length < left
  not_settles : ∀ other ∈ failed, ¬policy.Settles good other
  waitable : failed ≠ [] → policy.Waitable τ
  of_settles : policy.Settles good last → outcome = last
  of_not_settles : ¬policy.Settles good last →
    failed.length + 1 = left ∧ outcome = .error (policy.leftover what last) ∨
      failed.length + 1 < left ∧ ∃ fault, policy.Unwaited τ fault ∧ outcome = .error fault

namespace Tried

variable [TimeScale τ] {policy : RetryPolicy} {what : Text} {good : α → Bool} {left : Nat}
  {failed : List (Except Fault α)} {first last outcome : Except Fault α}

theorem of_settled (h : policy.Settles good last) :
    Tried τ policy what good (left + 1) [] last last where
  length_lt := Nat.succ_pos left
  not_settles := List.forall_mem_nil _
  waitable hne := absurd rfl hne
  of_settles _ := rfl
  of_not_settles hnot := absurd h hnot

theorem of_exhausted (h : ¬policy.Settles good last) :
    Tried τ policy what good 1 [] last (.error (policy.leftover what last)) where
  length_lt := Nat.one_pos
  not_settles := List.forall_mem_nil _
  waitable hne := absurd rfl hne
  of_settles hsettles := absurd hsettles h
  of_not_settles _ := .inl ⟨rfl, rfl⟩

theorem of_unwaited {fault : Fault} (h : ¬policy.Settles good last)
    (hpolicy : policy.Unwaited τ fault) :
    Tried τ policy what good (left + 2) [] last (.error fault) where
  length_lt := Nat.succ_pos _
  not_settles := List.forall_mem_nil _
  waitable hne := absurd rfl hne
  of_settles hsettles := absurd hsettles h
  of_not_settles _ := .inr ⟨Nat.succ_lt_succ (Nat.succ_pos left), fault, hpolicy, rfl⟩

theorem cons (hfirst : ¬policy.Settles good first) (hpolicy : policy.Waitable τ)
    (h : Tried τ policy what good left failed last outcome) :
    Tried τ policy what good (left + 1) (first :: failed) last outcome where
  length_lt := Nat.succ_lt_succ h.length_lt
  not_settles := List.forall_mem_cons.mpr ⟨hfirst, h.not_settles⟩
  waitable _ := hpolicy
  of_settles := h.of_settles
  of_not_settles hnot := by
    refine (h.of_not_settles hnot).imp (fun ⟨hleft, hlast⟩ ↦ ⟨?_, hlast⟩) fun ⟨_, hwait⟩ ↦ ?_
    · rw [List.length_cons, hleft]
    · obtain ⟨fault, hunwaited, -⟩ := hwait
      exact absurd hpolicy hunwaited.not_waitable

/-- A last attempt that settles nothing makes the retries fail. -/
theorem exists_error (h : Tried τ policy what good left failed last outcome)
    (hlast : ¬policy.Settles good last) : ∃ fault, outcome = .error fault := by
  obtain ⟨-, houtcome⟩ | ⟨-, fault, -, houtcome⟩ := h.of_not_settles hlast
  · exact ⟨_, houtcome⟩
  · exact ⟨fault, houtcome⟩

/-- If the waits can be waited, what settles nothing is followed by all the attempts. -/
theorem exhausted (h : Tried τ policy what good left failed last outcome)
    (hpolicy : 2 ≤ left → policy.Waitable τ) (hlast : ¬policy.Settles good last) :
    failed.length + 1 = left ∧ outcome = .error (policy.leftover what last) := by
  refine (h.of_not_settles hlast).resolve_right fun ⟨hlength, _, hunwaited, _⟩ ↦ ?_
  exact hunwaited.not_waitable (hpolicy (by omega))

/-- If they cannot, there is no second attempt. -/
theorem eq_nil (h : Tried τ policy what good left failed last outcome)
    {fault : Fault} (hpolicy : policy.Unwaited τ fault) : failed = [] :=
  by_contra fun hne ↦ hpolicy.not_waitable (h.waitable hne)

theorem unwaited (h : Tried τ policy what good left failed last outcome) {fault : Fault}
    (hpolicy : policy.Unwaited τ fault) (hlast : ¬policy.Settles good last) (htwo : 2 ≤ left) :
    outcome = .error fault := by
  have hlength : failed.length = 0 := List.length_eq_zero_iff.mpr (h.eq_nil hpolicy)
  obtain ⟨hleft, -⟩ | ⟨-, other, hother, houtcome⟩ := h.of_not_settles hlast
  · omega
  · rw [houtcome, hpolicy.unique hother]

end Tried

namespace RetryPolicy

variable [TimeScale τ] {policy : RetryPolicy} {operation : Action (Bus σ τ) α}
  {accept : Option (α → Action (Bus σ τ) Bool)} {good : α → Bool}
  {tells : Bus σ τ → β → Bus σ τ → Prop} {outcome : β → Except Fault α}

/-- An attempt is a run of the operation, which settles the retries or leaves a fault. -/
theorem run_attempt
    (haccept : ∀ result bus, (accepts accept result).run bus = (.ok (good result), bus))
    (htells : ∀ bus, ∃ tale, tells bus tale (operation.run bus).2 ∧
      (operation.run bus).1 = outcome tale)
    (what : Text) (index left : Nat) (bus : Bus σ τ) :
    let r := (policy.attemptsFrom what operation accept index (left + 1)).run bus
    ∃ tale mid, tells bus tale mid ∧
      (policy.Settles good (outcome tale) ∧ r = (outcome tale, mid) ∨
        ¬policy.Settles good (outcome tale) ∧ ∃ log, r =
          (policy.goOn what operation accept index left
            (policy.leftover what (outcome tale))).run { mid with log := log }) := by
  obtain ⟨tale, htale, houtcome⟩ := htells bus
  have hrun : operation.run bus = (outcome tale, (operation.run bus).2) := by rw [← houtcome]
  refine ⟨tale, _, htale, ?_⟩
  by_cases hsettles : policy.Settles good (outcome tale)
  · exact .inl ⟨hsettles, run_of_settles hrun haccept hsettles⟩
  · exact .inr ⟨hsettles, run_of_not_settles hrun haccept hsettles⟩

/-- Retries are a course of runs of their operation, and come to what the attempts make of them. The
check, if there is one, only looks at a result. -/
theorem exists_course
    (haccept : ∀ result bus, (accepts accept result).run bus = (.ok (good result), bus))
    (htells : ∀ bus, ∃ tale, tells bus tale (operation.run bus).2 ∧
      (operation.run bus).1 = outcome tale)
    (what : Text) (left : Nat) : ∀ (index : Nat) (bus : Bus σ τ),
    let r := (policy.attemptsFrom what operation accept index (left + 1)).run bus
    ∃ failed last, Course tells bus (failed ++ [last]) r.2 ∧
      Tried τ policy what good (left + 1) (failed.map outcome) (outcome last) r.1 := by
  induction left with
  | zero =>
    intro index bus r
    obtain ⟨tale, mid, htale, ⟨hsettles, hr⟩ | ⟨hsettles, log, hr⟩⟩ :=
      run_attempt haccept htells what index 0 bus
    · have hr : r = _ := hr
      rw [hr]
      exact ⟨[], tale, .single htale (refl_of Bus.Silent mid), .of_settled hsettles⟩
    · have hr : r = _ := hr
      rw [hr, goOn, if_pos rfl, run_throw]
      exact ⟨[], tale, .single htale ⟨rfl, rfl⟩, .of_exhausted hsettles⟩
  | succ left ih =>
    intro index bus r
    obtain ⟨tale, mid, htale, ⟨hsettles, hr⟩ | ⟨hsettles, log, hr⟩⟩ :=
      run_attempt haccept htells what index (left + 1) bus
    · have hr : r = _ := hr
      rw [hr]
      exact ⟨[], tale, .single htale (refl_of Bus.Silent mid), .of_settled hsettles⟩
    have hr : r = _ := hr
    have hlog : mid.Silent { mid with log := log } := ⟨rfl, rfl⟩
    rw [goOn, if_neg (Nat.succ_ne_zero left)] at hr
    obtain hpolicy | ⟨fault, hpolicy⟩ := policy.waitable_or_unwaited τ
    · obtain ⟨between, hwait, -, -⟩ := run_wait hpolicy { mid with log := log }
      have hwaited := Bus.silent_bookkeeping.handling.wait policy { mid with log := log }
      rw [hwait] at hwaited
      obtain ⟨failed, last, hcourse, htried⟩ := ih (index + 1) between
      rw [hr, run_bind_ok hwait]
      exact ⟨tale :: failed, last,
        ⟨mid, between, htale, trans_of Bus.Silent hlog hwaited, hcourse⟩,
        htried.cons hsettles hpolicy⟩
    · rw [hr, run_bind_error (run_wait_of_unwaited hpolicy _)]
      exact ⟨[], tale, .single htale hlog, .of_unwaited hsettles hpolicy⟩

/-- A policy of the usual kind, whose attempts can be counted, makes one at least. -/
theorem Standard.exists_course (hpolicy : policy.Standard) {n : Int}
    (hcount : policy.attempts.toInt? = some n)
    (haccept : ∀ result bus, (accepts accept result).run bus = (.ok (good result), bus))
    (htells : ∀ bus, ∃ tale, tells bus tale (operation.run bus).2 ∧
      (operation.run bus).1 = outcome tale)
    (what : Text) (bus : Bus σ τ) :
    let r := (policy.run what operation accept).run bus
    ∃ failed last, Course tells bus (failed ++ [last]) r.2 ∧
      Tried τ policy what good n.toNat (failed.map outcome) (outcome last) r.1 := by
  have hone : 1 ≤ n := hpolicy.one_le hcount
  obtain ⟨left, hleft⟩ : ∃ left, n.toNat = left + 1 := ⟨n.toNat - 1, by omega⟩
  rw [run_of_counted hcount, hleft]
  exact RetryPolicy.exists_course haccept htells what left 1 bus

end RetryPolicy

end MouseControl
