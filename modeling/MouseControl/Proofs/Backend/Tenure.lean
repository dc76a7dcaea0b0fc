import Mathlib.Data.List.Basic
import MouseControl.Backend.ControlTransfer

/-!
Tenures: the calls of the USB library from one search for the device to the next. A tenure goes
through its stages in order, and only the transfers take more than one call. It takes the device
that was found, the kernel's driver if it was detached and the interface if it was claimed, and
gives them back in the opposite order, so that a tenure that holds nothing any more gave back
exactly what it took (`Tenure`). One lemma tells how a tenure goes on with a call that takes
something, one with a call that gives something back, and one with any other (`Tenure.take`,
`Tenure.give`, `Tenure.idle`).
-/

set_option autoImplicit false
set_option relaxedAutoImplicit false

namespace MouseControl.ControlTransfer

variable {δ : Type}

/-- What a tenure takes and gives back. -/
inductive Belonging (δ : Type) where
  | device (device : δ)
  | driver (device : δ) (interface : Int)
  | interface (device : δ) (interface : Int)

namespace Call

/-- The stage of a tenure that a call belongs to. -/
def stage : Call δ → Nat
  | find .. => 0
  | kernelDriverActive .. => 1
  | detach .. => 2
  | claim .. => 3
  | controlOut .. | controlIn .. => 4
  | release .. => 5
  | attach .. => 6
  | dispose .. => 7

/-- What a call took, if it succeeded. -/
def taken? : Call δ → Option (Belonging δ)
  | find _ _ _ (.ok (some device)) => some (.device device)
  | detach device interface (.ok ()) => some (.driver device interface)
  | claim device interface (.ok ()) => some (.interface device interface)
  | _ => none

/-- What a call gave back, or tried to. -/
def given? : Call δ → Option (Belonging δ)
  | release device interface _ => some (.interface device interface)
  | attach device interface _ => some (.driver device interface)
  | dispose device _ => some (.device device)
  | _ => none

end Call

/-- The stage of the transfers, the only calls that a tenure repeats. -/
def transferStage : Nat := 4

/-- The stage in which a tenure ends. -/
def lastStage : Nat := 7

/-- A call may follow one of some stage. -/
def Call.Follows (call : Call δ) (stage : Nat) : Prop :=
  stage < call.stage ∨ stage = transferStage ∧ call.stage = transferStage

/-- The calls of a tenure that has not gone beyond a stage: one search and what came after it, in
order. What was taken is still held or was given back, the last thing first. -/
structure Tenure (held : List (Belonging δ)) (calls : List (Call δ)) (stage : Nat) : Prop where
  begins : ∃ vid pid serial outcome rest, calls = .find vid pid serial outcome :: rest
  inOrder : calls.Pairwise fun first second ↦ second.Follows first.stage
  stage_le : ∀ call ∈ calls, call.stage ≤ stage
  taken_eq : calls.filterMap Call.taken? = held ++ (calls.filterMap Call.given?).reverse

namespace Tenure

variable {held : List (Belonging δ)} {stage : Nat} {calls : List (Call δ)} {call : Call δ}

/-- A tenure begins with its search, which may find a device. -/
theorem of_find (vid pid : Int) (serial : Option Text) (outcome : Except Fault (Option δ)) :
    Tenure (Call.find vid pid serial outcome).taken?.toList [.find vid pid serial outcome] 0 := by
  refine ⟨⟨vid, pid, serial, outcome, [], rfl⟩, List.pairwise_singleton _ _, ?_, ?_⟩
  · simp [Call.stage]
  · rcases outcome with fault | _ | device <;> rfl

theorem mono (h : Tenure held calls stage) {later : Nat} (hle : stage ≤ later) :
    Tenure held calls later :=
  ⟨h.begins, h.inOrder, fun call hcall ↦ Nat.le_trans (h.stage_le call hcall) hle, h.taken_eq⟩

/-- A tenure goes on with a call of a later stage, or with one more transfer. -/
theorem concat (h : Tenure held calls stage) (hfollows : call.Follows stage)
    {held' : List (Belonging δ)}
    (htaken : (calls ++ [call]).filterMap Call.taken? =
      held' ++ ((calls ++ [call]).filterMap Call.given?).reverse) :
    Tenure held' (calls ++ [call]) call.stage := by
  refine ⟨?_, ?_, ?_, htaken⟩
  · obtain ⟨vid, pid, serial, outcome, rest, rfl⟩ := h.begins
    exact ⟨vid, pid, serial, outcome, rest ++ [call], rfl⟩
  · refine List.pairwise_append.mpr ⟨h.inOrder, List.pairwise_singleton _ _, ?_⟩
    intro earlier hearlier later hlater
    rw [List.mem_singleton.mp hlater]
    have hle := h.stage_le earlier hearlier
    unfold Call.Follows at hfollows ⊢
    omega
  · intro earlier hearlier
    rcases List.mem_append.mp hearlier with hearlier | hearlier
    · have hle := h.stage_le earlier hearlier
      unfold Call.Follows at hfollows
      omega
    · exact (List.mem_singleton.mp hearlier) ▸ Nat.le_refl _

/-- Nothing is given back before the transfers are over. -/
theorem given_eq_nil (h : Tenure held calls stage) (hstage : stage ≤ transferStage) :
    calls.filterMap Call.given? = [] := by
  refine List.filterMap_eq_nil_iff.mpr fun call hcall ↦ ?_
  have hle := Nat.le_trans (h.stage_le call hcall) hstage
  cases call with
  | release | attach | dispose => simp [Call.stage, transferStage] at hle
  | _ => rfl

/-- A call that neither takes nor gives back. -/
theorem idle (h : Tenure held calls stage) (hfollows : call.Follows stage)
    (htaken : call.taken? = none) (hgiven : call.given? = none) :
    Tenure held (calls ++ [call]) call.stage := by
  refine h.concat hfollows ?_
  simpa [htaken, hgiven] using h.taken_eq

theorem take {taken : Belonging δ} (h : Tenure held calls stage) (hstage : stage ≤ transferStage)
    (hfollows : call.Follows stage) (htaken : call.taken? = some taken)
    (hgiven : call.given? = none) : Tenure (held ++ [taken]) (calls ++ [call]) call.stage := by
  refine h.concat hfollows ?_
  have htaken_eq := h.taken_eq
  rw [h.given_eq_nil hstage] at htaken_eq
  simp [htaken, hgiven, h.given_eq_nil hstage, htaken_eq]

theorem give {given : Belonging δ} (h : Tenure (held ++ [given]) calls stage)
    (hfollows : call.Follows stage) (htaken : call.taken? = none)
    (hgiven : call.given? = some given) : Tenure held (calls ++ [call]) call.stage := by
  refine h.concat hfollows ?_
  simp [htaken, hgiven, h.taken_eq]

end Tenure

end MouseControl.ControlTransfer
