import MouseControl.Proofs.Line.Agree

/-!
Two lines side by side. A relation of lines is abreast if notices and the waiting between attempts
do not break it (`Bus.Abreast`). Then retries agree if each attempt does (`RetryPolicy.agree_run`),
exact writes and reads agree if the raw transfers do (`Channel.agree_write_of_raw`,
`Channel.agree_read_of_raw`), and pushes and probes agree if their exchanges do
(`Channel.agree_push_of_exchange`, `Channel.agree_probe_of_exchange`).
-/

set_option autoImplicit false
set_option relaxedAutoImplicit false

namespace MouseControl

open MouseControl.Action

variable {σ σ' τ α α' : Type} [TimeScale τ]

/-- Two lines stay related, whatever is noted on each, and when both wait between attempts. -/
structure Bus.Abreast (rel : Bus σ τ → Bus σ' τ → Prop) : Prop where
  note : ∀ n n', Agree rel rel Eq (Bus.note n : Action (Bus σ τ) Unit)
    (Bus.note n' : Action (Bus σ' τ) Unit)
  pause : ∀ span, Agree rel rel Eq (Bus.pause .retry span : Action (Bus σ τ) Unit)
    (Bus.pause .retry span : Action (Bus σ' τ) Unit)

variable {rel : Bus σ τ → Bus σ' τ → Prop}

/-! ### Retries -/

namespace RetryPolicy

variable (policy : RetryPolicy)

theorem agree_wait (h : Bus.Abreast rel) :
    Agree rel rel Eq (policy.wait : Action (Bus σ τ) Unit)
      (policy.wait : Action (Bus σ' τ) Unit) := by
  unfold wait
  refine agree_ite Iff.rfl (fun _ ↦ agree_pure rfl) fun _ ↦ ?_
  refine agree_bind (agree_ofExcept (matching_eq_iff.mpr rfl)) (fun _ _ ↦ id) ?_
  rintro span _ rfl
  exact h.pause span

/-- What a failed attempt leads to: a fault after the last one, and the next one otherwise. -/
theorem agree_failed (h : Bus.Abreast rel) {same : α → α' → Prop} {left : Nat} {n n' : Notice}
    {fault : Fault} {again : Action (Bus σ τ) α} {again' : Action (Bus σ' τ) α'}
    (hagain : Agree rel rel same again again') :
    Agree rel rel same
      (Bus.note n >>= fun _ ↦ if left = 0 then throw fault >>= fun _ : Unit ↦ again else again)
      (Bus.note n' >>= fun _ ↦ if left = 0 then throw fault >>= fun _ : Unit ↦ again'
        else again') := by
  refine (h.note n n').andThen ?_
  refine agree_ite Iff.rfl (fun _ ↦ ?_) fun _ ↦ hagain
  exact agree_throw_bind fault _ _

/-- Retries agree if each attempt does and related results are accepted alike. -/
theorem agree_attempts (h : Bus.Abreast rel) (what : Text) {same : α → α' → Prop}
    {operation : Action (Bus σ τ) α} {operation' : Action (Bus σ' τ) α'}
    {accept : Option (α → Action (Bus σ τ) Bool)} {accept' : Option (α' → Action (Bus σ' τ) Bool)}
    (hoperation : Agree rel rel same operation operation')
    (haccept : ∀ a a', same a a' → Agree rel rel Eq (accepts accept a) (accepts accept' a'))
    (left : Nat) :
    ∀ index, Agree rel rel same (policy.attemptsFrom what operation accept index left)
      (policy.attemptsFrom what operation' accept' index left) := by
  induction left with
  | zero => exact fun _ ↦ agree_throw _
  | succ left ih =>
    intro index
    have hagain : Agree rel rel same
        (policy.wait >>= fun _ ↦ policy.attemptsFrom what operation accept (index + 1) left)
        (policy.wait >>= fun _ ↦ policy.attemptsFrom what operation' accept' (index + 1) left) :=
      (policy.agree_wait h).andThen (ih (index + 1))
    unfold attemptsFrom
    refine agree_bind (agree_outcome hoperation) (fun _ _ h ↦ h) fun outcome outcome' hmatch ↦ ?_
    rcases hmatch with hsame | fault
    · refine agree_bind (haccept _ _ hsame) (fun _ _ h ↦ h) ?_
      rintro accepted _ rfl
      exact agree_ite Iff.rfl (fun _ ↦ agree_pure hsame) fun _ ↦ agree_failed h hagain
    · exact agree_ite Iff.rfl (fun _ ↦ agree_failed h hagain) fun _ ↦ agree_throw fault

theorem agree_run (h : Bus.Abreast rel) (what : Text) {same : α → α' → Prop}
    {operation : Action (Bus σ τ) α} {operation' : Action (Bus σ' τ) α'}
    {accept : Option (α → Action (Bus σ τ) Bool)} {accept' : Option (α' → Action (Bus σ' τ) Bool)}
    (hoperation : Agree rel rel same operation operation')
    (haccept : ∀ a a', same a a' → Agree rel rel Eq (accepts accept a) (accepts accept' a')) :
    Agree rel rel same (policy.run what operation accept)
      (policy.run what operation' accept') := by
  unfold RetryPolicy.run
  split
  · exact policy.agree_attempts h what hoperation haccept _ 1
  · exact agree_throw _

end RetryPolicy

/-! ### Operations of a channel -/

namespace Channel

variable {c : Channel σ τ} {c' : Channel σ' τ}

/-- A write agrees if its raw transfer does. -/
theorem agree_write_of_raw {pre : Bus σ τ → Bus σ' τ → Prop} (h : Bus.Abreast rel)
    {request value : Int} {data : Bytes}
    (hraw : Agree pre rel Eq (c.rawWrite (c.writeCall request value data))
      (c'.rawWrite (c'.writeCall request value data))) :
    Agree pre rel Eq (c.write request value data) (c'.write request value data) := by
  refine agree_bind hraw (fun _ _ h ↦ h) ?_
  rintro transferred _ rfl
  refine agree_ite Iff.rfl (fun _ ↦ ?_) fun _ ↦ agree_pure rfl
  exact (h.note _ _).andThen (agree_throw _)

/-- A read agrees if its raw transfers do and bring as many bytes; and then two reads that succeed
brought all the bytes that were asked for. -/
theorem agree_read_of_raw (h : Bus.Abreast rel) {same : Bytes → Bytes → Prop}
    {request value length : Int}
    (hraw : Agree rel rel same (c.rawRead (c.readCall request value length))
      (c'.rawRead (c'.readCall request value length)))
    (hsame : ∀ data data', same data data' → data.length = data'.length)
    (hpolicy : c'.readPolicy = c.readPolicy) :
    Agree rel rel (fun data data' ↦ same data data' ∧ (data.length : Int) = length)
      (c.read request value length) (c'.read request value length) := by
  have honce : Agree rel rel (fun data data' ↦ same data data' ∧ (data.length : Int) = length)
      (c.readOnce request value length) (c'.readOnce request value length) := by
    refine agree_bind hraw (fun _ _ h ↦ h) fun data data' hdata ↦ ?_
    rw [← hsame data data' hdata]
    refine agree_ite Iff.rfl (fun _ ↦ ?_) fun hlength ↦ ?_
    · exact agree_throw_bind _ _ _
    · exact agree_pure ⟨hdata, Decidable.not_not.mp hlength⟩
  unfold read
  rw [hpolicy]
  refine agree_tryCatch (c.readPolicy.agree_run h _ honce fun _ _ _ ↦ agree_pure rfl)
    (fun _ _ h ↦ h) fun fault ↦ ?_
  refine agree_ite Iff.rfl (fun _ ↦ ?_) fun _ ↦ agree_throw _
  exact (h.note _ _).andThen (agree_throw _)

/-- A push agrees if its exchanges do, whatever is made of the answers. -/
theorem agree_push_of_exchange {same : Bytes → CommandFrame → CommandFrame → Prop}
    (hexchange : ∀ frame, Agree rel rel (same frame) (c.exchange frame) (c'.exchange frame))
    (config : Configuration) : Agree rel rel Eq (c.push config) (c'.push config) := by
  refine agree_forM fun built _ ↦ agree_ofExcept_bind fun frame _ ↦ ?_
  exact (hexchange frame).andThen (agree_pure rfl)

/-- A probe agrees if exchanges of the query do, and the answers name one version. -/
theorem agree_probe_of_exchange (h : Bus.Abreast rel)
    (hexchange : ∀ query, Frame.encode .firmwareVersion [] = .ok query →
      Agree rel rel (fun answer answer' ↦ answer.valueBe16 0 = answer'.valueBe16 0)
        (c.exchange query) (c'.exchange query)) (policy : RetryPolicy) :
    Agree rel rel Eq (c.probe policy) (c'.probe policy) := by
  have hask : Agree rel rel Eq c.askFirmware c'.askFirmware := by
    refine agree_ofExcept_bind fun query hquery ↦ ?_
    refine agree_bind (hexchange query hquery) (fun _ _ h ↦ h) fun answer answer' hvalue ↦ ?_
    rw [hvalue]
    exact agree_ofExcept (matching_eq_iff.mpr rfl)
  refine agree_tryCatch (policy.agree_run h _ hask ?_) (fun _ _ h ↦ h) fun fault ↦ ?_
  · rintro version _ rfl
    exact agree_pure rfl
  · refine agree_ite Iff.rfl (fun _ ↦ ?_) fun _ ↦ agree_throw _
    exact (h.note _ _).andThen (agree_throw _)

end Channel

end MouseControl
