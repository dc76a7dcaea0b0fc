import Mathlib.Data.List.TakeWhile
import MouseControl.Proofs.Json.Grammar

/-!
Atoms as they are read. What the reader takes for a word, a text or a number is one of the grammar
(`spelled_of_atom`), and where it meets an integer of too many digits there is one
(`longInteger_of_atom`). Conversely it reads every atom that what follows cannot go on with
(`atom_of_spelled`) and stops at every such integer (`atom_of_longInteger`). A run of digits is
taken whole, so each part of a number is read by one lemma for what it consists of and one for what
comes after it.
-/

set_option autoImplicit false
set_option relaxedAutoImplicit false

namespace MouseControl.Json

/-! ### Runs of characters -/

/-- No character of some kind comes first. -/
def Lacks (kind : Char → Bool) (rest : List Char) : Prop :=
  ∀ c, rest.head? = some c → kind c = false

section Runs

variable {kind : Char → Bool} {run rest : List Char}

theorem takeWhile_append_of_lacks (hrun : ∀ c ∈ run, kind c = true) (hrest : Lacks kind rest) :
    (run ++ rest).takeWhile kind = run ∧ (run ++ rest).dropWhile kind = rest := by
  rw [List.takeWhile_append_of_pos hrun, List.dropWhile_append_of_pos hrun]
  rcases rest with _ | ⟨c, rest⟩
  · exact ⟨List.append_nil _, rfl⟩
  · have hc := hrest c rfl
    simp [hc]

theorem lacks_dropWhile (kind : Char → Bool) (s : List Char) : Lacks kind (s.dropWhile kind) :=
  fun c hc ↦ by
    have h := List.head?_dropWhile_not kind s
    rw [hc] at h
    simpa using h

end Runs

theorem blanks_skipBlanks (s : List Char) : Blanks s (skipBlanks s) :=
  ⟨s.takeWhile isBlank, (List.takeWhile_append_dropWhile).symm, fun _ ↦ List.mem_takeWhile_imp⟩

/-- All blank space is skipped. -/
theorem skipBlanks_of_blanks {s rest : List Char} (h : Blanks s rest) (hrest : Lacks isBlank rest) :
    skipBlanks s = rest := by
  obtain ⟨blank, rfl, hblank⟩ := h
  exact (takeWhile_append_of_lacks hblank hrest).2

theorem digits_append {run rest : List Char} (hrun : ∀ c ∈ run, c.isDigit = true)
    (hrest : Lacks Char.isDigit rest) : digits (run ++ rest) = (run, rest) := by
  obtain ⟨htake, hdrop⟩ := takeWhile_append_of_lacks hrun hrest
  rw [digits, htake, hdrop]

/-- The digits of a text are all that it begins with. -/
theorem digits_spec (s : List Char) :
    s = (digits s).1 ++ (digits s).2 ∧ (∀ c ∈ (digits s).1, c.isDigit = true) ∧
      Lacks Char.isDigit (digits s).2 :=
  ⟨(List.takeWhile_append_dropWhile).symm, fun _ ↦ List.mem_takeWhile_imp,
    lacks_dropWhile Char.isDigit s⟩

theorem afterWord_eq_some {word s rest : List Char} :
    afterWord word s = some rest ↔ s = word ++ rest := by
  induction word generalizing s with
  | nil => simp [afterWord]
  | cons c word ih =>
    rcases s with _ | ⟨d, s⟩
    · simp [afterWord]
    · by_cases h : c = d
      · subst h
        simp [afterWord, ih]
      · simp [afterWord, h, Ne.symm h]

/-! ### Texts -/

theorem textContent_of_content {content : List Char} {units : Text} (h : Content content units)
    (rest : List Char) : textContent (content ++ '"' :: rest) = some (units, rest) := by
  induction h with
  | nil => rfl
  | @plain c s units hcontrol hquote hslash _ ih =>
    rw [List.cons_append, textContent.eq_def]
    split
    next heq => exact absurd (List.cons.inj heq).1 hquote
    next heq => exact absurd (List.cons.inj heq).1 hslash
    next heq => exact absurd (List.cons.inj heq).1 hslash
    next heq =>
      obtain ⟨rfl, rfl⟩ := List.cons.inj heq
      simp [hcontrol, hslash, ih]
    next heq => cases heq
  | @escape c escaped s units hescape _ ih =>
    have hunit : c ≠ 'u' := by
      rintro rfl
      cases hescape
    rw [List.cons_append, List.cons_append, textContent.eq_def]
    split
    next heq => exact absurd (List.cons.inj heq).1 (by decide)
    next heq => exact absurd (List.cons.inj (List.cons.inj heq).2).1 hunit
    next heq =>
      obtain ⟨rfl, rfl⟩ := List.cons.inj (List.cons.inj heq).2
      simp [hescape, ih]
    next hnone heq =>
      obtain ⟨rfl, rfl⟩ := List.cons.inj heq
      exact absurd rfl (hnone _ _ rfl)
    next heq => cases heq
  | @unit a b c d unit s units hunit _ ih => simp [textContent, hunit, ih]

theorem content_of_textContent {s rest : List Char} {units : Text}
    (h : textContent s = some (units, rest)) :
    ∃ content, s = content ++ '"' :: rest ∧ Content content units := by
  induction s using textContent.induct generalizing units rest with
  | case1 rest' =>
    cases h
    exact ⟨[], rfl, .nil⟩
  | case2 a b c d tail ih =>
    rw [textContent] at h
    simp only [Option.bind_eq_bind, Option.bind_eq_some_iff, Option.pure_def, Option.some.injEq,
      Prod.mk.injEq, Prod.exists] at h
    obtain ⟨unit, hunit, more, after, hmore, rfl, rfl⟩ := h
    obtain ⟨content, rfl, hcontent⟩ := ih hmore
    exact ⟨_, rfl, .unit hunit hcontent⟩
  | case3 c tail hnot ih =>
    rw [textContent] at h
    · simp only [Option.bind_eq_bind, Option.bind_eq_some_iff, Option.pure_def, Option.some.injEq,
        Prod.mk.injEq, Prod.exists] at h
      obtain ⟨escaped, hescape, more, after, hmore, rfl, rfl⟩ := h
      obtain ⟨content, rfl, hcontent⟩ := ih hmore
      exact ⟨_, rfl, .escape hescape hcontent⟩
    · exact hnot
  | case4 c tail hquote hunit hescape hbad =>
    rw [textContent, if_pos hbad] at h
    · cases h
    all_goals assumption
  | case5 c tail hquote hunit hescape hgood ih =>
    rw [textContent, if_neg hgood] at h
    · simp only [Option.bind_eq_bind, Option.bind_eq_some_iff, Option.pure_def, Option.some.injEq,
        Prod.mk.injEq, Prod.exists] at h
      obtain ⟨more, after, hmore, rfl, rfl⟩ := h
      obtain ⟨content, rfl, hcontent⟩ := ih hmore
      simp only [Bool.or_eq_true, decide_eq_true_eq, beq_iff_eq, not_or] at hgood
      exact ⟨_, rfl, .plain hgood.1 (fun heq ↦ hquote heq) hgood.2 hcontent⟩
    all_goals assumption
  | case6 => cases h

/-- A text is read if it is a quotation. -/
theorem text_eq_some {s rest : List Char} {t : Text} :
    text s = some (t, rest) ↔ ∃ spelled, Quotation spelled t ∧ '"' :: s = spelled ++ rest := by
  constructor
  · intro h
    obtain ⟨⟨units, after⟩, hcontent, heq⟩ := Option.map_eq_some_iff.mp h
    obtain ⟨rfl, rfl⟩ := Prod.mk.inj heq
    obtain ⟨content, rfl, hspelled⟩ := content_of_textContent hcontent
    exact ⟨_, .mk hspelled, by simp⟩
  · rintro ⟨_, ⟨hcontent⟩, heq⟩
    simp only [List.cons_append, List.append_assoc, List.nil_append, List.cons.injEq,
      true_and] at heq
    rw [text, heq, textContent_of_content hcontent]
    rfl

/-! ### Parts of a number -/

/-- Nothing that could go on with a number comes first. -/
def Ends (rest : List Char) : Prop :=
  ∀ c, rest.head? = some c → c.isDigit = false ∧ c ≠ '.' ∧ c ≠ 'e' ∧ c ≠ 'E'

theorem Digits.head {run : List Char} (h : Digits run) :
    ∃ c tail, run = c :: tail ∧ c.isDigit = true := by
  rcases run with _ | ⟨c, tail⟩
  · exact absurd rfl h.ne_nil
  · exact ⟨c, tail, rfl, h.isDigit c List.mem_cons_self⟩

theorem digits_isEmpty_iff (s : List Char) :
    (digits s).1.isEmpty = false ↔ Digits (digits s).1 := by
  constructor
  · exact fun h ↦ ⟨by simpa using h, (digits_spec s).2.1⟩
  · exact fun h ↦ by simpa using h.ne_nil

theorem wholePart_of_whole {run rest : List Char} (h : Whole run)
    (hrest : Lacks Char.isDigit rest) : wholePart (run ++ rest) = some (run, rest) := by
  obtain ⟨c, tail, rfl, hc⟩ := h.head
  rw [List.cons_append, wholePart.eq_def]
  split
  next heq =>
    obtain ⟨rfl, rfl⟩ := List.cons.inj heq
    obtain rfl : tail = [] := (List.cons.inj (h.eq_of_zero rfl)).2
    rfl
  next heq =>
    obtain ⟨rfl, rfl⟩ := List.cons.inj heq
    rw [if_pos hc, ← List.cons_append, digits_append h.isDigit hrest]
  next heq => cases heq

theorem whole_of_wholePart {s run rest : List Char} (h : wholePart s = some (run, rest)) :
    s = run ++ rest ∧ Whole run ∧ (run = ['0'] ∨ Lacks Char.isDigit rest) := by
  rw [wholePart.eq_def] at h
  split at h
  next =>
    cases h
    exact ⟨rfl, ⟨⟨List.cons_ne_nil _ _, List.forall_mem_singleton.mpr rfl⟩, fun _ ↦ rfl⟩, .inl rfl⟩
  next c tail hzero =>
    split at h
    next hc =>
      obtain ⟨hsplit, hrun, hrest⟩ := digits_spec (c :: tail)
      obtain ⟨rfl, rfl⟩ := Prod.mk.inj (Option.some.inj h)
      refine ⟨hsplit, ⟨⟨by simp [hc], hrun⟩, fun hhead ↦ ?_⟩, .inr hrest⟩
      simp only [List.takeWhile_cons, hc, if_true, List.head?_cons,
        Option.some.injEq] at hhead
      exact absurd hhead hzero
    next => cases h
  next => cases h

theorem fractionPart_eq_some {s places rest : List Char} :
    fractionPart s = some (places, rest) ↔
      s = '.' :: (places ++ rest) ∧ Digits places ∧ Lacks Char.isDigit rest := by
  constructor
  · intro h
    rw [fractionPart.eq_def] at h
    split at h
    next tail =>
      split at h
      next => cases h
      next hsome =>
        obtain ⟨rfl, rfl⟩ := Prod.mk.inj (Option.some.inj h)
        obtain ⟨hsplit, -, hrest⟩ := digits_spec tail
        exact ⟨congrArg (List.cons '.') hsplit,
          (digits_isEmpty_iff tail).mp (Bool.eq_false_iff.mpr hsome), hrest⟩
    next => cases h
  · rintro ⟨rfl, hplaces, hrest⟩
    rw [fractionPart, digits_append hplaces.isDigit hrest, if_neg (by simpa using hplaces.ne_nil)]

theorem sign_append {sign rest : List Char} {negative : Bool} (h : Sign sign negative)
    (hrest : ∃ c tail, rest = c :: tail ∧ c.isDigit = true) :
    Reader.sign (sign ++ rest) = (negative, rest) := by
  obtain ⟨c, tail, rfl, hc⟩ := hrest
  cases h with
  | plus | minus => rfl
  | absent =>
    rw [List.nil_append, Reader.sign.eq_def]
    split
    next heq =>
      obtain ⟨rfl, -⟩ := List.cons.inj heq
      cases hc
    next heq =>
      obtain ⟨rfl, -⟩ := List.cons.inj heq
      cases hc
    next => rfl

theorem exists_sign (s : List Char) :
    ∃ sign, Sign sign (Reader.sign s).1 ∧ s = sign ++ (Reader.sign s).2 := by
  rw [Reader.sign.eq_def]
  split
  · exact ⟨['-'], .minus, rfl⟩
  · exact ⟨['+'], .plus, rfl⟩
  · exact ⟨[], .absent, rfl⟩

theorem exponentPart_eq_some {s rest : List Char} {n : Int} :
    exponentPart s = some (n, rest) ↔ ∃ e sign run negative, (e = 'e' ∨ e = 'E') ∧
      Sign sign negative ∧ Digits run ∧ n = Reader.signed negative run ∧
      s = e :: (sign ++ (run ++ rest)) ∧ Lacks Char.isDigit rest := by
  constructor
  · intro h
    rcases s with _ | ⟨e, tail⟩
    · cases h
    · simp only [exponentPart] at h
      split at h
      next hpower =>
        simp only [Bool.and_eq_true, Bool.or_eq_true, beq_iff_eq, Bool.not_eq_true'] at hpower
        obtain ⟨rfl, rfl⟩ := Prod.mk.inj (Option.some.inj h)
        obtain ⟨sign, hsign, hsplit⟩ := exists_sign tail
        obtain ⟨hdigits, -, hrest⟩ := digits_spec (Reader.sign tail).2
        exact ⟨e, sign, _, _, hpower.1, hsign, (digits_isEmpty_iff _).mp hpower.2, rfl,
          by rw [← hdigits, ← hsplit], hrest⟩
      next => cases h
  · rintro ⟨e, sign, run, negative, he, hsign, hrun, rfl, rfl, hrest⟩
    obtain ⟨c, tail, rfl, hc⟩ := hrun.head
    have hunsigned := sign_append hsign ⟨c, tail ++ rest, rfl, hc⟩
    rw [← List.cons_append] at hunsigned
    simp only [exponentPart]
    rw [hunsigned, digits_append hrun.isDigit hrest, if_pos (by simp [he])]

/-! ### Numbers -/

/-- How a number goes on after its whole part. -/
theorem unsignedNumber_eq (negative : Bool) {s run rest : List Char}
    (h : wholePart s = some (run, rest)) :
    unsignedNumber negative s =
      match fractionPart rest with
      | some (places, after) =>
        match exponentPart after with
        | some (n, after) => .ok (.float (real negative run places n), after)
        | none => .ok (.float (real negative run places 0), after)
      | none =>
        match exponentPart rest with
        | some (n, after) => .ok (.float (real negative run [] n), after)
        | none =>
          if Protocol.mostDigits < run.length then .error (.longInteger run.length)
          else .ok (.int (Reader.signed negative run), rest) := by
  have hbegin (next : List Char × List Char → Except Problem (Value × List Char)) :
      (formed (some (run, rest)) >>= next) = next (run, rest) := rfl
  rw [unsignedNumber, h, hbegin]
  rcases hfraction : fractionPart rest with _ | ⟨places, after⟩
  · rcases hexponent : exponentPart rest with _ | ⟨n, after⟩
    · by_cases hlong : Protocol.mostDigits < run.length
      · simp [hfraction, hexponent, hlong]
        rfl
      · simp [hfraction, hexponent, hlong]
        rfl
    · simp [hfraction, hexponent, real]
      rfl
  · rcases hexponent : exponentPart after with _ | ⟨n, after'⟩
    · simp [hfraction, hexponent, real]
      rfl
    · simp [hfraction, hexponent, real]
      rfl

theorem lacks_of_ends {rest : List Char} (h : Ends rest) : Lacks Char.isDigit rest :=
  fun c hc ↦ (h c hc).1

/-- An exponent, or what follows it, does not begin with a digit or a point. -/
theorem lacks_exponent {exponent rest : List Char} {n : Int} (h : Exponent exponent n)
    (hrest : Ends rest) : Lacks Char.isDigit (exponent ++ rest) ∧
      Lacks (· == '.') (exponent ++ rest) := by
  cases h with
  | absent =>
    exact ⟨lacks_of_ends hrest, fun c hc ↦ by simpa using (hrest c hc).2.1⟩
  | power he =>
    rcases he with rfl | rfl
    all_goals
      constructor
      all_goals
        rintro c ⟨⟩
        rfl

theorem exponentPart_of_exponent {exponent rest : List Char} {n : Int} (h : Exponent exponent n)
    (hrest : Ends rest) :
    exponentPart (exponent ++ rest) = if exponent = [] then none else some (n, rest) := by
  cases h with
  | absent =>
    refine Option.eq_none_iff_forall_ne_some.mpr ?_
    rintro ⟨m, after⟩ hsome
    obtain ⟨e, sign, run, negative, he, -, -, -, heq, -⟩ := exponentPart_eq_some.mp hsome
    have hends := hrest e (by rw [show rest = _ from heq]; rfl)
    rcases he with rfl | rfl
    · exact hends.2.2.1 rfl
    · exact hends.2.2.2 rfl
  | @power e sign run negative he hsign hrun =>
    rw [if_neg (List.cons_ne_nil _ _)]
    exact exponentPart_eq_some.mpr ⟨e, sign, run, negative, he, hsign, hrun, rfl,
      by simp, lacks_of_ends hrest⟩

theorem fractionPart_of_fraction {fraction places rest : List Char} (h : Fraction fraction places)
    (hrest : Lacks Char.isDigit rest) (hpoint : Lacks (· == '.') rest) :
    fractionPart (fraction ++ rest) = if fraction = [] then none else some (places, rest) := by
  cases h with
  | absent =>
    refine Option.eq_none_iff_forall_ne_some.mpr ?_
    rintro ⟨places, after⟩ hsome
    obtain ⟨heq, -, -⟩ := fractionPart_eq_some.mp hsome
    have hdot := hpoint '.' (by rw [show rest = _ from heq]; rfl)
    cases hdot
  | point hplaces =>
    rw [if_neg (List.cons_ne_nil _ _)]
    exact fractionPart_eq_some.mpr ⟨rfl, hplaces, hrest⟩

/-- What follows the whole part of a number does not go on with it. -/
theorem lacks_fraction {fraction places rest : List Char} (h : Fraction fraction places)
    (hrest : Lacks Char.isDigit rest) : Lacks Char.isDigit (fraction ++ rest) := by
  cases h with
  | absent => exact hrest
  | point =>
    rintro c ⟨⟩
    rfl

/-- A number that is no integer is read up to its end. -/
theorem unsignedNumber_of_real (negative : Bool) {run fraction places exponent rest : List Char}
    {n : Int} (hrun : Whole run) (hfraction : Fraction fraction places)
    (hexponent : Exponent exponent n) (hreal : fraction ++ exponent ≠ []) (hrest : Ends rest) :
    unsignedNumber negative (run ++ (fraction ++ (exponent ++ rest))) =
      .ok (.float (real negative run places n), rest) := by
  obtain ⟨hdigit, hpoint⟩ := lacks_exponent hexponent hrest
  have hwhole := wholePart_of_whole hrun (lacks_fraction hfraction hdigit)
  rw [unsignedNumber_eq negative hwhole, fractionPart_of_fraction hfraction hdigit hpoint]
  cases hfraction with
  | absent =>
    have hsome : exponent ≠ [] := by simpa using hreal
    simp only [List.nil_append, if_true]
    rw [exponentPart_of_exponent hexponent hrest, if_neg hsome]
  | point =>
    simp only [List.cons_ne_nil, if_false]
    rw [exponentPart_of_exponent hexponent hrest]
    cases hexponent with
    | absent => rfl
    | power => rfl

/-- An integer is read up to its end if there are not too many digits. -/
theorem unsignedNumber_of_integer (negative : Bool) {run rest : List Char} (hrun : Whole run)
    (hrest : Bare rest) :
    unsignedNumber negative (run ++ rest) =
      if Protocol.mostDigits < run.length then .error (.longInteger run.length)
      else .ok (.int (Reader.signed negative run), rest) := by
  have hfraction : fractionPart rest = none := by
    refine Option.eq_none_iff_forall_ne_some.mpr ?_
    rintro ⟨places, after⟩ hsome
    obtain ⟨heq, hplaces, -⟩ := fractionPart_eq_some.mp hsome
    exact absurd (hrest.fraction _ _ after (.point hplaces) heq) (List.cons_ne_nil _ _)
  have hexponent : exponentPart rest = none := by
    refine Option.eq_none_iff_forall_ne_some.mpr ?_
    rintro ⟨n, after⟩ hsome
    obtain ⟨e, sign, run, negative, he, hsign, hdigits, -, heq, -⟩ :=
      exponentPart_eq_some.mp hsome
    exact absurd (hrest.exponent _ _ after (.power he hsign hdigits) (by simp [heq]))
      (List.cons_ne_nil _ _)
  rw [unsignedNumber_eq negative (wholePart_of_whole hrun hrest.digit), hfraction, hexponent]

/-- What ends a number is bare. -/
theorem bare_of_ends {rest : List Char} (h : Ends rest) : Bare rest where
  digit := lacks_of_ends h
  fraction fraction places after hfraction heq := by
    cases hfraction with
    | absent => rfl
    | point => exact absurd rfl (h '.' (by rw [heq]; rfl)).2.1
  exponent exponent n after hexponent heq := by
    cases hexponent with
    | absent => rfl
    | @power e _ _ _ he =>
      have hends := h e (by rw [heq]; rfl)
      rcases he with rfl | rfl
      · exact absurd rfl hends.2.2.1
      · exact absurd rfl hends.2.2.2

theorem isEmpty_digits_append {run : List Char} (h : Digits run) (rest : List Char) :
    (digits (run ++ rest)).1.isEmpty = false := by
  obtain ⟨c, tail, rfl, hc⟩ := h.head
  simp [digits, hc]

/-- If neither a fraction nor an exponent is read, there is none. -/
theorem bare_of_none {rest : List Char} (hdigit : Lacks Char.isDigit rest)
    (hfraction : fractionPart rest = none) (hexponent : exponentPart rest = none) : Bare rest where
  digit := hdigit
  fraction fraction places after h heq := by
    cases h with
    | absent => rfl
    | point hplaces =>
      rw [heq, List.cons_append, fractionPart, isEmpty_digits_append hplaces] at hfraction
      cases hfraction
  exponent exponent n after h heq := by
    cases h with
    | absent => rfl
    | @power e sign run negative he hsign hrun =>
      have hfound := isEmpty_digits_append hrun after
      obtain ⟨c, tail, rfl, hc⟩ := hrun.head
      have hunsigned := sign_append hsign ⟨c, tail ++ after, rfl, hc⟩
      rw [← List.cons_append] at hunsigned
      rw [heq, List.cons_append, List.append_assoc] at hexponent
      simp only [exponentPart, hunsigned, hfound] at hexponent
      rcases he with rfl | rfl <;> cases hexponent

/-- What is read as a number is one. -/
theorem spelled_of_unsignedNumber {negative : Bool} {s rest : List Char} {v : Value}
    (h : unsignedNumber negative s = .ok (v, rest)) :
    ∃ spelled, s = spelled ++ rest ∧ Atom (minus negative ++ spelled) v := by
  rcases hwhole : wholePart s with _ | ⟨run, after⟩
  · rw [unsignedNumber, hwhole] at h
    cases h
  obtain ⟨rfl, hrun, -⟩ := whole_of_wholePart hwhole
  rw [unsignedNumber_eq negative hwhole] at h
  rcases hfraction : fractionPart after with _ | ⟨places, after'⟩
  all_goals
    rw [hfraction] at h
    dsimp only at h
  · rcases hexponent : exponentPart after with _ | ⟨n, after'⟩
    all_goals
      rw [hexponent] at h
      dsimp only at h
    · split at h
      next => cases h
      next hshort =>
        cases h
        exact ⟨run, rfl, .integer negative hrun (Nat.not_lt.mp hshort)⟩
    · cases h
      obtain ⟨e, sign, digits, exponentNegative, he, hsign, hdigits, rfl, rfl, -⟩ :=
        exponentPart_eq_some.mp hexponent
      exact ⟨run ++ ([] ++ e :: (sign ++ digits)), by simp,
        .real negative hrun .absent (.power he hsign hdigits) (List.cons_ne_nil _ _)⟩
  · obtain ⟨rfl, hplaces, -⟩ := fractionPart_eq_some.mp hfraction
    rcases hexponent : exponentPart after' with _ | ⟨n, after⟩
    all_goals
      rw [hexponent] at h
      cases h
    · exact ⟨run ++ ('.' :: places ++ []), by simp,
        .real negative hrun (.point hplaces) .absent (List.cons_ne_nil _ _)⟩
    · obtain ⟨e, sign, digits, exponentNegative, he, hsign, hdigits, rfl, rfl, -⟩ :=
        exponentPart_eq_some.mp hexponent
      exact ⟨run ++ ('.' :: places ++ e :: (sign ++ digits)), by simp,
        .real negative hrun (.point hplaces) (.power he hsign hdigits) (List.cons_ne_nil _ _)⟩

/-- A number with too many digits is an integer. -/
theorem longInteger_of_unsignedNumber {negative : Bool} {s : List Char} {count : Nat}
    (h : unsignedNumber negative s = .error (.longInteger count)) :
    LongInteger count (minus negative ++ s) := by
  rcases hwhole : wholePart s with _ | ⟨run, after⟩
  · rw [unsignedNumber, hwhole] at h
    cases h
  obtain ⟨rfl, hrun, hafter⟩ := whole_of_wholePart hwhole
  rw [unsignedNumber_eq negative hwhole] at h
  rcases hfraction : fractionPart after with _ | ⟨places, after'⟩
  all_goals
    rw [hfraction] at h
    dsimp only at h
  · rcases hexponent : exponentPart after with _ | ⟨n, after'⟩
    all_goals
      rw [hexponent] at h
      dsimp only at h
    · split at h
      next hlong =>
        cases h
        have hdigit : Lacks Char.isDigit after := by
          rcases hafter with rfl | hdigit
          · exact absurd hlong (by decide)
          · exact hdigit
        exact .mk negative hrun rfl hlong (bare_of_none hdigit hfraction hexponent)
      next => cases h
    · cases h
  · rcases hexponent : exponentPart after' with _ | ⟨n, after⟩
    all_goals
      rw [hexponent] at h
      cases h

/-! ### Atoms -/

section Digit

variable {c : Char} (hc : c.isDigit = true) (rest : List Char)

include hc

/-- What begins with a digit is read as a number. -/
theorem atom_digit : atom (c :: rest) = unsignedNumber false (c :: rest) := by
  rw [atom.eq_def]
  split
  case h_9 => rfl
  all_goals
    next heq =>
      obtain ⟨rfl, -⟩ := List.cons.inj heq
      cases hc

/-- So is what has a minus in front. -/
theorem atom_minus : atom ('-' :: c :: rest) = unsignedNumber true (c :: rest) := by
  rw [atom.eq_def]
  split
  case h_7 heq =>
    obtain ⟨rfl, -⟩ := List.cons.inj (List.cons.inj heq).2
    cases hc
  case h_8 heq =>
    obtain ⟨-, rfl⟩ := List.cons.inj heq
    rfl
  case h_9 hnot => exact absurd rfl (hnot _)
  all_goals
    next heq => exact absurd (List.cons.inj heq).1 (by decide)

end Digit

theorem atom_of_number (negative : Bool) {run : List Char} (hrun : Whole run) (rest : List Char) :
    atom (minus negative ++ (run ++ rest)) = unsignedNumber negative (run ++ rest) := by
  obtain ⟨c, tail, rfl, hc⟩ := hrun.head
  cases negative with
  | true => exact atom_minus hc (tail ++ rest)
  | false => exact atom_digit hc (tail ++ rest)

/-- What begins with neither blank space nor a bracket. -/
def Begins (s : List Char) : Prop :=
  ∃ c tail, s = c :: tail ∧ isBlank c = false ∧ c ∉ ['[', ']', '\x7b', '\x7d']

theorem begins_of_number (negative : Bool) {run : List Char} (hrun : Whole run)
    (rest : List Char) : Begins (minus negative ++ (run ++ rest)) := by
  obtain ⟨c, tail, rfl, hc⟩ := hrun.head
  cases negative with
  | true => exact ⟨'-', _, rfl, rfl, by decide⟩
  | false =>
    refine ⟨c, _, rfl, ?_, ?_⟩
    · refine Bool.eq_false_iff.mpr fun hblank ↦ ?_
      simp only [isBlank, Bool.or_eq_true, beq_iff_eq] at hblank
      rcases hblank with ((rfl | rfl) | rfl) | rfl <;> cases hc
    · intro hmem
      simp only [List.mem_cons, List.not_mem_nil, or_false] at hmem
      rcases hmem with rfl | rfl | rfl | rfl <;> cases hc

theorem begins_of_quotation {spelled : List Char} {t : Text} (h : Quotation spelled t) :
    Begins spelled := by
  cases h with
  | mk => exact ⟨'"', _, rfl, rfl, by decide⟩

theorem begins_of_atom {spelled : List Char} {v : Value} (h : Atom spelled v) :
    Begins spelled := by
  cases h with
  | null | true | false | nan | infinity | minusInfinity => exact ⟨_, _, rfl, rfl, by decide⟩
  | text hquotation => exact begins_of_quotation hquotation
  | integer negative hrun =>
    have h := begins_of_number negative hrun []
    rwa [List.append_nil] at h
  | real negative hrun => exact begins_of_number negative hrun _

theorem begins_of_longInteger {s : List Char} {count : Nat} (h : LongInteger count s) :
    Begins s := by
  cases h with
  | mk negative hrun => exact begins_of_number negative hrun _

/-- An atom is read up to its end if nothing can go on with it. -/
theorem atom_of_spelled {spelled : List Char} {v : Value} (h : Atom spelled v) {rest : List Char}
    (hrest : Ends rest) : atom (spelled ++ rest) = .ok (v, rest) := by
  cases h with
  | null | true | false | nan | infinity | minusInfinity => rfl
  | text hquotation =>
    cases hquotation with
    | @mk content units hcontent =>
      have htext : text (content ++ '"' :: rest) = some (joinPairs units, rest) :=
        text_eq_some.mpr ⟨_, .mk hcontent, by simp⟩
      have hatom : atom ('"' :: (content ++ '"' :: rest)) =
          formed ((text (content ++ '"' :: rest)).map fun r ↦ (.text r.1, r.2)) := rfl
      rw [List.cons_append, List.append_assoc, List.singleton_append, hatom, htext]
      rfl
  | integer negative hrun hshort =>
    rw [List.append_assoc, atom_of_number negative hrun,
      unsignedNumber_of_integer negative hrun (bare_of_ends hrest), if_neg (Nat.not_lt.mpr hshort)]
  | real negative hrun hfraction hexponent hreal =>
    rw [List.append_assoc, List.append_assoc, List.append_assoc, atom_of_number negative hrun,
      unsignedNumber_of_real negative hrun hfraction hexponent hreal hrest]

theorem atom_of_longInteger {s : List Char} {count : Nat} (h : LongInteger count s) :
    atom s = .error (.longInteger count) := by
  cases h with
  | mk negative hrun hlength hlong hrest =>
    subst hlength
    rw [atom_of_number negative hrun, unsignedNumber_of_integer negative hrun hrest, if_pos hlong]

/-- What is read as an atom is one. -/
theorem spelled_of_atom {s rest : List Char} {v : Value} (h : atom s = .ok (v, rest)) :
    ∃ spelled, s = spelled ++ rest ∧ Atom spelled v := by
  have hword {word : String} {w : Value} {s : List Char} (hw : Atom word.toList w)
      (h : formed ((afterWord word.toList s).map fun rest ↦ (w, rest)) = .ok (v, rest)) :
      ∃ spelled, s = spelled ++ rest ∧ Atom spelled v := by
    rcases hafter : afterWord word.toList s with _ | after
    · rw [hafter] at h
      cases h
    · rw [hafter] at h
      cases h
      exact ⟨_, afterWord_eq_some.mp hafter, hw⟩
  rw [atom.eq_def] at h
  split at h
  case h_1 tail =>
    rcases htext : text tail with _ | ⟨t, after⟩
    · rw [htext] at h
      cases h
    · rw [htext] at h
      cases h
      obtain ⟨spelled, hspelled, heq⟩ := text_eq_some.mp htext
      exact ⟨spelled, heq, .text hspelled⟩
  case h_2 => exact hword .null h
  case h_3 => exact hword .true h
  case h_4 => exact hword .false h
  case h_5 => exact hword .nan h
  case h_6 => exact hword .infinity h
  case h_7 => exact hword .minusInfinity h
  case h_8 tail _ =>
    obtain ⟨spelled, rfl, hspelled⟩ := spelled_of_unsignedNumber h
    exact ⟨'-' :: spelled, rfl, hspelled⟩
  case h_9 => exact spelled_of_unsignedNumber h

/-- Only at an integer an atom has too many digits. -/
theorem longInteger_of_atom {s : List Char} {count : Nat}
    (h : atom s = .error (.longInteger count)) : LongInteger count s := by
  have hformed {α : Type} {reading : Option α}
      (h : formed reading = .error (.longInteger count)) : False := by
    cases reading <;> cases h
  rw [atom.eq_def] at h
  split at h
  case h_8 =>
    have hlong : LongInteger count (minus true ++ _) := longInteger_of_unsignedNumber h
    exact hlong
  case h_9 =>
    have hlong : LongInteger count (minus false ++ s) := longInteger_of_unsignedNumber h
    exact hlong
  all_goals exact (hformed h).elim

end MouseControl.Json
