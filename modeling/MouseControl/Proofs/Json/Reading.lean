import MouseControl.Proofs.Json.Atoms

/-!
Documents as they are read. Reading with any fuel gives only what the grammar derives, and stops at
an integer of too many digits only where the text breaks (`sound`). With more than twice as much
fuel as there are characters nothing is left unread for want of it: every value that is spelled is
read (`value_of_spells`), and every break is met (`value_of_breaks`). So a document is read if and
only if it is one, and reading breaks if and only if the text does (`document_eq_ok_iff`,
`document_eq_longInteger_iff`).
-/

set_option autoImplicit false
set_option relaxedAutoImplicit false

namespace MouseControl.Json

/-! ### Equations -/

/-- How the items of a list go on after the first. -/
def afterItem (fuel : Nat) (v : Value) (rest : List Char) :
    Except Problem (List Value × List Char) :=
  match skipBlanks rest with
  | ']' :: rest => .ok ([v], rest)
  | ',' :: rest => (items fuel (skipBlanks rest)).map fun r ↦ (v :: r.1, r.2)
  | _ => .error .malformed

theorem items_succ (fuel : Nat) (s : List Char) :
    items (fuel + 1) s = (value fuel s).bind fun r ↦ afterItem fuel r.1 r.2 := by
  rw [items]
  rcases value fuel s with problem | ⟨v, rest⟩
  · rfl
  · change (match skipBlanks rest with
      | ']' :: rest => _
      | ',' :: rest => _
      | _ => _) = afterItem fuel v rest
    rw [afterItem]
    split
    · rfl
    · rcases items fuel (skipBlanks _) with problem | r <;> rfl
    · rfl

/-- How the members of an object go on after the value of one. -/
def afterMember (fuel : Nat) (now : List (Text × Value)) (rest : List Char) :
    Except Problem (List (Text × Value) × List Char) :=
  match skipBlanks rest with
  | '\x7d' :: rest => .ok (now, rest)
  | ',' :: rest => members fuel now (skipBlanks rest)
  | _ => .error .malformed

/-- How a member goes on after its name. -/
def afterName (fuel : Nat) (before : List (Text × Value)) (key : Text) (rest : List Char) :
    Except Problem (List (Text × Value) × List Char) :=
  match skipBlanks rest with
  | ':' :: rest => (value fuel (skipBlanks rest)).bind fun r ↦
      afterMember fuel (Value.put key r.1 before) r.2
  | _ => .error .malformed

theorem members_succ (fuel : Nat) (before : List (Text × Value)) (s : List Char) :
    members (fuel + 1) before ('"' :: s) =
      (formed (text s)).bind fun r ↦ afterName fuel before r.1 r.2 := by
  rw [members]
  rcases formed (text s) with problem | ⟨key, rest⟩
  · rfl
  · change (match skipBlanks rest with
      | ':' :: rest => _
      | _ => _) = afterName fuel before key rest
    rw [afterName]
    split
    · rcases value fuel (skipBlanks _) with problem | ⟨v, after⟩
      · rfl
      · change (match skipBlanks after with
          | '\x7d' :: rest => _
          | ',' :: rest => _
          | _ => _) = afterMember fuel (Value.put key v before) after
        rw [afterMember]
        split <;> rfl
    · rfl

/-! ### Soundness -/

/-- What is read satisfies `ok`, and where reading meets an integer of too many digits, `long` holds
of their number. -/
def Heeds {α : Type} (ok : α → List Char → Prop) (long : Nat → Prop) :
    Except Problem (α × List Char) → Prop
  | .ok (a, rest) => ok a rest
  | .error .malformed => True
  | .error (.longInteger count) => long count

namespace Heeds

variable {α β : Type} {ok : α → List Char → Prop} {ok' : β → List Char → Prop}
  {long long' : Nat → Prop} {reading : Except Problem (α × List Char)}

theorem bind (h : Heeds ok long reading) {next : α × List Char → Except Problem (β × List Char)}
    (hnext : ∀ a rest, ok a rest → Heeds ok' long' (next (a, rest)))
    (hlong : ∀ count, long count → long' count) : Heeds ok' long' (reading.bind next) := by
  rcases reading with (_ | count) | ⟨a, rest⟩
  · trivial
  · exact hlong count h
  · exact hnext a rest h

theorem map (h : Heeds ok long reading) {f : α → β} (hok : ∀ a rest, ok a rest → ok' (f a) rest)
    (hlong : ∀ count, long count → long' count) :
    Heeds ok' long' (reading.map fun r ↦ (f r.1, r.2)) := by
  rcases reading with (_ | count) | ⟨a, rest⟩
  · trivial
  · exact hlong count h
  · exact hok a rest h

end Heeds

theorem blanks_of_skipBlanks {s rest : List Char} (h : skipBlanks s = rest) : Blanks s rest :=
  h ▸ blanks_skipBlanks s

theorem heeds_atom (s : List Char) :
    Heeds (Spells s) (fun count ↦ Breaks count s) (atom s) := by
  rcases hatom : atom s with (_ | count) | ⟨v, rest⟩
  · trivial
  · exact .integer (longInteger_of_atom hatom)
  · obtain ⟨spelled, rfl, hspelled⟩ := spelled_of_atom hatom
    exact .atom hspelled

/-- A name is read if it is a quotation. -/
theorem heeds_text (s : List Char) :
    Heeds (fun key rest ↦ ∃ spelled, Quotation spelled key ∧ '"' :: s = spelled ++ rest)
      (fun _ ↦ False) (formed (text s)) := by
  rcases htext : text s with _ | ⟨key, rest⟩
  · trivial
  · exact text_eq_some.mp htext

/-- All that is read with some fuel is as in the grammar, and so is all that is read up to an
integer of too many digits. -/
structure Sound (fuel : Nat) : Prop where
  value : ∀ s, Heeds (Spells s) (fun count ↦ Breaks count s) (value fuel s)
  items : ∀ s, Heeds (SpellsItems s) (fun count ↦ BreaksItems count s) (items fuel s)
  members : ∀ before s,
    Heeds (fun all rest ↦ ∃ new, SpellsMembers s new rest ∧ all = gathered before new)
      (fun count ↦ BreaksMembers count s) (members fuel before s)

namespace Sound

variable {fuel : Nat} (h : Sound fuel)

include h

/-- A value is read as an atom, or as a bracket and what follows it. -/
theorem value_succ (s : List Char) :
    Heeds (Spells s) (fun count ↦ Breaks count s) (Json.value (fuel + 1) s) := by
  rw [Json.value.eq_def]
  dsimp only
  split
  next tail =>
    have hblanks := blanks_skipBlanks tail
    split
    next rest heq => exact .emptyObject (blanks_of_skipBlanks heq)
    next =>
      refine (h.members [] _).map (fun all rest hall ↦ ?_) fun count hlong ↦ .object hblanks hlong
      obtain ⟨new, hnew, rfl⟩ := hall
      exact .object hblanks hnew
  next tail =>
    have hblanks := blanks_skipBlanks tail
    split
    next rest heq => exact .emptyList (blanks_of_skipBlanks heq)
    next =>
      exact (h.items _).map (fun all rest hall ↦ .list hblanks hall)
        fun count hlong ↦ .list hblanks hlong
  next => exact heeds_atom s

theorem items_succ (s : List Char) :
    Heeds (SpellsItems s) (fun count ↦ BreaksItems count s) (Json.items (fuel + 1) s) := by
  rw [Json.items_succ]
  refine (h.value s).bind (fun v rest hfirst ↦ ?_) fun count hlong ↦ .here hlong
  rw [afterItem]
  split
  next after heq => exact .last hfirst (blanks_of_skipBlanks heq)
  next after heq =>
    have hcomma := blanks_of_skipBlanks heq
    have hblanks := blanks_skipBlanks after
    exact (h.items _).map (fun more last hmore ↦ .cons hfirst hcomma hblanks hmore)
      fun count hlong ↦ .later hfirst hcomma hblanks hlong
  next => trivial

theorem members_succ (before : List (Text × Value)) (s : List Char) :
    Heeds (fun all rest ↦ ∃ new, SpellsMembers s new rest ∧ all = gathered before new)
      (fun count ↦ BreaksMembers count s) (Json.members (fuel + 1) before s) := by
  by_cases hquote : ∃ tail, s = '"' :: tail
  · obtain ⟨tail, rfl⟩ := hquote
    rw [Json.members_succ]
    refine (heeds_text tail).bind (fun key rest hname ↦ ?_) fun count hlong ↦ hlong.elim
    obtain ⟨spelled, hname, hsplit⟩ := hname
    rw [hsplit, afterName]
    split
    next after heq =>
      have hcolon := blanks_of_skipBlanks heq
      have hblanks := blanks_skipBlanks after
      refine (h.value _).bind (fun v rest' hspelled ↦ ?_) fun count hlong ↦
        .here hname hcolon hblanks hlong
      rw [afterMember]
      split
      next last heq =>
        exact ⟨_, .last hname hcolon hblanks hspelled (blanks_of_skipBlanks heq), rfl⟩
      next last heq =>
        have hcomma := blanks_of_skipBlanks heq
        have hblanks' := blanks_skipBlanks last
        have hmore := h.members (Value.put key v before) (skipBlanks last)
        rcases hread : Json.members fuel (Value.put key v before) (skipBlanks last) with
          (_ | count) | ⟨all, end'⟩
        all_goals rw [hread] at hmore
        · trivial
        · exact .later hname hcolon hblanks hspelled hcomma hblanks' hmore
        · obtain ⟨new, hnew, rfl⟩ := hmore
          exact ⟨_, .cons hname hcolon hblanks hspelled hcomma hblanks' hnew, rfl⟩
      next => trivial
    next => trivial
  · have hnone : Json.members (fuel + 1) before s = .error .malformed := by
      rw [Json.members.eq_def]
      dsimp only
      split
      next tail => exact absurd ⟨tail, rfl⟩ hquote
      next => rfl
    rw [hnone]
    trivial

end Sound

theorem sound (fuel : Nat) : Sound fuel := by
  induction fuel with
  | zero => exact ⟨fun _ ↦ trivial, fun _ ↦ trivial, fun _ _ ↦ trivial⟩
  | succ fuel ih => exact ⟨ih.value_succ, ih.items_succ, ih.members_succ⟩

/-! ### Completeness -/

/-- What begins with neither blank space nor the end of a list or an object. -/
def Opens (s : List Char) : Prop :=
  ∃ c tail, s = c :: tail ∧ isBlank c = false ∧ c ≠ ']' ∧ c ≠ '\x7d'

namespace Opens

section

variable {s t : List Char} (h : Opens t)

include h

theorem skipBlanks_eq (hs : Blanks s t) : skipBlanks s = t := by
  obtain ⟨c, tail, rfl, hblank, -, -⟩ := h
  exact skipBlanks_of_blanks hs fun d hd ↦ by
    obtain rfl : c = d := Option.some.inj hd
    exact hblank

theorem ne_bracket (rest : List Char) : t ≠ ']' :: rest := by
  obtain ⟨c, tail, rfl, -, hbracket, -⟩ := h
  exact fun heq ↦ hbracket (List.cons.inj heq).1

theorem ne_brace (rest : List Char) : t ≠ '\x7d' :: rest := by
  obtain ⟨c, tail, rfl, -, -, hbrace⟩ := h
  exact fun heq ↦ hbrace (List.cons.inj heq).1

end

theorem of_begins {spelled : List Char} (h : Begins spelled) (rest : List Char) :
    Opens (spelled ++ rest) := by
  obtain ⟨c, tail, rfl, hblank, hbracket⟩ := h
  simp only [List.mem_cons, List.not_mem_nil, or_false, not_or] at hbracket
  exact ⟨c, tail ++ rest, rfl, hblank, hbracket.2.1, hbracket.2.2.2⟩

variable {s rest : List Char} {v : Value} {count : Nat}

theorem of_spells (h : Spells s v rest) : Opens s := by
  cases h with
  | atom hatom => exact of_begins (begins_of_atom hatom) rest
  | emptyList | list | emptyObject | object => exact ⟨_, _, rfl, rfl, by decide, by decide⟩

theorem of_spellsItems {all : List Value} (h : SpellsItems s all rest) : Opens s := by
  cases h with
  | last hfirst | cons hfirst => exact of_spells hfirst

theorem of_spellsMembers {new : List (Text × Value)} (h : SpellsMembers s new rest) : Opens s := by
  cases h with
  | last hname | cons hname => exact of_begins (begins_of_quotation hname) _

theorem of_breaks (h : Breaks count s) : Opens s := by
  cases h with
  | integer hlong =>
    have hopens := of_begins (begins_of_longInteger hlong) []
    rwa [List.append_nil] at hopens
  | list | object => exact ⟨_, _, rfl, rfl, by decide, by decide⟩

theorem of_breaksItems (h : BreaksItems count s) : Opens s := by
  cases h with
  | here hfirst => exact of_breaks hfirst
  | later hfirst => exact of_spells hfirst

theorem of_breaksMembers (h : BreaksMembers count s) : Opens s := by
  cases h with
  | here hname | later hname => exact of_begins (begins_of_quotation hname) _

end Opens

/-! #### Steps -/

theorem skipBlanks_cons {s rest : List Char} {c : Char} (h : Blanks s (c :: rest))
    (hc : isBlank c = false) : skipBlanks s = c :: rest :=
  skipBlanks_of_blanks h fun d hd ↦ by
    obtain rfl : c = d := Option.some.inj hd
    exact hc

theorem text_of_quotation {spelled : List Char} {key : Text} (h : Quotation spelled key)
    (rest : List Char) : ∃ tail, spelled ++ rest = '"' :: tail ∧ text tail = some (key, rest) := by
  cases h with
  | @mk content units hcontent =>
    exact ⟨content ++ '"' :: rest, by simp, text_eq_some.mpr ⟨_, .mk hcontent, by simp⟩⟩

/-- What begins as an atom does is read as one. -/
theorem value_of_begins {spelled : List Char} (h : Begins spelled) (rest : List Char) (fuel : Nat) :
    value (fuel + 1) (spelled ++ rest) = atom (spelled ++ rest) := by
  obtain ⟨c, tail, rfl, -, hbracket⟩ := h
  simp only [List.mem_cons, List.not_mem_nil, or_false, not_or] at hbracket
  rw [List.cons_append, value.eq_def]
  dsimp only
  split
  next heq => exact absurd (List.cons.inj heq).1 hbracket.2.2.1
  next heq => exact absurd (List.cons.inj heq).1 hbracket.1
  next => rfl

section

variable {s t u w rest : List Char} (fuel : Nat)

theorem value_emptyList (h : Blanks s (']' :: rest)) :
    value (fuel + 1) ('[' :: s) = .ok (.list [], rest) := by
  rw [value, skipBlanks_cons h rfl]
  rfl

theorem value_items (h : Blanks s t) (ht : Opens t) : value (fuel + 1) ('[' :: s) =
    (items fuel t).map fun r ↦ (.list r.1, r.2) := by
  rw [value, ht.skipBlanks_eq h]
  split
  next rest => exact absurd rfl (ht.ne_bracket rest)
  next => rfl

theorem value_emptyObject (h : Blanks s ('\x7d' :: rest)) :
    value (fuel + 1) ('\x7b' :: s) = .ok (.object [], rest) := by
  rw [value, skipBlanks_cons h rfl]
  rfl

theorem value_members (h : Blanks s t) (ht : Opens t) : value (fuel + 1) ('\x7b' :: s) =
    (members fuel [] t).map fun r ↦ (.object r.1, r.2) := by
  rw [value, ht.skipBlanks_eq h]
  split
  next rest => exact absurd rfl (ht.ne_brace rest)
  next => rfl

theorem afterItem_end (v : Value) (h : Blanks t (']' :: rest)) :
    afterItem fuel v t = .ok ([v], rest) := by
  rw [afterItem, skipBlanks_cons h rfl]
  rfl

theorem afterItem_comma (v : Value) (h : Blanks t (',' :: u)) (hu : Blanks u w) (hw : Opens w) :
    afterItem fuel v t = (items fuel w).map fun r ↦ (v :: r.1, r.2) := by
  rw [afterItem, skipBlanks_cons h rfl, ← hw.skipBlanks_eq hu]
  rfl

theorem members_of_name (before : List (Text × Value)) {key : Text} (hname : Quotation s key)
    (h : Blanks t (':' :: u)) (hu : Blanks u w) (hw : Opens w) :
    members (fuel + 1) before (s ++ t) =
      (value fuel w).bind fun r ↦ afterMember fuel (Value.put key r.1 before) r.2 := by
  obtain ⟨tail, heq, htext⟩ := text_of_quotation hname t
  rw [heq, members_succ, htext, formed, Except.bind, afterName, skipBlanks_cons h rfl,
    ← hw.skipBlanks_eq hu]
  rfl

theorem afterMember_end (now : List (Text × Value)) (h : Blanks t ('\x7d' :: rest)) :
    afterMember fuel now t = .ok (now, rest) := by
  rw [afterMember, skipBlanks_cons h rfl]
  rfl

theorem afterMember_comma (now : List (Text × Value)) (h : Blanks t (',' :: u))
    (hu : Blanks u w) (hw : Opens w) : afterMember fuel now t = members fuel now w := by
  rw [afterMember, skipBlanks_cons h rfl, ← hw.skipBlanks_eq hu]
  rfl

end

/-! #### Lengths -/

theorem Blanks.length_le {s rest : List Char} (h : Blanks s rest) : rest.length ≤ s.length := by
  obtain ⟨blank, rfl, -⟩ := h
  simp

theorem Blanks.length_lt {s rest : List Char} {c : Char} (h : Blanks s (c :: rest)) :
    rest.length < s.length := h.length_le

theorem Begins.length_pos {spelled : List Char} (h : Begins spelled) : 0 < spelled.length := by
  obtain ⟨c, tail, rfl, -⟩ := h
  exact Nat.succ_pos _

mutual

/-- A value takes a character at least. -/
theorem Spells.length_lt : ∀ {s rest : List Char} {v : Value}, Spells s v rest →
    rest.length < s.length
  | _, _, _, .atom hatom => by
    have hpos := (begins_of_atom hatom).length_pos
    rw [List.length_append]
    omega
  | _, _, _, .emptyList hend | _, _, _, .emptyObject hend => by
    have hlt := hend.length_lt
    rw [List.length_cons]
    omega
  | _, _, _, .list hblanks hitems => by
    have hle := hblanks.length_le
    have hlt := hitems.length_lt
    rw [List.length_cons]
    omega
  | _, _, _, .object hblanks hmembers => by
    have hle := hblanks.length_le
    have hlt := hmembers.length_lt
    rw [List.length_cons]
    omega

theorem SpellsItems.length_lt : ∀ {s rest : List Char} {all : List Value},
    SpellsItems s all rest → rest.length < s.length
  | _, _, _, .last hfirst hend => hend.length_lt.trans hfirst.length_lt
  | _, _, _, .cons hfirst hcomma hblanks hmore => by
    have hnext := hblanks.length_le.trans_lt hcomma.length_lt
    exact hmore.length_lt.trans (hnext.trans hfirst.length_lt)

theorem SpellsMembers.length_lt : ∀ {s rest : List Char} {new : List (Text × Value)},
    SpellsMembers s new rest → rest.length < s.length
  | _, _, _, .last hname hcolon hblanks hfirst hend => by
    have hvalue := hblanks.length_le.trans_lt hcolon.length_lt
    have hlt := hend.length_lt.trans hfirst.length_lt
    rw [List.length_append]
    omega
  | _, _, _, .cons hname hcolon hblanks hfirst hcomma hblanks' hmore => by
    have hvalue := hblanks.length_le.trans_lt hcolon.length_lt
    have hnext := hblanks'.length_le.trans_lt hcomma.length_lt
    have hlt := hmore.length_lt.trans (hnext.trans hfirst.length_lt)
    rw [List.length_append]
    omega

end

/-! #### What follows a value -/

theorem ends_nil : Ends [] := nofun

theorem ends_cons {c : Char} (h : c.isDigit = false ∧ c ≠ '.' ∧ c ≠ 'e' ∧ c ≠ 'E')
    (rest : List Char) : Ends (c :: rest) := by
  rintro d ⟨⟩
  exact h

/-- Blank space ends a number. -/
theorem ends_of_blanks {s rest : List Char} (h : Blanks s rest) (hrest : Ends rest) : Ends s := by
  obtain ⟨blank, rfl, hblank⟩ := h
  rcases blank with _ | ⟨c, blank⟩
  · exact hrest
  · have hc := hblank c List.mem_cons_self
    simp only [isBlank, Bool.or_eq_true, beq_iff_eq] at hc
    refine ends_cons ?_ _
    rcases hc with ((rfl | rfl) | rfl) | rfl <;> decide

/-! #### Reading -/

mutual

/-- Every value that is spelled is read, if nothing goes on with it. -/
theorem value_of_spells : ∀ {s rest : List Char} {v : Value}, Spells s v rest → Ends rest →
    ∀ fuel, 2 * s.length < fuel → value fuel s = .ok (v, rest)
  | _, rest, _, .atom hatom, hrest, fuel + 1, _ => by
    rw [value_of_begins (begins_of_atom hatom), atom_of_spelled hatom hrest]
  | _, _, _, .emptyList hend, _, fuel + 1, _ => value_emptyList fuel hend
  | _, _, _, .list hblanks hitems, _, fuel + 1, hfuel => by
    have hle := hblanks.length_le
    rw [List.length_cons] at hfuel
    rw [value_items fuel hblanks (.of_spellsItems hitems),
      items_of_spells hitems fuel (by omega)]
    rfl
  | _, _, _, .emptyObject hend, _, fuel + 1, _ => value_emptyObject fuel hend
  | _, _, _, .object hblanks hmembers, _, fuel + 1, hfuel => by
    have hle := hblanks.length_le
    rw [List.length_cons] at hfuel
    rw [value_members fuel hblanks (.of_spellsMembers hmembers),
      members_of_spells hmembers [] fuel (by omega)]
    rfl

theorem items_of_spells : ∀ {s rest : List Char} {all : List Value}, SpellsItems s all rest →
    ∀ fuel, 2 * s.length + 1 < fuel → items fuel s = .ok (all, rest)
  | _, rest, _, .last hfirst hend, fuel + 1, hfuel => by
    have hends := ends_of_blanks hend (ends_cons (by decide) rest)
    rw [items_succ, value_of_spells hfirst hends fuel (by omega)]
    exact afterItem_end fuel _ hend
  | _, _, _, .cons hfirst hcomma hblanks hmore, fuel + 1, hfuel => by
    have hends := ends_of_blanks hcomma (ends_cons (by decide) _)
    have hlt := (hblanks.length_le.trans_lt hcomma.length_lt).trans hfirst.length_lt
    rw [items_succ, value_of_spells hfirst hends fuel (by omega), Except.bind,
      afterItem_comma fuel _ hcomma hblanks (.of_spellsItems hmore),
      items_of_spells hmore fuel (by omega)]
    rfl

theorem members_of_spells : ∀ {s rest : List Char} {new : List (Text × Value)},
    SpellsMembers s new rest → ∀ before fuel, 2 * s.length + 1 < fuel →
      members fuel before s = .ok (gathered before new, rest)
  | _, rest, _, .last hname hcolon hblanks hfirst hend, before, fuel + 1, hfuel => by
    have hends := ends_of_blanks hend (ends_cons (by decide) rest)
    have hlt := hblanks.length_le.trans_lt hcolon.length_lt
    rw [List.length_append] at hfuel
    rw [members_of_name fuel before hname hcolon hblanks (.of_spells hfirst),
      value_of_spells hfirst hends fuel (by omega)]
    exact afterMember_end fuel _ hend
  | _, _, _, .cons hname hcolon hblanks hfirst hcomma hblanks' hmore, before, fuel + 1, hfuel => by
    have hends := ends_of_blanks hcomma (ends_cons (by decide) _)
    have hlt := hblanks.length_le.trans_lt hcolon.length_lt
    have hlt' := (hblanks'.length_le.trans_lt hcomma.length_lt).trans hfirst.length_lt
    rw [List.length_append] at hfuel
    rw [members_of_name fuel before hname hcolon hblanks (.of_spells hfirst),
      value_of_spells hfirst hends fuel (by omega), Except.bind,
      afterMember_comma fuel _ hcomma hblanks' (.of_spellsMembers hmore),
      members_of_spells hmore _ fuel (by omega)]
    rfl

end

section

variable {count : Nat}

mutual

/-- Every integer of too many digits is met that all in front of it leads to. -/
theorem value_of_breaks : ∀ {s : List Char}, Breaks count s →
    ∀ fuel, 2 * s.length < fuel → value fuel s = .error (.longInteger count)
  | s, .integer hlong, fuel + 1, _ => by
    have hread := value_of_begins (begins_of_longInteger hlong) [] fuel
    rw [List.append_nil] at hread
    rw [hread, atom_of_longInteger hlong]
  | _, .list hblanks hitems, fuel + 1, hfuel => by
    have hle := hblanks.length_le
    rw [List.length_cons] at hfuel
    rw [value_items fuel hblanks (.of_breaksItems hitems),
      items_of_breaks hitems fuel (by omega)]
    rfl
  | _, .object hblanks hmembers, fuel + 1, hfuel => by
    have hle := hblanks.length_le
    rw [List.length_cons] at hfuel
    rw [value_members fuel hblanks (.of_breaksMembers hmembers),
      members_of_breaks hmembers [] fuel (by omega)]
    rfl

theorem items_of_breaks : ∀ {s : List Char}, BreaksItems count s →
    ∀ fuel, 2 * s.length + 1 < fuel → items fuel s = .error (.longInteger count)
  | _, .here hfirst, fuel + 1, hfuel => by
    rw [items_succ, value_of_breaks hfirst fuel (by omega)]
    rfl
  | _, .later hfirst hcomma hblanks hmore, fuel + 1, hfuel => by
    have hends := ends_of_blanks hcomma (ends_cons (by decide) _)
    have hlt := (hblanks.length_le.trans_lt hcomma.length_lt).trans hfirst.length_lt
    rw [items_succ, value_of_spells hfirst hends fuel (by omega), Except.bind,
      afterItem_comma fuel _ hcomma hblanks (.of_breaksItems hmore),
      items_of_breaks hmore fuel (by omega)]
    rfl

theorem members_of_breaks : ∀ {s : List Char}, BreaksMembers count s →
    ∀ before fuel, 2 * s.length + 1 < fuel → members fuel before s = .error (.longInteger count)
  | _, .here hname hcolon hblanks hfirst, before, fuel + 1, hfuel => by
    have hlt := hblanks.length_le.trans_lt hcolon.length_lt
    rw [List.length_append] at hfuel
    rw [members_of_name fuel before hname hcolon hblanks (.of_breaks hfirst),
      value_of_breaks hfirst fuel (by omega)]
    rfl
  | _, .later hname hcolon hblanks hfirst hcomma hblanks' hmore, before, fuel + 1, hfuel => by
    have hends := ends_of_blanks hcomma (ends_cons (by decide) _)
    have hlt := hblanks.length_le.trans_lt hcolon.length_lt
    have hlt' := (hblanks'.length_le.trans_lt hcomma.length_lt).trans hfirst.length_lt
    rw [List.length_append] at hfuel
    rw [members_of_name fuel before hname hcolon hblanks (.of_spells hfirst),
      value_of_spells hfirst hends fuel (by omega), Except.bind,
      afterMember_comma fuel _ hcomma hblanks' (.of_breaksMembers hmore)]
    exact members_of_breaks hmore _ fuel (by omega)

end

end

/-! ### Documents -/

theorem document_eq (s : String) : document s =
    (value (2 * s.toList.length + 2) (skipBlanks s.toList)).bind fun r ↦
      if (skipBlanks r.2).isEmpty then .ok r.1 else .error .malformed := rfl

/-- A text is read as a document if and only if it spells one, and then as that one. -/
theorem document_eq_ok_iff (s : String) (v : Value) :
    document s = .ok v ↔ SpellsDocument s.toList v := by
  rw [document_eq]
  constructor
  · intro h
    have hsound := (sound (2 * s.toList.length + 2)).value (skipBlanks s.toList)
    rcases hvalue : value (2 * s.toList.length + 2) (skipBlanks s.toList) with problem | ⟨w, rest⟩
    · rw [hvalue] at h
      cases h
    · rw [hvalue] at h hsound
      rw [Except.bind] at h
      split at h
      next hempty =>
        cases h
        exact ⟨_, rest, blanks_skipBlanks _, hsound,
          blanks_of_skipBlanks (List.isEmpty_iff.mp hempty)⟩
      next => cases h
  · rintro ⟨t, rest, hblanks, hspelled, hend⟩
    have hle := hblanks.length_le
    have hrest : skipBlanks rest = [] := skipBlanks_of_blanks hend nofun
    rw [(Opens.of_spells hspelled).skipBlanks_eq hblanks,
      value_of_spells hspelled (ends_of_blanks hend ends_nil) _ (by omega), Except.bind, hrest]
    rfl

/-- Reading meets an integer of too many digits if and only if the text breaks there. -/
theorem document_eq_longInteger_iff (s : String) (count : Nat) :
    document s = .error (.longInteger count) ↔ BreaksDocument count s.toList := by
  rw [document_eq]
  constructor
  · intro h
    have hsound := (sound (2 * s.toList.length + 2)).value (skipBlanks s.toList)
    rcases hvalue : value (2 * s.toList.length + 2) (skipBlanks s.toList) with problem | ⟨w, rest⟩
    · rw [hvalue] at h hsound
      cases h
      exact ⟨_, blanks_skipBlanks _, hsound⟩
    · rw [hvalue, Except.bind] at h
      split at h <;> cases h
  · rintro ⟨t, hblanks, hbreaks⟩
    have hle := hblanks.length_le
    rw [(Opens.of_breaks hbreaks).skipBlanks_eq hblanks, value_of_breaks hbreaks _ (by omega)]
    rfl

end MouseControl.Json
