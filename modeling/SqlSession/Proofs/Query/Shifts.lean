/-
What a shift of a date is read from.

A shift is meant to be a text of its own: a sign, a number and a unit letter, with at most one space on either side of the
number (`Written`). But the text is searched, and what is read is its first number with the sign in front of it and the
letter behind it (`Reads`); all else in the text is passed over, and a text without a number shifts nothing. Main results:
- `find?_reads`, `find?_eq_none`: the search finds what is read, and nothing without a digit;
- `reads_of_digit`: something is read from every text with a digit;
- `written_iff`: a text is a shift if it is read with nothing in front and nothing behind;
- `first_number_shifts`: so a text that is no shift is refused only if the letter behind its first number is no unit.
-/
import SqlSession.Query.Operand
import Mathlib.Data.List.TakeWhile
import Mathlib.Tactic

namespace SqlSession.Query.Interval

/-! ## Shifts as they are written -/

def IsSign (c : Char) : Prop := c = '+' ∨ c = '-'

/-- the digits of a number -/
structure IsNumber (cs : List Char) : Prop where
  nonempty : cs ≠ []
  digits : ∀ c ∈ cs, c.isDigit = true

/-- the unit of a shift, a day if there is no letter -/
def Shift.unit? (shift : Shift) : Option String := units.lookup (shift.letter.getD 'd')

/-- the shifted base -/
def Shift.applied (shift : Shift) (base unit : String) : String :=
  base ++ " " ++ (shift.sign.getD '+').toString ++ " interval " ++ String.ofList shift.amount ++ " " ++ unit

/-- at most one space -/
def spacings : List (List Char) := [[], [' ']]

/-- the characters are this shift and nothing else -/
structure Written (cs : List Char) (shift : Shift) : Prop where
  sign : ∀ c ∈ shift.sign, IsSign c
  amount : IsNumber shift.amount
  letter : ∀ c ∈ shift.letter, c ∈ ['s', 'm', 'h', 'd', 'M', 'Y']
  whole : ∃ gap ∈ spacings, ∃ space ∈ spacings,
    cs = shift.sign.toList ++ gap ++ shift.amount ++ space ++ shift.letter.toList

/-! ## Shifts as they are read -/

/-- what stands in front of a number: its sign, directly or with a space between, and what is passed over before that -/
inductive Lead (before : List Char) : Option Char → List Char → Prop where
  | signed {c : Char} (sign : IsSign c) : Lead before (some c) (before ++ [c])
  | spaced {c : Char} (sign : IsSign c) : Lead before (some c) (before ++ [c, ' '])
  | space (bare : ∀ c ∈ before.getLast?, ¬IsSign c) : Lead before none (before ++ [' '])
  | bare (bare : ∀ c ∈ before.getLast?, ¬IsSign c ∧ c ≠ ' ') : Lead before none before

/-- what stands behind a number: its letter, directly or with a space between, and what is passed over after that -/
inductive Trail (after : List Char) : Option Char → List Char → Prop where
  | lettered {c : Char} (letter : c.isAlpha = true) : Trail after (some c) (c :: after)
  | spaced {c : Char} (letter : c.isAlpha = true) : Trail after (some c) (' ' :: c :: after)
  | space (bare : ∀ c ∈ after.head?, c.isAlpha = false) : Trail after none (' ' :: after)
  | bare (bare : ∀ c ∈ after.head?, c.isAlpha = false ∧ c ≠ ' ') : Trail after none after

/-- the shift is what belongs to the first number in the characters; the rest is passed over -/
structure Reads (cs before : List Char) (shift : Shift) (after : List Char) : Prop where
  amount : IsNumber shift.amount
  split : ∃ lead tail, cs = lead ++ shift.amount ++ tail ∧ Lead before shift.sign lead ∧
    Trail after shift.letter tail ∧ (∀ c ∈ lead, c.isDigit = false) ∧ ∀ c ∈ tail.head?, c.isDigit = false

/-! ## The search -/

theorem IsSign.not_digit {c : Char} (h : IsSign c) : c.isDigit = false := by
  rcases h with rfl | rfl <;> decide

/-- a digit belongs to the number -/
theorem not_sign_of_digit {c : Char} (h : c.isDigit = true) : ¬IsSign c ∧ c ≠ ' ' := by
  constructor
  · intro hsign
    rw [hsign.not_digit] at h
    cases h
  · rintro rfl
    cases h

theorem splitSign_sign {c : Char} (h : IsSign c) (cs : List Char) : splitSign (c :: cs) = (some c, cs) := by
  rcases h with rfl | rfl <;> rfl

theorem splitSign_other {cs : List Char} (h : ∀ c ∈ cs.head?, ¬IsSign c) : splitSign cs = (none, cs) := by
  unfold splitSign
  split
  · exact absurd (.inl rfl) (h '+' rfl)
  · exact absurd (.inr rfl) (h '-' rfl)
  · rfl

theorem dropSpace_other {cs : List Char} (h : ∀ c ∈ cs.head?, c ≠ ' ') : dropSpace cs = cs := by
  unfold dropSpace
  split
  · exact absurd rfl (h ' ' rfl)
  · rfl

/-- what starts at the characters is no shift unless a digit comes behind a sign and a space -/
theorem atStart?_eq_none {cs : List Char} (h : ∀ c ∈ (dropSpace (splitSign cs).2).head?, c.isDigit = false) :
    atStart? cs = none := by
  have hnone : (dropSpace (splitSign cs).2).takeWhile Char.isDigit = [] := by
    cases hrest : dropSpace (splitSign cs).2 with
    | nil => rfl
    | cons c rest => exact List.takeWhile_cons_of_neg (by simp [h c (by simp [hrest])])
  simp [atStart?, hnone]

theorem Trail.letter {after tail : List Char} {letter : Option Char} (h : Trail after letter tail) :
    (dropSpace tail).head?.filter Char.isAlpha = letter := by
  cases h with
  | @lettered c hc =>
    have hspace : c ≠ ' ' := by
      rintro rfl
      cases hc
    rw [dropSpace_other (by simpa using hspace)]
    simp [hc]
  | spaced hc => simp [dropSpace, hc]
  | space hbare =>
    rw [dropSpace, Option.filter_eq_none_iff]
    simpa using hbare
  | bare hbare =>
    rw [dropSpace_other fun c hc => (hbare c hc).2, Option.filter_eq_none_iff]
    intro c hc
    simp [(hbare c hc).1]

/-- a shift with nothing in front of it -/
theorem atStart?_number {amount tail : List Char} {sign letter : Option Char} {lead after : List Char}
    (hamount : IsNumber amount) (hlead : Lead [] sign lead) (htrail : Trail after letter tail)
    (hend : ∀ c ∈ tail.head?, c.isDigit = false) :
    atStart? (lead ++ amount ++ tail) = some ⟨sign, amount, letter⟩ := by
  obtain ⟨first, more, rfl⟩ := List.exists_cons_of_ne_nil hamount.nonempty
  have hfirst : ¬IsSign first ∧ first ≠ ' ' := not_sign_of_digit (hamount.digits first List.mem_cons_self)
  have hrest : dropSpace (splitSign (lead ++ (first :: more) ++ tail)).2 = first :: more ++ tail ∧
      (splitSign (lead ++ (first :: more) ++ tail)).1 = sign := by
    have hnumber : dropSpace (first :: more ++ tail) = first :: more ++ tail :=
      dropSpace_other (by simpa using hfirst.2)
    cases hlead with
    | signed hs => simpa [splitSign_sign hs] using hnumber
    | spaced hs => simp [splitSign_sign hs, dropSpace]
    | space => exact ⟨rfl, rfl⟩
    | bare =>
      rw [List.nil_append, splitSign_other (by simpa using hfirst.1)]
      exact ⟨hnumber, rfl⟩
  have htake : (first :: more ++ tail).takeWhile Char.isDigit = first :: more := by
    have htail : tail.takeWhile Char.isDigit = [] := by
      cases tail with
      | nil => rfl
      | cons c rest => exact List.takeWhile_cons_of_neg (by simp [hend c (by simp)])
    rw [List.takeWhile_append_of_pos hamount.digits, htail, List.append_nil]
  simp only [atStart?, hrest.1, hrest.2, htake, List.drop_left]
  simp [htrail.letter]

/-- behind a sign and a space there is still a character of the lead, unless the lead is no more than these -/
theorem lead_nil_or (lead rest : List Char) :
    (∃ sign, Lead [] sign lead) ∨ ∃ c ∈ lead, (dropSpace (splitSign (lead ++ rest)).2).head? = some c := by
  match lead with
  | [] => exact .inl ⟨none, .bare (by simp)⟩
  | [c] =>
    by_cases hsign : IsSign c
    · exact .inl ⟨some c, .signed hsign⟩
    by_cases hspace : c = ' '
    · exact .inl ⟨none, hspace ▸ .space (by simp)⟩
    · refine .inr ⟨c, by simp, ?_⟩
      rw [splitSign_other (by simpa using hsign), dropSpace_other (by simpa using hspace)]
      rfl
  | c :: d :: more =>
    by_cases hsign : IsSign c
    · by_cases hspace : d = ' '
      · subst hspace
        cases more with
        | nil => exact .inl ⟨some c, .spaced hsign⟩
        | cons e more => exact .inr ⟨e, by simp, by simp [splitSign_sign hsign, dropSpace]⟩
      · refine .inr ⟨d, by simp, ?_⟩
        rw [List.cons_append, splitSign_sign hsign, dropSpace_other (by simpa using hspace)]
        rfl
    · rw [splitSign_other (by simpa using hsign)]
      by_cases hspace : c = ' '
      · exact .inr ⟨d, by simp, by simp [hspace, dropSpace]⟩
      · refine .inr ⟨c, by simp, ?_⟩
        rw [dropSpace_other (by simpa using hspace)]
        rfl

namespace Lead

variable {before lead : List Char} {sign : Option Char}

theorem exists_of (lead : List Char) : ∃ before sign, Lead before sign lead := by
  rcases List.eq_nil_or_concat lead with rfl | ⟨front, c, rfl⟩
  · exact ⟨[], none, .bare (by simp)⟩
  by_cases hsign : IsSign c
  · exact ⟨front, some c, by simpa using .signed hsign⟩
  by_cases hspace : c = ' '
  · subst hspace
    rcases List.eq_nil_or_concat front with rfl | ⟨more, d, rfl⟩
    · exact ⟨[], none, .space (by simp)⟩
    by_cases hd : IsSign d
    · exact ⟨more, some d, by simpa using .spaced hd⟩
    · have hbare : ∀ c ∈ (more ++ [d]).getLast?, ¬IsSign c := by simpa using hd
      exact ⟨more ++ [d], none, by simpa using space hbare⟩
  · exact ⟨_, none, .bare (by simpa using ⟨hsign, hspace⟩)⟩

/-- a lead that passes nothing over is a sign and a space, or less -/
theorem nil_iff : Lead [] sign lead ↔ (∀ c ∈ sign, IsSign c) ∧ ∃ gap ∈ spacings, lead = sign.toList ++ gap := by
  constructor
  · rintro (hs | hs | - | -)
    · exact ⟨by simpa using hs, [], by decide, rfl⟩
    · exact ⟨by simpa using hs, [' '], by decide, rfl⟩
    · exact ⟨by simp, [' '], by decide, rfl⟩
    · exact ⟨by simp, [], by decide, rfl⟩
  · rintro ⟨hsign, gap, hgap, rfl⟩
    simp only [spacings, List.mem_cons, List.not_mem_nil, or_false] at hgap
    cases sign with
    | none =>
      rcases hgap with rfl | rfl
      · exact .bare (by simp)
      · exact .space (by simp)
    | some c =>
      rcases hgap with rfl | rfl
      · exact .signed (hsign c rfl)
      · exact .spaced (hsign c rfl)

/-- a lead that is no more than a sign and a space passes nothing over -/
theorem before_eq_nil {sign' : Option Char} (h : Lead before sign lead) (h' : Lead [] sign' lead) : before = [] := by
  have hspace : ¬IsSign ' ' := by
    rintro (h | h) <;> cases h
  have hshort : ∀ c d : Char, before ++ [c] = [d] → before = [] := by
    intro c d heq
    simpa using congrArg List.length heq
  have hlast : ∀ c d : Char, before ++ [c] = [d, ' '] → before = [d] ∧ c = ' ' := by
    intro c d heq
    obtain ⟨hbefore, hc⟩ := List.append_inj' (show before ++ [c] = [d] ++ [' '] from heq) rfl
    exact ⟨hbefore, List.singleton_inj.1 hc⟩
  have hlong : ∀ c d e : Char, before ++ [c, d] ≠ [e] := fun c d e heq => by simpa using congrArg List.length heq
  obtain ⟨hsign, gap, hgap, hlead⟩ := nil_iff.1 h'
  simp only [spacings, List.mem_cons, List.not_mem_nil, or_false] at hgap
  cases sign' with
  | none =>
    rcases hgap with rfl | rfl
    · cases h with
      | bare hbare => exact hlead
      | _ => simp at hlead
    · cases h with
      | signed hs => exact hshort _ _ hlead
      | spaced hs => exact absurd hlead (hlong _ _ _)
      | space hbare => exact hshort _ _ hlead
      | bare hbare => exact absurd rfl (hbare ' ' (by simp [hlead])).2
  | some d =>
    have hd : IsSign d := hsign d rfl
    rcases hgap with rfl | rfl
    · cases h with
      | signed hs => exact hshort _ _ hlead
      | spaced hs => exact absurd hlead (hlong _ _ _)
      | space hbare => exact hshort _ _ hlead
      | bare hbare => exact absurd hd (hbare d (by simp [hlead])).1
    · cases h with
      | signed hs => exact absurd ((hlast _ _ hlead).2 ▸ hs) hspace
      | spaced hs => simpa using congrArg List.length hlead
      | space hbare => exact absurd hd (hbare d (by simp [(hlast _ _ hlead).1]))
      | bare hbare => exact absurd rfl (hbare ' ' (by simp [hlead])).2

/-- the lead of a number is that of the text without its first character, if that is passed over -/
theorem tail {b : Char} (h : Lead (b :: before) sign lead) : ∃ rest, lead = b :: rest ∧ Lead before sign rest := by
  have hlast : ∀ c ∈ before.getLast?, c ∈ (b :: before).getLast? := by
    intro c hc
    rw [List.getLast?_cons, hc]
    rfl
  cases h with
  | signed hs => exact ⟨_, rfl, .signed hs⟩
  | spaced hs => exact ⟨_, rfl, .spaced hs⟩
  | space hbare => exact ⟨_, rfl, .space fun c hc => hbare c (hlast c hc)⟩
  | bare hbare => exact ⟨_, rfl, .bare fun c hc => hbare c (hlast c hc)⟩

end Lead

theorem Trail.nil_iff {tail : List Char} {letter : Option Char} :
    Trail [] letter tail ↔ (∀ c ∈ letter, c.isAlpha = true) ∧ ∃ space ∈ spacings, tail = space ++ letter.toList := by
  constructor
  · rintro (hc | hc | - | -)
    · exact ⟨by simpa using hc, [], by decide, rfl⟩
    · exact ⟨by simpa using hc, [' '], by decide, rfl⟩
    · exact ⟨by simp, [' '], by decide, rfl⟩
    · exact ⟨by simp, [], by decide, rfl⟩
  · rintro ⟨hletter, space, hspace, rfl⟩
    simp only [spacings, List.mem_cons, List.not_mem_nil, or_false] at hspace
    cases letter with
    | none =>
      rcases hspace with rfl | rfl
      · exact .bare (by simp)
      · exact .space (by simp)
    | some c =>
      rcases hspace with rfl | rfl
      · exact .lettered (hletter c rfl)
      · exact .spaced (hletter c rfl)

theorem Trail.exists_of (tail : List Char) : ∃ after letter, Trail after letter tail := by
  cases tail with
  | nil => exact ⟨[], none, .bare (by simp)⟩
  | cons c rest =>
    by_cases hletter : c.isAlpha = true
    · exact ⟨rest, some c, .lettered hletter⟩
    by_cases hspace : c = ' '
    · subst hspace
      cases rest with
      | nil => exact ⟨[], none, .space (by simp)⟩
      | cons d more =>
        by_cases hd : d.isAlpha = true
        · exact ⟨more, some d, .spaced hd⟩
        · exact ⟨d :: more, none, .space (by simpa using hd)⟩
    · exact ⟨c :: rest, none, .bare (by simp [hletter, hspace])⟩

/-! ## What is found -/

section

variable {cs before after : List Char} {shift : Shift}

/-- the search finds what is read; the induction is on what it passes over, where nothing starts -/
theorem find?_reads (h : Reads cs before shift after) : find? cs = some shift := by
  obtain ⟨hamount, lead, tail, rfl, hlead, htrail, hnone, hend⟩ := h
  induction before generalizing lead with
  | nil =>
    have hstart := atStart?_number hamount hlead htrail hend
    cases htext : lead ++ shift.amount ++ tail with
    | nil => simp [hamount.nonempty] at htext
    | cons c rest => rw [find?, ← htext, hstart, Option.some_or]
  | cons b before ih =>
    have hskip : atStart? (lead ++ (shift.amount ++ tail)) = none := by
      apply atStart?_eq_none
      intro c hc
      rcases lead_nil_or lead (shift.amount ++ tail) with ⟨sign, hnil⟩ | ⟨d, hd, hhead⟩
      · cases hlead.before_eq_nil hnil
      · obtain rfl := Option.some.inj (hhead.symm.trans hc)
        exact hnone d hd
    obtain ⟨rest, rfl, hrest⟩ := hlead.tail
    have hless : ∀ c ∈ rest, c.isDigit = false := fun c hc => hnone c (List.mem_cons_of_mem b hc)
    rw [List.append_assoc, List.cons_append, find?, ← List.cons_append, hskip, Option.none_or, ← List.append_assoc]
    exact ih rest hrest hless

theorem mem_of_mem_dropSpace {c : Char} (h : c ∈ dropSpace cs) : c ∈ cs := by
  unfold dropSpace at h
  split at h
  · exact List.mem_cons_of_mem _ h
  · exact h

theorem mem_of_mem_splitSign {c : Char} (h : c ∈ (splitSign cs).2) : c ∈ cs := by
  unfold splitSign at h
  split at h
  · exact List.mem_cons_of_mem _ h
  · exact List.mem_cons_of_mem _ h
  · exact h

theorem find?_eq_none (h : ∀ c ∈ cs, c.isDigit = false) : find? cs = none := by
  induction cs with
  | nil => rfl
  | cons c rest ih =>
    have hstart : atStart? (c :: rest) = none := by
      apply atStart?_eq_none
      intro d hd
      exact h d (mem_of_mem_splitSign (mem_of_mem_dropSpace (List.mem_of_mem_head? hd)))
    rw [find?, hstart, ih fun d hd => h d (List.mem_cons_of_mem c hd), Option.none_or]

theorem not_of_mem_head?_dropWhile {α : Type} {p : α → Bool} {l : List α} {a : α} (h : a ∈ (l.dropWhile p).head?) :
    p a = false := by
  have hnot := List.head?_dropWhile_not p l
  rw [Option.mem_def.1 h] at hnot
  simpa using hnot

/-- whatever has a digit has a first number -/
theorem reads_of_digit (h : ∃ c ∈ cs, c.isDigit = true) : ∃ before shift after, Reads cs before shift after := by
  obtain ⟨before, sign, hlead⟩ := Lead.exists_of (cs.takeWhile fun c => !c.isDigit)
  generalize hrest : cs.dropWhile (fun c => !c.isDigit) = rest
  obtain ⟨after, letter, htrail⟩ := Trail.exists_of (rest.dropWhile Char.isDigit)
  have hsplit : cs = (cs.takeWhile fun c => !c.isDigit) ++ rest.takeWhile Char.isDigit ++ rest.dropWhile Char.isDigit := by
    rw [List.append_assoc, List.takeWhile_append_dropWhile, ← hrest, List.takeWhile_append_dropWhile]
  have hnumber : rest.takeWhile Char.isDigit ≠ [] := by
    obtain ⟨c, hc, hdigit⟩ := h
    have hfound : rest ≠ [] := by
      rw [← hrest]
      intro hnil
      have hall := List.dropWhile_eq_nil_iff.1 hnil c hc
      simp [hdigit] at hall
    obtain ⟨first, more, rfl⟩ := List.exists_cons_of_ne_nil hfound
    have hfirst : (!first.isDigit) = false :=
      not_of_mem_head?_dropWhile (p := fun c => !c.isDigit) (l := cs) (by simp [hrest])
    rw [List.takeWhile_cons_of_pos (by simpa using hfirst)]
    exact List.cons_ne_nil _ _
  refine ⟨before, ⟨sign, rest.takeWhile Char.isDigit, letter⟩, after, ⟨hnumber, ?_⟩, _, _, hsplit, hlead, htrail, ?_, ?_⟩
  · intro c hc
    exact List.all_eq_true.1 List.all_takeWhile c hc
  · intro c hc
    simpa using List.all_eq_true.1 List.all_takeWhile c hc
  · intro c hc
    exact not_of_mem_head?_dropWhile hc

theorem unit?_ne_none : shift.unit? ≠ none ↔ ∀ c ∈ shift.letter, c ∈ ['s', 'm', 'h', 'd', 'M', 'Y'] := by
  have hkeys : ∀ c, units.lookup c ≠ none ↔ c ∈ units.map Prod.fst := by
    intro c
    simp [List.lookup_eq_none_iff]
  rw [Shift.unit?, hkeys]
  cases shift.letter with
  | none => simp [units]
  | some c =>
    rw [Option.getD_some]
    constructor
    · rintro hc _ ⟨⟩
      exact hc
    · intro h
      exact h c rfl

theorem letter_cases {c : Char} (h : c ∈ ['s', 'm', 'h', 'd', 'M', 'Y']) : c.isAlpha = true ∧ c.isDigit = false := by
  fin_cases h <;> decide

/-- a text is a shift if and only if it is read with nothing in front and nothing behind, and with a unit -/
theorem written_iff : Written cs shift ↔ Reads cs [] shift [] ∧ shift.unit? ≠ none := by
  rw [unit?_ne_none]
  constructor
  · intro h
    obtain ⟨gap, hgap, space, hspace, hwhole⟩ := h.whole
    have hspaces : ∀ spacing ∈ spacings, ∀ c ∈ spacing, c.isDigit = false := by simp [spacings]
    refine ⟨⟨h.amount, shift.sign.toList ++ gap, space ++ shift.letter.toList, by simpa using hwhole,
      Lead.nil_iff.2 ⟨h.sign, gap, hgap, rfl⟩,
      Trail.nil_iff.2 ⟨fun c hc => (letter_cases (h.letter c hc)).1, space, hspace, rfl⟩, ?_, ?_⟩, h.letter⟩
    · intro c hc
      rcases List.mem_append.1 hc with hc | hc
      · exact (h.sign c (by simpa using hc)).not_digit
      · exact hspaces gap hgap c hc
    · intro c hc
      rcases List.mem_append.1 (List.mem_of_mem_head? hc) with hc | hc
      · exact hspaces space hspace c hc
      · exact (letter_cases (h.letter c (by simpa using hc))).2
  · rintro ⟨h, hletter⟩
    obtain ⟨lead, tail, hsplit, hlead, htrail, -, -⟩ := h.split
    obtain ⟨hsign, gap, hgap, rfl⟩ := Lead.nil_iff.1 hlead
    obtain ⟨-, space, hspace, rfl⟩ := Trail.nil_iff.1 htrail
    exact ⟨hsign, h.amount, hletter, gap, hgap, space, hspace, by simpa using hsplit⟩

end

/-! ## What is answered -/

variable {diff base : String}

theorem apply_reads {before after : List Char} {shift : Shift} (h : Reads diff.toList before shift after) :
    apply (some diff) base = match shift.unit? with
      | some unit => .ok (shift.applied base unit)
      | none => .error (.invalidArgument ("invalid interval type in '" ++ diff ++ "'")) := by
  have hfound : ((some diff).bind fun diff => (find? diff.toList).map fun shift => (diff, shift)) = some (diff, shift) := by
    rw [Option.bind_some, find?_reads h, Option.map_some]
  rw [apply, hfound]
  unfold Shift.applied Shift.unit?
  dsimp only
  cases units.lookup (shift.letter.getD 'd') <;> rfl

/-- without a number there is nothing to read, and nothing is shifted -/
theorem apply_undigited (h : ∀ c ∈ diff.toList, c.isDigit = false) : apply (some diff) base = .ok base := by
  simp only [apply, Option.bind_some, find?_eq_none h, Option.map_none]

/-- the text is taken for what it is as a whole: a shift if it is written as one, and refused otherwise -/
structure TakenWhole (diff base : String) : Prop where
  shift : ∀ shift, Written diff.toList shift →
    ∃ unit, shift.unit? = some unit ∧ apply (some diff) base = .ok (shift.applied base unit)
  refusal : (∀ shift, ¬Written diff.toList shift) → ∃ reason, apply (some diff) base = .error (.invalidArgument reason)

theorem takenWhole_iff :
    TakenWhole diff base ↔ (∃ shift, Written diff.toList shift) ∨
      ∃ before shift after, Reads diff.toList before shift after ∧ shift.unit? = none := by
  constructor
  · intro h
    by_cases hwritten : ∃ shift, Written diff.toList shift
    · exact .inl hwritten
    obtain ⟨reason, hreason⟩ := h.refusal (not_exists.1 hwritten)
    by_cases hdigit : ∃ c ∈ diff.toList, c.isDigit = true
    · obtain ⟨before, shift, after, hreads⟩ := reads_of_digit hdigit
      refine .inr ⟨before, shift, after, hreads, ?_⟩
      rw [apply_reads hreads] at hreason
      cases hunit : shift.unit? with
      | none => rfl
      | some unit =>
        rw [hunit] at hreason
        cases hreason
    · rw [apply_undigited (by simpa using hdigit)] at hreason
      cases hreason
  · intro h
    constructor
    · intro shift hwritten
      obtain ⟨hreads, hunit⟩ := written_iff.1 hwritten
      obtain ⟨unit, hunit⟩ := Option.ne_none_iff_exists'.1 hunit
      exact ⟨unit, hunit, by rw [apply_reads hreads, hunit]⟩
    · intro hnot
      obtain ⟨before, shift, after, hreads, hunit⟩ := h.resolve_left (not_exists.2 hnot)
      exact ⟨_, by rw [apply_reads hreads, hunit]⟩

/-- **The first number shifts.** A text with a digit is read for its first number, with the sign in front of that and the
letter behind it, and it is refused only if this letter is no unit. What stands before and after is passed over, and a
text without a digit shifts nothing. A text is a shift if nothing is passed over and the letter is a unit. So the texts
that are taken as a whole, as shifts or not at all, are the shifts and those whose first letter behind the first number is
no unit. -/
theorem first_number_shifts (diff base : String) :
    (∀ before shift after, Reads diff.toList before shift after →
      apply (some diff) base = match shift.unit? with
        | some unit => .ok (shift.applied base unit)
        | none => .error (.invalidArgument ("invalid interval type in '" ++ diff ++ "'"))) ∧
    ((∃ before shift after, Reads diff.toList before shift after) ↔ ∃ c ∈ diff.toList, c.isDigit = true) ∧
    ((∀ c ∈ diff.toList, c.isDigit = false) → apply (some diff) base = .ok base) ∧
    (∀ shift, Written diff.toList shift ↔ Reads diff.toList [] shift [] ∧ shift.unit? ≠ none) ∧
    (TakenWhole diff base ↔ (∃ shift, Written diff.toList shift) ∨
      ∃ before shift after, Reads diff.toList before shift after ∧ shift.unit? = none) ∧
    Operand.now (some diff) = (apply (some diff) "NOW()").map fun expression => .func expression [] := by
  refine ⟨fun before shift after h => apply_reads h, ⟨?_, reads_of_digit⟩, apply_undigited, fun shift => written_iff,
    takenWhole_iff, ?_⟩
  · rintro ⟨before, shift, after, h⟩
    obtain ⟨lead, tail, hsplit, -⟩ := h.split
    obtain ⟨first, more, hamount⟩ := List.exists_cons_of_ne_nil h.amount.nonempty
    refine ⟨first, ?_, h.amount.digits first (by simp [hamount])⟩
    simp [hsplit, hamount]
  · rw [Operand.now]
    cases apply (some diff) "NOW()" <;> rfl

/-- months are read as minutes, and the words around them are passed over -/
theorem first_number_shifts_months :
    Reads "about +5 months".toList "about ".toList ⟨some '+', ['5'], some 'm'⟩ "onths".toList ∧
      apply (some "about +5 months") "NOW()" = .ok "NOW() + interval 5 minute" ∧
      ¬TakenWhole "about +5 months" "NOW()" := by
  have hnumber : IsNumber ['5'] := ⟨by simp, by simp⟩
  have hfront : ∀ c ∈ "about +".toList, c.isDigit = false := by simp
  have hbehind : ∀ c ∈ " months".toList.head?, c.isDigit = false := by
    rintro _ ⟨⟩
    decide
  have hreads : Reads "about +5 months".toList "about ".toList ⟨some '+', ['5'], some 'm'⟩ "onths".toList :=
    ⟨hnumber, "about +".toList, " months".toList, by decide, .signed (.inl rfl), .spaced (by decide), hfront, hbehind⟩
  obtain ⟨hanswer, -, -, hwritten, hwhole, -⟩ := first_number_shifts "about +5 months" "NOW()"
  refine ⟨hreads, hanswer _ _ _ hreads, fun htaken => ?_⟩
  have honly : ∀ {before shift after}, Reads "about +5 months".toList before shift after →
      shift = ⟨some '+', ['5'], some 'm'⟩ :=
    fun h => Option.some.inj ((find?_reads h).symm.trans (find?_reads hreads))
  rcases hwhole.1 htaken with ⟨shift, hshift⟩ | ⟨before, shift, after, hother, hunit⟩
  · obtain rfl := honly ((hwritten shift).1 hshift).1
    obtain ⟨gap, hgap, space, hspace, hsplit⟩ := hshift.whole
    revert hsplit
    revert space
    revert gap
    decide
  · obtain rfl := honly hother
    cases hunit

end SqlSession.Query.Interval
