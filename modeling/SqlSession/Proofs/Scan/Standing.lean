/-
Where a scan stands between the parts of a statement.

Parts are separated by spaces, and behind a space a scan has nothing in mind but a literal or a comment that is open. So
what a part means for those behind it is the state in which it leaves them, `stand`, and `met` counts the placeholders on
the way. Parts may change as they like as long as these two stay (`Steady`).
- `closed_parts`, `placeholders_parts`: a statement by its parts;
- `keeps_of_quiet`: a quiet text leaves the scan where it was, if that is outside, or if the text has no characters that
  end a literal or a comment;
- `steady_appended`, `Alike.steady`: texts that are put behind others in a list, or in the place of others;
- `quiet_iff_of_tame`: texts in which nothing but dashes can open a comment.
-/
import SqlSession.Proofs.Scan.Layout

namespace SqlSession.Scan

/-! ## Behind a space -/

/-- the state behind a space -/
def rest (s : State) : State := step s ' '

theorem rest_rest (s : State) : rest (rest s) = rest s := by
  cases s with
  | quoted q => cases q <;> rfl
  | escaped q => cases q <;> rfl
  | closing q => cases q <;> rfl
  | _ => rfl

theorem isClosed_iff {s : State} : s.isClosed = true ↔ rest s = .plain := by
  cases s with
  | quoted q => cases q <;> decide
  | escaped q => cases q <;> decide
  | closing q => cases q <;> decide
  | _ => decide

/-- behind a space, a scan that is not plain is in a literal or a comment -/
theorem inside_of_rest {r : State} (hr : rest r = r) (hp : r ≠ .plain) : r.isOutside = false := by
  cases r with
  | plain => exact absurd rfl hp
  | closing q => cases q <;> cases hr
  | quoted q => rfl
  | escaped q => rfl
  | line => rfl
  | block => rfl
  | _ => cases hr

theorem scan_spaced (r : State) (a b : String) :
    run r (a ++ " " ++ b).toList = run (rest (run r a.toList)) b.toList ∧
      count r (a ++ " " ++ b).toList = count r a.toList + count (rest (run r a.toList)) b.toList := by
  have htext : (a ++ " " ++ b).toList = a.toList ++ ' ' :: b.toList := by simp
  have hspace : ∀ s, isPlaceholder s ' ' = false := fun s => rfl
  rw [htext, run_append, count_append]
  exact ⟨rfl, by simp [count, hspace, rest]⟩

/-! ## Parts -/

/-- the state behind parts and the space behind each of them -/
def stand (r : State) (parts : List String) : State :=
  parts.foldl (fun r part => rest (run r part.toList)) r

/-- the placeholders met in parts with spaces between them -/
def met : State → List String → Nat
  | _, [] => 0
  | r, part :: parts => count r part.toList + met (rest (run r part.toList)) parts

theorem stand_append (r : State) (parts others : List String) :
    stand r (parts ++ others) = stand (stand r parts) others := List.foldl_append

theorem met_append (r : State) (parts others : List String) :
    met r (parts ++ others) = met r parts + met (stand r parts) others := by
  induction parts generalizing r with
  | nil => simp [met, stand]
  | cons part parts ih => rw [List.cons_append, met, ih, met, Nat.add_assoc]; rfl

theorem rest_stand {r : State} (hr : rest r = r) (parts : List String) : rest (stand r parts) = stand r parts := by
  induction parts generalizing r with
  | nil => exact hr
  | cons part parts ih => exact ih (rest_rest _)

/-- a text by its parts -/
theorem scan_parts {r : State} (hr : rest r = r) (parts : List String) :
    rest (run r (Text.joinWith " " parts).toList) = stand r parts ∧
      count r (Text.joinWith " " parts).toList = met r parts := by
  induction parts generalizing r with
  | nil => exact ⟨hr, rfl⟩
  | cons part parts ih =>
    cases parts with
    | nil => exact ⟨rfl, (Nat.add_zero _).symm⟩
    | cons next parts =>
      obtain ⟨hstand, hmet⟩ := ih (rest_rest (run r part.toList))
      obtain ⟨hrun, hcount⟩ := scan_spaced r part (Text.joinWith " " (next :: parts))
      rw [Text.joinWith, hrun, hcount, hmet]
      exact ⟨hstand, rfl⟩

theorem closed_parts {parts : List String} : Closed (Text.joinWith " " parts) ↔ stand .plain parts = .plain := by
  rw [← (scan_parts (r := .plain) rfl parts).1]
  exact isClosed_iff

theorem placeholders_parts (parts : List String) : placeholders (Text.joinWith " " parts) = met .plain parts :=
  (scan_parts (r := .plain) rfl parts).2

/-- parts that leave what is behind them as the former parts did -/
structure Steady (r : State) (parts parts' : List String) : Prop where
  stand : stand r parts' = stand r parts
  met : met r parts' = met r parts

namespace Steady

variable {r : State} {a b c : List String}

theorem refl (r : State) (a : List String) : Steady r a a := ⟨rfl, rfl⟩

theorem trans (hab : Steady r a b) (hbc : Steady r b c) : Steady r a c :=
  ⟨hbc.stand.trans hab.stand, hbc.met.trans hab.met⟩

theorem append {d : List String} (hab : Steady r a b) (hcd : Steady (Scan.stand r a) c d) :
    Steady r (a ++ c) (b ++ d) := by
  constructor
  · rw [stand_append, stand_append, hab.stand, hcd.stand]
  · rw [met_append, met_append, hab.stand, hab.met, hcd.met]

end Steady

/-! ## Texts that leave no trace -/

/-- read from this state, the text has no placeholder, and a space leads back to the state -/
structure Keeps (r : State) (text : String) : Prop where
  back : rest (run r text.toList) = r
  none : count r text.toList = 0

/-- characters that a scan in a literal or a comment passes over -/
def isInner (c : Char) : Bool :=
  c != '\\' && c != '\n' && c != '/' && (Quote.ofMark? c).isNone

/-- the text has only such characters -/
def Inner (text : String) : Prop := ∀ c ∈ text.toList, isInner c = true

instance (text : String) : Decidable (Inner text) := List.decidableBAll (isInner · = true) text.toList

theorem step_inner {s : State} (hs : s.isOutside = false) {c : Char} (hc : isInner c = true) :
    (step s c).isOutside = false ∧ rest (step s c) = rest s := by
  simp only [isInner, Bool.and_eq_true, bne_iff_ne, Option.isNone_iff_eq_none] at hc
  obtain ⟨⟨⟨hbackslash, hnewline⟩, hslash⟩, hmark⟩ := hc
  cases s with
  | line => simp [step, hnewline, State.isOutside, rest]
  | block =>
    by_cases hstar : c = '*' <;> simp [step, hstar, State.isOutside, rest]
  | star =>
    by_cases hstar : c = '*' <;> simp [step, hslash, hstar, State.isOutside, rest]
  | quoted q =>
    have hq : c ≠ q.mark := by
      rintro rfl
      cases q <;> cases hmark
    simp [step, hbackslash, hq, State.isOutside]
  | escaped q => cases q <;> exact ⟨rfl, rfl⟩
  | _ => cases hs

theorem keeps_inner {r : State} (hr : rest r = r) (hs : r.isOutside = false) {text : String}
    (h : Inner text) : Keeps r text := by
  have hall : ∀ {cs : List Char} {s : State}, s.isOutside = false → (∀ c ∈ cs, isInner c = true) →
      rest (run s cs) = rest s ∧ count s cs = 0 := by
    intro cs
    induction cs with
    | nil => exact fun _ _ => ⟨rfl, rfl⟩
    | cons c cs ih =>
      intro s hs hcs
      obtain ⟨hinside, hrest⟩ := step_inner hs (hcs c List.mem_cons_self)
      obtain ⟨hrun, hcount⟩ := ih hinside fun d hd => hcs d (List.mem_cons_of_mem c hd)
      exact ⟨hrun.trans hrest, by simp [count, isPlaceholder, hs, hcount]⟩
  obtain ⟨hrun, hcount⟩ := hall hs h
  exact ⟨hrun.trans hr, hcount⟩

/-- a quiet text leaves a scan where it was: outside in any case, within a literal or a comment if nothing in the text
can end one -/
theorem keeps_of_quiet {r : State} (hr : rest r = r) {text : String} (h : Quiet text)
    (hinner : r = .plain ∨ Inner text) : Keeps r text := by
  by_cases hp : r = .plain
  · rw [hp]
    exact ⟨isClosed_iff.1 h.closed, h.placeholders⟩
  · exact keeps_inner hr (inside_of_rest hr hp) (hinner.resolve_left hp)

theorem Keeps.spaced {r : State} {a b : String} (ha : Keeps r a) (hb : Keeps r b) : Keeps r (a ++ " " ++ b) := by
  obtain ⟨hrun, hcount⟩ := scan_spaced r a b
  constructor
  · rw [hrun, ha.back, hb.back]
  · rw [hcount, ha.back, ha.none, hb.none]

/-! ## Lists -/

/-- the state behind a comma and a space -/
def comma (s : State) : State := rest (step s ',')

/-- a comma is read like the space behind it, except that two dashes in front of it open no comment -/
theorem comma_eq {s : State} (h : s ≠ .dashes) : comma s = rest s := by
  cases s with
  | dashes => exact absurd rfl h
  | quoted q => cases q <;> rfl
  | escaped q => cases q <;> rfl
  | closing q => cases q <;> rfl
  | _ => rfl

theorem scan_comma (r : State) (text : String) (others : List String) (hne : others ≠ []) :
    run r (Text.joinWith ", " (text :: others)).toList =
        run (comma (run r text.toList)) (Text.joinWith ", " others).toList ∧
      count r (Text.joinWith ", " (text :: others)).toList =
        count r text.toList + count (comma (run r text.toList)) (Text.joinWith ", " others).toList := by
  obtain ⟨next, more, rfl⟩ := List.exists_cons_of_ne_nil hne
  have htext : (Text.joinWith ", " (text :: next :: more)).toList =
      text.toList ++ ',' :: ' ' :: (Text.joinWith ", " (next :: more)).toList := by
    simp [Text.joinWith]
  have hcomma : ∀ s, isPlaceholder s ',' = false := fun s => rfl
  have hspace : ∀ s, isPlaceholder s ' ' = false := fun s => rfl
  rw [htext, run_append, count_append]
  exact ⟨rfl, by simp [count, hcomma, hspace, comma, rest]⟩

/-- the last two characters are dashes -/
def EndsDashed (text : String) : Prop := ['-', '-'] <:+ text.toList

instance (text : String) : Decidable (EndsDashed text) := inferInstanceAs (Decidable (['-', '-'] <:+ text.toList))

theorem fresh_dash {c : Char} (h : fresh c = .dash) : c = '-' := by
  unfold fresh at h
  split at h
  · cases h
  · split_ifs at h with h1 h2 h3
    exact h2

theorem fresh_ne_dashes (c : Char) : fresh c ≠ .dashes := by
  unfold fresh
  split
  · simp
  · split_ifs <;> simp

theorem step_dash {s : State} {c : Char} (h : step s c = .dash) : c = '-' := by
  cases s <;> simp only [step] at h
  case plain => exact fresh_dash h
  case escaped => cases h
  all_goals
    split_ifs at h
    all_goals exact fresh_dash h

theorem step_dashes {s : State} {c : Char} (h : step s c = .dashes) : c = '-' ∧ (s = .dash ∨ s = .dashes) := by
  have hfresh := fresh_ne_dashes c
  cases s <;> simp only [step] at h
  case plain => exact absurd h hfresh
  case escaped => cases h
  case dash =>
    split_ifs at h with hc
    · exact ⟨hc, .inl rfl⟩
    · exact absurd h hfresh
  case dashes =>
    split_ifs at h with hc
    · exact ⟨hc, .inr rfl⟩
    · exact absurd h hfresh
  all_goals
    split_ifs at h
    all_goals exact absurd h hfresh

/-- a scan that is behind two dashes has read both of them since the space -/
theorem suffix_of_run {r : State} (hr : rest r = r) {cs : List Char} (h : run r cs = .dashes) : ['-', '-'] <:+ cs := by
  rcases List.eq_nil_or_concat cs with rfl | ⟨front, c, rfl⟩
  · obtain rfl : r = .dashes := h
    cases hr
  · rw [List.concat_eq_append, run_append] at h
    obtain ⟨rfl, hone⟩ := step_dashes h
    rcases List.eq_nil_or_concat front with rfl | ⟨start, d, rfl⟩
    · rcases hone with h1 | h1
      · obtain rfl : r = .dash := h1
        cases hr
      · obtain rfl : r = .dashes := h1
        cases hr
    · rw [List.concat_eq_append, run_append] at hone
      have hd : d = '-' := hone.elim step_dash fun h2 => (step_dashes h2).1
      exact ⟨start, by simp [hd]⟩

/-- a quiet text does not end in two dashes -/
theorem not_endsDashed {text : String} (h : Closed text) : ¬EndsDashed text := by
  rintro ⟨start, hstart⟩
  have hclosed : (run (run .plain start) ['-', '-']).isClosed = true := by
    rw [← run_append, hstart]
    exact h
  revert hclosed
  cases run .plain start with
  | quoted q => cases q <;> decide
  | escaped q => cases q <;> decide
  | closing q => cases q <;> decide
  | _ => decide

/-- the last text does not end in two dashes, so a comma behind it does what a space does -/
def Undashed (texts : List String) : Prop := ∀ last ∈ texts.getLast?, ¬EndsDashed last

instance (texts : List String) : Decidable (Undashed texts) := Option.decidableForallMem texts.getLast?

theorem undashed_appended (texts : List String) {text : String} (h : ¬EndsDashed text) : Undashed (texts ++ [text]) := by
  simpa [Undashed] using h

theorem Undashed.replaced {front back : List String} {text text' : String} (h : Undashed (front ++ text :: back))
    (ht : ¬EndsDashed text') : Undashed (front ++ text' :: back) := by
  unfold Undashed at h ⊢
  rcases List.eq_nil_or_concat back with rfl | ⟨others, last, rfl⟩
  · simpa using ht
  · have hend : ∀ t, front ++ t :: others.concat last = (front ++ t :: others) ++ [last] := by simp
    rwa [hend, List.getLast?_concat] at h ⊢

/-- a text that is put behind others in a list is read as if a space were in front of it -/
theorem scan_append_listed {r : State} (hr : rest r = r) {texts : List String} (hne : texts ≠ [])
    (hlast : Undashed texts) (text : String) :
    run r (Text.joinWith ", " (texts ++ [text])).toList =
        run (rest (run r (Text.joinWith ", " texts).toList)) text.toList ∧
      count r (Text.joinWith ", " (texts ++ [text])).toList =
        count r (Text.joinWith ", " texts).toList +
          count (rest (run r (Text.joinWith ", " texts).toList)) text.toList := by
  induction texts generalizing r with
  | nil => exact absurd rfl hne
  | cons first others ih =>
    by_cases hothers : others = []
    · subst hothers
      have hdashes : run r first.toList ≠ .dashes := fun h => hlast first rfl (suffix_of_run hr h)
      have hcomma := scan_comma r first [text] (by simp)
      rwa [comma_eq hdashes] at hcomma
    · have hlast' : Undashed others := by
        rwa [Undashed, List.getLast?_cons_of_ne_nil hothers] at hlast
      obtain ⟨hrun, hcount⟩ := scan_comma r first others hothers
      obtain ⟨hrun', hcount'⟩ := scan_comma r first (others ++ [text]) (by simp)
      obtain ⟨ihrun, ihcount⟩ := ih (r := comma (run r first.toList)) (rest_rest _) hothers hlast'
      rw [List.cons_append, hrun', hcount', ihrun, ihcount, hrun, hcount]
      exact ⟨rfl, (Nat.add_assoc _ _ _).symm⟩

/-- two texts that are read alike from every state behind a space -/
structure Alike (text text' : String) : Prop where
  back : ∀ r, rest r = r → rest (run r text'.toList) = rest (run r text.toList)
  count : ∀ r, rest r = r → count r text'.toList = Scan.count r text.toList

/-- a text of a list in the place of one that is read alike -/
theorem Alike.replaced {text text' : String} (h : Alike text text') (hd : ¬EndsDashed text) (hd' : ¬EndsDashed text')
    {r : State} (hr : rest r = r) (front back : List String) :
    rest (run r (Text.joinWith ", " (front ++ text' :: back)).toList) =
        rest (run r (Text.joinWith ", " (front ++ text :: back)).toList) ∧
      Scan.count r (Text.joinWith ", " (front ++ text' :: back)).toList =
        Scan.count r (Text.joinWith ", " (front ++ text :: back)).toList := by
  induction front generalizing r with
  | nil =>
    by_cases hback : back = []
    · subst hback
      exact ⟨h.back r hr, h.count r hr⟩
    · have hcomma : comma (run r text'.toList) = comma (run r text.toList) := by
        rw [comma_eq fun hs => hd' (suffix_of_run hr hs), comma_eq fun hs => hd (suffix_of_run hr hs),
          h.back r hr]
      obtain ⟨hrun, hcount⟩ := scan_comma r text back hback
      obtain ⟨hrun', hcount'⟩ := scan_comma r text' back hback
      rw [List.nil_append, List.nil_append, hrun, hcount, hrun', hcount', hcomma, h.count r hr]
      exact ⟨rfl, rfl⟩
  | cons first front ih =>
    obtain ⟨hrun, hcount⟩ := scan_comma r first (front ++ text :: back) (by simp)
    obtain ⟨hrun', hcount'⟩ := scan_comma r first (front ++ text' :: back) (by simp)
    obtain ⟨ihrest, ihcount⟩ := ih (r := comma (run r first.toList)) (rest_rest _)
    rw [List.cons_append, List.cons_append, hrun, hcount, hrun', hcount', ihrest, ihcount]
    exact ⟨rfl, rfl⟩

/-! ## Lists behind a keyword -/

/-- texts between commas behind a keyword, which is left out if there are none -/
def listed (keyword : String) (texts : List String) : List String :=
  if texts.isEmpty then [] else [keyword ++ " " ++ Text.joinWith ", " texts]

section

variable {keyword : String} {r : State}

theorem scan_listed (hk : Keeps r keyword) (texts : List String) (hne : texts ≠ []) :
    stand r (listed keyword texts) = rest (run r (Text.joinWith ", " texts).toList) ∧
      met r (listed keyword texts) = count r (Text.joinWith ", " texts).toList := by
  have hparts : listed keyword texts = [keyword ++ " " ++ Text.joinWith ", " texts] := if_neg (by simpa using hne)
  obtain ⟨hrun, hcount⟩ := scan_spaced r keyword (Text.joinWith ", " texts)
  rw [hparts]
  constructor
  · rw [stand, List.foldl_cons, List.foldl_nil, hrun, hk.back]
  · rw [met, met, hcount, hk.back, hk.none, Nat.zero_add, Nat.add_zero]

/-- one more text of a list that leaves the scan where the list has left it -/
theorem steady_appended (hr : rest r = r) (hk : Keeps r keyword) {texts : List String}
    (hlast : Undashed texts) {text : String}
    (ht : Keeps (stand r (listed keyword texts)) text) :
    Steady r (listed keyword texts) (listed keyword (texts ++ [text])) := by
  obtain ⟨hstand', hmet'⟩ := scan_listed hk (texts ++ [text]) (by simp)
  by_cases hne : texts = []
  · subst hne
    exact ⟨hstand'.trans ht.back, hmet'.trans ht.none⟩
  · obtain ⟨hstand, hmet⟩ := scan_listed hk texts hne
    obtain ⟨hrun, hcount⟩ := scan_append_listed hr hne hlast text
    rw [hstand] at ht
    constructor
    · rw [hstand', hstand, hrun, ht.back]
    · rw [hmet', hmet, hcount, ht.none, Nat.add_zero]

/-- a text of a list in the place of one that is read alike -/
theorem Alike.steady {text text' : String} (h : Alike text text') (hd : ¬EndsDashed text) (hd' : ¬EndsDashed text')
    (hr : rest r = r) (hk : Keeps r keyword) (front back : List String) :
    Steady r (listed keyword (front ++ text :: back)) (listed keyword (front ++ text' :: back)) := by
  obtain ⟨hstand, hmet⟩ := scan_listed hk (front ++ text :: back) (by simp)
  obtain ⟨hstand', hmet'⟩ := scan_listed hk (front ++ text' :: back) (by simp)
  obtain ⟨hrest, hcount⟩ := h.replaced hd hd' hr front back
  constructor
  · rw [hstand', hstand, hrest]
  · rw [hmet', hmet, hcount]

end

/-! ## Dashes and spaces -/

/-- characters that mean nothing to a scan outside, and dashes and spaces -/
def isTame (c : Char) : Bool :=
  c != '?' && c != '\n' && (c == '-' || c == ' ' || (fresh c == .plain && !Text.isAsciiBlank c))

/-- the text has only such characters -/
def Tame (text : String) : Prop := ∀ c ∈ text.toList, isTame c = true

/-- outside, or in a comment behind two dashes -/
def State.isMild : State → Bool
  | .plain | .dash | .dashes | .line => true
  | _ => false

theorem step_tame {s : State} (hs : s.isMild = true) {c : Char} (hc : isTame c = true) :
    (step s c).isMild = true ∧ (step s c = .line ↔ s = .line ∨ s = .dashes ∧ c = ' ') := by
  simp only [isTame, Bool.and_eq_true, Bool.or_eq_true, bne_iff_ne, beq_iff_eq, Bool.not_eq_true'] at hc
  obtain ⟨⟨-, hnewline⟩, (rfl | rfl) | ⟨hfresh, hblank⟩⟩ := hc
  · cases s <;> first | decide | cases hs
  · cases s <;> first | decide | cases hs
  · have hdash : c ≠ '-' := by
      rintro rfl
      cases hfresh
    have hspace : c ≠ ' ' := by
      rintro rfl
      cases hblank
    cases s with
    | plain => simp [step, hfresh, State.isMild]
    | dash => simp [step, hdash, hfresh, State.isMild]
    | dashes => simp [step, hdash, hnewline, hblank, hfresh, hspace, State.isMild]
    | line => simp [step, hnewline, State.isMild]
    | _ => cases hs

theorem mild_run {cs : List Char} (h : ∀ c ∈ cs, isTame c = true) : (run .plain cs).isMild = true := by
  induction cs using List.reverseRecOn with
  | nil => rfl
  | append_singleton cs c ih =>
    rw [run_append]
    exact (step_tame (ih fun d hd => h d (List.mem_append_left _ hd)) (h c (by simp))).1

/-- in a tame text, only two dashes in front of a space open a comment -/
theorem run_tame {cs : List Char} (h : ∀ c ∈ cs, isTame c = true) :
    run .plain cs = .line ↔ ['-', '-', ' '] <:+: cs := by
  induction cs using List.reverseRecOn with
  | nil => decide
  | append_singleton cs c ih =>
    have hcs : ∀ d ∈ cs, isTame d = true := fun d hd => h d (List.mem_append_left _ hd)
    have hline : run .plain (cs ++ [c]) = .line ↔ run .plain cs = .line ∨ run .plain cs = .dashes ∧ c = ' ' := by
      rw [run_append]
      exact (step_tame (mild_run hcs) (h c (by simp))).2
    have hdashes : ['-', '-'] <:+ cs → run .plain cs = .line ∨ run .plain cs = .dashes := by
      rintro ⟨start, rfl⟩
      have hmild := mild_run fun d hd => hcs d (List.mem_append_left _ hd)
      rw [run_append]
      revert hmild
      cases run .plain start with
      | quoted q => exact fun hmild => by cases hmild
      | escaped q => exact fun hmild => by cases hmild
      | closing q => exact fun hmild => by cases hmild
      | _ => decide
    have hsuffix : ['-', '-', ' '] <:+ cs ++ [c] ↔ ['-', '-'] <:+ cs ∧ c = ' ' := by
      constructor
      · rintro ⟨start, hstart⟩
        have heq : start ++ ['-', '-'] ++ [' '] = cs ++ [c] := by simpa using hstart
        obtain ⟨hfront, hlast⟩ := List.append_inj' heq rfl
        exact ⟨⟨start, hfront⟩, (List.singleton_inj.1 hlast).symm⟩
      · rintro ⟨⟨start, rfl⟩, rfl⟩
        exact ⟨start, by simp⟩
    rw [hline, List.infix_concat_iff, hsuffix, ih hcs]
    constructor
    · rintro (hin | ⟨hrun, rfl⟩)
      · exact .inr hin
      · exact .inl ⟨suffix_of_run rfl hrun, rfl⟩
    · rintro (⟨hend, rfl⟩ | hin)
      · rcases hdashes hend with hl | hd
        · exact .inl ((ih hcs).1 hl)
        · exact .inr ⟨hd, rfl⟩
      · exact .inl hin

/-- a tame text is quiet if no two dashes in it are in front of a space or at its end -/
theorem quiet_iff_of_tame {text : String} (h : Tame text) :
    Quiet text ↔ ¬['-', '-', ' '] <:+: text.toList ∧ ¬EndsDashed text := by
  have hnone : ∀ {cs : List Char} (s : State), (∀ c ∈ cs, isTame c = true) → count s cs = 0 := by
    intro cs
    induction cs with
    | nil => exact fun s _ => rfl
    | cons c cs ih =>
      intro s hcs
      obtain ⟨hc, hothers⟩ := List.forall_mem_cons.1 hcs
      have hmark : c ≠ '?' := by
        rintro rfl
        cases hc
      simp [count, isPlaceholder, hmark, ih _ hothers]
  constructor
  · intro hq
    refine ⟨fun hin => ?_, not_endsDashed hq.closed⟩
    have hclosed : (run .plain text.toList).isClosed = true := hq.closed
    rw [(run_tame h).2 hin] at hclosed
    cases hclosed
  · rintro ⟨hcomment, hend⟩
    refine ⟨?_, hnone .plain h⟩
    have hmild := mild_run h
    have hline : run .plain text.toList ≠ .line := fun hl => hcomment ((run_tame h).1 hl)
    have hdashes : run .plain text.toList ≠ .dashes := fun hd => hend (suffix_of_run rfl hd)
    unfold Closed
    revert hmild hline hdashes
    cases run .plain text.toList <;> simp [State.isMild, State.isClosed, State.isOutside]

end SqlSession.Scan
