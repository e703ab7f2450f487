/-
Statements with some of their values filled in.

A value that is written out is seamless: wherever a placeholder can stand, the scan finds no placeholder in the value
and goes on behind it as it would have gone on behind the placeholder (`seamless_literal`). Quotes that touch a value
may join with its own, and a dash may touch a minus sign; the scan is the same again one character later.

So it does not matter whether values are filled in all at once or some first and the others later, and every value
takes exactly one placeholder away (`fill_composes`).
-/
import SqlSession.Proofs.Scan.Layout

namespace SqlSession

namespace Scan

/-! ## States that go on alike -/

/-- nothing but the next character counts -/
def State.isSettled : State → Bool
  | .plain => true
  | .closing _ => true
  | _ => false

theorem step_settled {s : State} (h : s.isSettled = true) (c : Char) : step s c = fresh c := by
  cases s with
  | plain => rfl
  | closing q =>
    by_cases hc : c = q.mark
    · -- a quote behind a closed one opens it again, as a quote behind anything else does
      subst hc
      cases q <;> rfl
    · exact if_neg hc
  | _ => cases h

theorem outside_of_settled {s : State} (h : s.isSettled = true) : s.isOutside = true := by
  cases s <;> first | rfl | cases h

/-- a placeholder has a scan look at nothing but what follows -/
theorem step_placeholder {s : State} (h : s.isOutside = true) : step s '?' = .plain := by
  cases s with
  | closing q => cases q <;> rfl
  | plain => rfl
  | dash => rfl
  | dashes => rfl
  | slash => rfl
  | _ => cases h

/-- scans that cannot be told apart by what follows -/
def Agree (s t : State) : Prop := s = t ∨ (s.isSettled = true ∧ t.isSettled = true)

theorem Agree.refl (s : State) : Agree s s := .inl rfl

theorem Agree.isPlaceholder {s t : State} (h : Agree s t) (c : Char) : isPlaceholder s c = isPlaceholder t c := by
  obtain rfl | ⟨hs, ht⟩ := h
  · rfl
  · rw [Scan.isPlaceholder, Scan.isPlaceholder, outside_of_settled hs, outside_of_settled ht]

theorem Agree.step_eq {s t : State} (h : Agree s t) (c : Char) : step s c = step t c := by
  obtain rfl | ⟨hs, ht⟩ := h
  · rfl
  · rw [step_settled hs, step_settled ht]

theorem Agree.run_eq {s t : State} (h : Agree s t) {cs : List Char} (hne : cs ≠ []) : run s cs = run t cs := by
  obtain ⟨c, cs, rfl⟩ := List.exists_cons_of_ne_nil hne
  rw [run_cons, run_cons, h.step_eq]

theorem Agree.count_eq {s t : State} (h : Agree s t) (cs : List Char) : count s cs = count t cs := by
  cases cs with
  | nil => rfl
  | cons c cs => rw [count, count, h.isPlaceholder, h.step_eq]

theorem Agree.fill_eq {s t : State} (h : Agree s t) (values : List Datum) (cs : List Char) :
    fill s values cs = fill t values cs := by
  cases cs with
  | nil => rw [fill, fill]
  | cons c cs =>
    cases values with
    | nil => rfl
    | cons value values => rw [fill, fill, h.isPlaceholder, h.step_eq]

/-! ## Filling part of a text -/

/-- a placeholder stands outside quotes and comments -/
theorem isPlaceholder_iff {s : State} {c : Char} : isPlaceholder s c = true ↔ c = '?' ∧ s.isOutside = true := by
  simp [isPlaceholder]

theorem fill_nil (s : State) (cs : List Char) : fill s [] cs = cs := by
  cases cs <;> rfl

theorem fill_cons_placeholder {s : State} {c : Char} (h : isPlaceholder s c = true) (value : Datum)
    (values : List Datum) (cs : List Char) :
    fill s (value :: values) (c :: cs) = value.literal.toList ++ fill (step s c) values cs := by
  rw [fill, if_pos h]

theorem fill_cons_other {s : State} {c : Char} (h : isPlaceholder s c = false) (values : List Datum) (cs : List Char) :
    fill s values (c :: cs) = c :: fill (step s c) values cs := by
  cases values with
  | nil => rw [fill_nil, fill_nil]
  | cons value values => simp [fill, h]

/-- the second of two parts takes the values that the first has no placeholders for -/
theorem fill_parts (s : State) (values : List Datum) (cs ds : List Char) :
    fill s values (cs ++ ds) = fill s values cs ++ fill (run s cs) (values.drop (count s cs)) ds := by
  induction cs generalizing s values with
  | nil => cases values <;> rfl
  | cons c cs ih =>
    cases values with
    | nil => rw [List.drop_nil, fill_nil, fill_nil, fill_nil]
    | cons value values =>
      by_cases hp : isPlaceholder s c = true
      · rw [List.cons_append, fill_cons_placeholder hp, fill_cons_placeholder hp, ih, run_cons, count, if_pos hp,
          Nat.add_comm 1, List.drop_succ_cons, List.append_assoc]
      · have hother : isPlaceholder s c = false := Bool.eq_false_of_not_eq_true hp
        rw [List.cons_append, fill_cons_other hother, fill_cons_other hother, ih, run_cons, count, if_neg hp,
          Nat.zero_add, List.cons_append]

/-- characters without placeholders stay, and take no value -/
theorem fill_append_of_count_eq_zero {s : State} {cs : List Char} (h : count s cs = 0) (values : List Datum)
    (ds : List Char) : fill s values (cs ++ ds) = cs ++ fill (run s cs) values ds := by
  induction cs generalizing s with
  | nil => rfl
  | cons c cs ih =>
    obtain ⟨hc, hcs⟩ := Nat.add_eq_zero_iff.1 h
    have hp : isPlaceholder s c = false := by
      by_contra hp
      rw [Bool.not_eq_false] at hp
      simp [hp] at hc
    rw [List.cons_append, List.cons_append, fill_cons_other hp, run_cons, ih hcs]

/-! ## Values written out -/

/-- wherever a placeholder can stand, the characters hold none and leave nothing in mind -/
def Seamless (cs : List Char) : Prop :=
  ∀ s : State, s.isOutside = true → count s cs = 0 ∧ (run s cs).isSettled = true

/-- the characters neither end a text in single quotes nor hold a placeholder there -/
structure Inert (cs : List Char) : Prop where
  run : run (.quoted .single) cs = .quoted .single
  count : count (.quoted .single) cs = 0

instance (cs : List Char) : Decidable (Inert cs) :=
  decidable_of_iff (Scan.run (.quoted .single) cs = .quoted .single ∧ Scan.count (.quoted .single) cs = 0)
    ⟨fun h => ⟨h.1, h.2⟩, fun h => ⟨h.1, h.2⟩⟩

theorem Inert.append {cs ds : List Char} (h : Inert cs) (h' : Inert ds) : Inert (cs ++ ds) where
  run := by rw [run_append, h.run, h'.run]
  count := by rw [count_append, h.run, h.count, h'.count]

theorem inert_flatMap {α : Type} {f : α → List Char} (h : ∀ x, Inert (f x)) (xs : List α) : Inert (xs.flatMap f) := by
  induction xs with
  | nil => exact ⟨rfl, rfl⟩
  | cons x xs ih => exact (h x).append ih

/-- any character but a quote or a backslash -/
theorem inert_char {c : Char} (hb : c ≠ '\\') (hq : c ≠ '\'') : Inert [c] where
  run := by simp [Scan.run, step, Quote.mark, hb, hq]
  count := by simp [Scan.count, isPlaceholder, State.isOutside]

theorem inert_slashed (c : Char) : Inert (slashed c) := by
  unfold slashed
  split_ifs with hslash hnull
  · refine ⟨rfl, ?_⟩
    simp [Scan.count, isPlaceholder, step, Quote.hasEscapes, State.isOutside]
  · exact ⟨rfl, rfl⟩
  · exact inert_char (fun hb => hslash (.inl hb)) fun hq => hslash (.inr (.inl hq))

/-- a text in single quotes -/
theorem seamless_quoted {cs : List Char} (h : Inert cs) : Seamless ('\'' :: cs ++ ['\'']) := by
  intro s hs
  have hopen : step s '\'' = .quoted .single ∧ isPlaceholder s '\'' = false := by
    cases s with
    | closing q => cases q <;> exact ⟨rfl, rfl⟩
    | plain => exact ⟨rfl, rfl⟩
    | dash => exact ⟨rfl, rfl⟩
    | dashes => exact ⟨rfl, rfl⟩
    | slash => exact ⟨rfl, rfl⟩
    | _ => cases hs
  rw [List.cons_append, run_cons, count, hopen.1, hopen.2, run_append, count_append, h.run, h.count]
  exact ⟨rfl, rfl⟩

/-- a character that opens nothing, in front of a seamless text -/
theorem Seamless.cons {c : Char} {cs : List Char} (h : Seamless cs)
    (hc : ∀ s : State, s.isOutside = true → (step s c).isOutside = true ∧ isPlaceholder s c = false) :
    Seamless (c :: cs) := by
  intro s hs
  obtain ⟨hstep, hp⟩ := hc s hs
  obtain ⟨hcount, hrun⟩ := h _ hstep
  rw [run_cons, count, hp, hcount]
  exact ⟨rfl, hrun⟩

/-- a sign in front of a number; even behind a dash it opens no comment -/
theorem Seamless.negative {cs : List Char} (h : Seamless cs) : Seamless ('-' :: cs) := by
  refine h.cons fun s hs => ?_
  cases s with
  | closing q => cases q <;> exact ⟨rfl, rfl⟩
  | plain => exact ⟨rfl, rfl⟩
  | dash => exact ⟨rfl, rfl⟩
  | dashes => exact ⟨rfl, rfl⟩
  | slash => exact ⟨rfl, rfl⟩
  | _ => cases hs

/-- characters of numbers and names -/
def isBare (c : Char) : Bool :=
  c.isAlphanum || c == '.'

theorem step_bare {s : State} {c : Char} (hs : s.isOutside = true) (hc : isBare c = true) :
    step s c = .plain ∧ isPlaceholder s c = false := by
  have hne : ∀ d : Char, isBare d = false → c ≠ d := by
    rintro d hd rfl
    exact absurd (hc.symm.trans hd) (by decide)
  have hblank : Text.isAsciiBlank c = false := by
    simp [Text.isAsciiBlank, hne ' ' (by decide), hne '\t' (by decide), hne '\n' (by decide), hne '\x0c' (by decide),
      hne '\r' (by decide)]
  have hfresh : fresh c = .plain := by
    simp [fresh, Quote.ofMark?, hne '\'' (by decide), hne '"' (by decide), hne '`' (by decide), hne '#' (by decide),
      hne '-' (by decide), hne '/' (by decide)]
  have hp : isPlaceholder s c = false := by simp [isPlaceholder, hne '?' (by decide)]
  refine ⟨?_, hp⟩
  cases s with
  | closing q => rw [step_settled rfl, hfresh]
  | plain => exact hfresh
  | dash => simp [step, hfresh, hne '-' (by decide)]
  | dashes => simp [step, hfresh, hblank, hne '-' (by decide), hne '\n' (by decide)]
  | slash => simp [step, hfresh, hne '*' (by decide)]
  | _ => cases hs

/-- a number without a sign, or a name -/
theorem seamless_bare {cs : List Char} (hne : cs ≠ []) (h : ∀ c ∈ cs, isBare c = true) : Seamless cs := by
  induction cs with
  | nil => exact absurd rfl hne
  | cons c cs ih =>
    have hc := h c List.mem_cons_self
    by_cases hcs : cs = []
    · subst hcs
      intro s hs
      obtain ⟨hstep, hp⟩ := step_bare hs hc
      rw [run_cons, count, hstep, hp]
      exact ⟨rfl, rfl⟩
    · refine (ih hcs fun d hd => h d (List.mem_cons_of_mem c hd)).cons fun s hs => ?_
      obtain ⟨hstep, hp⟩ := step_bare hs hc
      rw [hstep]
      exact ⟨rfl, hp⟩

end Scan

open Scan (Inert Seamless isBare)

/-! ## Numbers -/

/-- the text holds nothing but characters of numbers and names -/
def Bare (text : String) : Prop := ∀ c ∈ text.toList, isBare c = true

instance (text : String) : Decidable (Bare text) := List.decidableBAll (isBare · = true) text.toList

theorem Bare.append {a b : String} (ha : Bare a) (hb : Bare b) : Bare (a ++ b) := by
  intro c hc
  rw [String.toList_append] at hc
  exact (List.mem_append.1 hc).elim (ha c) (hb c)

theorem bare_ofList {cs : List Char} (h : ∀ c ∈ cs, isBare c = true) : Bare (String.ofList cs) := by
  intro c hc
  rw [String.toList_ofList] at hc
  exact h c hc

theorem bare_toString (n : Nat) : Bare (toString n) := by
  intro c hc
  have hdigit : c.isDigit = true := isDigit_of_mem_toString hc
  simp [isBare, Char.isAlphanum, hdigit]

theorem Bare.seamless {text : String} (hne : text.toList ≠ []) (h : Bare text) : Seamless text.toList :=
  Scan.seamless_bare hne h

theorem toList_toString_ne_nil (n : Nat) : (toString n).toList ≠ [] := by
  have hlength : 0 < (Nat.toDigits 10 n).length := Nat.length_toDigits_pos
  have hdigits : (toString n).toList = Nat.toDigits 10 n := by simp [toString, Nat.toList_repr]
  rw [hdigits]
  exact List.ne_nil_of_length_pos hlength

theorem seamless_toString (n : Nat) : Seamless (toString n).toList :=
  (bare_toString n).seamless (toList_toString_ne_nil n)

theorem seamless_int (value : Int) : Seamless (toString value).toList := by
  cases value with
  | ofNat n => exact seamless_toString n
  | negSucc n =>
    have hsign : (toString (Int.negSucc n)).toList = '-' :: (toString (n + 1)).toList := by
      show ("-" ++ toString (n + 1)).toList = _
      rw [String.toList_append]
      rfl
    rw [hsign]
    exact (seamless_toString (n + 1)).negative

namespace Decimal

theorem bare_zeros (n : Nat) : Bare (zeros n) := by
  refine bare_ofList fun c hc => ?_
  rw [List.eq_of_mem_replicate hc]
  rfl

/-- part of a number's digits -/
theorem bare_part {n : Nat} {cs : List Char} (h : ∀ c ∈ cs, c ∈ (toString n).toList) : Bare (String.ofList cs) :=
  bare_ofList fun c hc => bare_toString n c (h c hc)

theorem bare_positionalText (style : Style) (n : Number) : Bare (positionalText style n) := by
  unfold positionalText
  dsimp only
  split_ifs with hwhole hzero hpoint
  · exact ((bare_toString _).append (bare_zeros _)).append (by decide)
  · exact ((bare_toString _).append (bare_zeros _)).append (by decide)
  · refine ((bare_part fun c hc => List.mem_of_mem_take hc).append (by decide)).append ?_
    exact bare_part fun c hc => List.mem_of_mem_drop hc
  · exact ((show Bare "0." by decide).append (bare_zeros _)).append (bare_toString _)

theorem positionalText_ne_nil (style : Style) (n : Number) : (positionalText style n).toList ≠ [] := by
  unfold positionalText
  dsimp only
  split_ifs <;> simp

theorem seamless_text (x : Float) : Seamless (text Datum.numberStyle x).toList := by
  have hsigned : ∀ (negative : Bool) {t : String}, Seamless t.toList →
      Seamless ((if negative then "-" else "") ++ t).toList := by
    intro negative t ht
    rw [String.toList_append]
    cases negative with
    | true => exact ht.negative
    | false => exact ht
  unfold text
  cases parts? x with
  | none =>
    dsimp only
    split_ifs
    · exact Bare.seamless (by decide) (by decide)
    · exact Seamless.negative (Bare.seamless (by decide) (show Bare "inf" by decide))
    · exact Bare.seamless (by decide) (by decide)
  | some p =>
    dsimp only
    by_cases hzero : p.mantissa = 0
    · rw [if_pos hzero]
      exact hsigned p.negative (Bare.seamless (by decide) (by decide))
    · rw [if_neg hzero]
      refine hsigned p.negative ?_
      exact (bare_positionalText _ _).seamless (positionalText_ne_nil _ _)

end Decimal

/-! ## Texts, timestamps and bytes -/

theorem Bare.inert {text : String} (h : Bare text) : Inert text.toList := by
  have hall : ∀ cs : List Char, (∀ c ∈ cs, isBare c = true) → Inert cs := by
    intro cs hcs
    induction cs with
    | nil => exact ⟨rfl, rfl⟩
    | cons c cs ih =>
      have hc := hcs c List.mem_cons_self
      have hne : ∀ d : Char, isBare d = false → c ≠ d := by
        rintro d hd rfl
        exact absurd (hc.symm.trans hd) (by decide)
      have hfirst : Inert [c] := Scan.inert_char (hne _ (by decide)) (hne _ (by decide))
      exact hfirst.append (ih fun d hd => hcs d (List.mem_cons_of_mem c hd))
  exact hall text.toList h

theorem inert_append {a b : String} (ha : Inert a.toList) (hb : Inert b.toList) : Inert (a ++ b).toList := by
  rw [String.toList_append]
  exact ha.append hb

/-- a text between two single quotes -/
theorem seamless_between {inside : String} (h : Inert inside.toList) : Seamless ("'" ++ inside ++ "'").toList := by
  rw [String.toList_append, String.toList_append]
  exact Scan.seamless_quoted h

theorem seamless_quotedText (text : String) : Seamless (Datum.quotedText text).toList := by
  refine seamless_between ?_
  rw [addSlashes, String.toList_ofList]
  exact Scan.inert_flatMap Scan.inert_slashed text.toList

namespace Timestamp

theorem inert_padded (width n : Nat) : Inert (padded width n).toList := by
  refine inert_append (Bare.inert (bare_ofList fun c hc => ?_)) (bare_toString n).inert
  rw [List.eq_of_mem_replicate hc]
  rfl

theorem inert_yearText (year : Int) : Inert (yearText year).toList := by
  unfold yearText
  split_ifs
  · exact inert_padded 4 _
  · exact inert_append (by decide) (inert_padded 4 _)
  · exact inert_append (by decide) (inert_padded 4 _)

theorem inert_text (t : Timestamp) : Inert (t.text " ").toList := by
  have hdate : Inert t.dateText.toList :=
    inert_append (inert_append (inert_append (inert_append (inert_yearText _) (by decide)) (inert_padded 2 _))
      (by decide)) (inert_padded 2 _)
  have htime : Inert t.timeText.toList :=
    inert_append (inert_append (inert_append (inert_append (inert_padded 2 _) (by decide)) (inert_padded 2 _))
      (by decide)) (inert_padded 2 _)
  exact inert_append (inert_append hdate (by decide)) htime

theorem inert_fractionText (t : Timestamp) : Inert t.fractionText.toList := by
  unfold fractionText
  split_ifs
  · exact ⟨rfl, rfl⟩
  · exact inert_append (by decide) (inert_padded 3 _)
  · exact inert_append (by decide) (inert_padded 6 _)
  · exact inert_append (by decide) (inert_padded 9 _)

end Timestamp

namespace Datum

theorem bare_byteText (b : UInt8) : Bare (byteText b) := by
  have hdigit : ∀ d < 16, isBare (Nat.digitChar d).toUpper = true := by decide
  have hb : b.toNat < 256 := b.toNat_lt
  refine bare_ofList fun c hc => ?_
  simp only [String.toList_ofList, List.map_cons, List.map_nil, List.mem_cons, List.not_mem_nil, or_false] at hc
  rcases hc with rfl | rfl
  · exact hdigit _ (by omega)
  · exact hdigit _ (Nat.mod_lt _ (by decide))

theorem inert_bytes (bytes : List UInt8) : Inert (String.join (bytes.map byteText)).toList := by
  have hjoin : (String.join (bytes.map byteText)).toList = bytes.flatMap fun b => (byteText b).toList := by
    simp [String.toList_join, List.flatMap_map]
  rw [hjoin]
  exact Scan.inert_flatMap (fun b => (bare_byteText b).inert) bytes

/-- **Values are seamless**, of whatever kind they are -/
theorem seamless_literal (value : Datum) : Seamless value.literal.toList := by
  cases value with
  | int value => exact seamless_int value
  | real value => exact Decimal.seamless_text value
  | text value => exact seamless_quotedText value
  | bool value => cases value <;> exact Bare.seamless (by decide) (by decide)
  | timestamp value =>
    have hinside := inert_append value.inert_text value.inert_fractionText
    simpa only [literal, String.append_assoc] using seamless_between hinside
  | null => exact Bare.seamless (by decide) (by decide)
  | json document => exact seamless_quotedText document.render
  | blob bytes =>
    have hquoted := Scan.seamless_quoted (inert_bytes bytes)
    have hbytes : (blob bytes).literal.toList = 'X' :: ('\'' :: (String.join (bytes.map byteText)).toList ++ ['\'']) := by
      show ("X'" ++ String.join (bytes.map byteText) ++ "'").toList = _
      rw [String.toList_append, String.toList_append]
      rfl
    rw [hbytes]
    refine hquoted.cons fun s hs => ?_
    obtain ⟨hstep, hp⟩ := Scan.step_bare hs (show isBare 'X' = true by decide)
    rw [hstep]
    exact ⟨rfl, hp⟩

end Datum

/-! ## Filling in -/

namespace Scan

/-- behind a value the scan goes on as behind its placeholder -/
theorem agree_literal {s t : State} (hs : s.isOutside = true) (ht : t.isOutside = true) (value : Datum) :
    Agree (step s '?') (run t value.literal.toList) := by
  rw [step_placeholder hs]
  exact .inr ⟨rfl, (value.seamless_literal t ht).2⟩

/-- values that come later find the placeholders that are left; the filled text is scanned in a state of its own, which
agrees with that of the text -/
theorem fill_fill {s t : State} (h : Agree s t) (values more : List Datum) (cs : List Char) :
    fill t more (fill s values cs) = fill s (values ++ more) cs := by
  induction cs generalizing s t values with
  | nil => cases values <;> cases more <;> rfl
  | cons c cs ih =>
    cases values with
    | nil => rw [fill_nil, List.nil_append, h.fill_eq]
    | cons value values =>
      by_cases hp : isPlaceholder s c = true
      · obtain ⟨rfl, hs⟩ := isPlaceholder_iff.1 hp
        have ht : t.isOutside = true := (isPlaceholder_iff.1 (h.isPlaceholder '?' ▸ hp)).2
        rw [fill_cons_placeholder hp, List.cons_append, fill_cons_placeholder hp,
          fill_append_of_count_eq_zero (value.seamless_literal t ht).1, ih (agree_literal hs ht value)]
      · have hs : isPlaceholder s c = false := Bool.eq_false_of_not_eq_true hp
        have ht : isPlaceholder t c = false := h.isPlaceholder c ▸ hs
        have hstep : Agree (step s c) (step t c) := .inl (h.step_eq c)
        rw [fill_cons_other hs, fill_cons_other ht, fill_cons_other hs, ih hstep]

/-- every value takes one placeholder away, as long as there are any -/
theorem count_fill {s t : State} (h : Agree s t) (values : List Datum) (cs : List Char) :
    count t (fill s values cs) = count s cs - min (count s cs) values.length := by
  induction cs generalizing s t values with
  | nil => cases values <;> rfl
  | cons c cs ih =>
    cases values with
    | nil => simp [fill_nil, h.count_eq]
    | cons value values =>
      by_cases hp : isPlaceholder s c = true
      · obtain ⟨rfl, hs⟩ := isPlaceholder_iff.1 hp
        have ht : t.isOutside = true := (isPlaceholder_iff.1 (h.isPlaceholder '?' ▸ hp)).2
        rw [fill_cons_placeholder hp, count_append, (value.seamless_literal t ht).1, ih (agree_literal hs ht value), count,
          if_pos hp, List.length_cons]
        omega
      · have hs : isPlaceholder s c = false := Bool.eq_false_of_not_eq_true hp
        have ht : isPlaceholder t c = false := h.isPlaceholder c ▸ hs
        have hstep : Agree (step s c) (step t c) := .inl (h.step_eq c)
        have hcs : count s (c :: cs) = count (step s c) cs := by simp [count, hs]
        have hct : ∀ ds, count t (c :: ds) = count (step t c) ds := fun ds => by simp [count, ht]
        rw [fill_cons_other hs, hcs, hct, ih hstep]

end Scan

/-- **Filling in composes.** Values may be filled in at once or one part after the other, and each takes one placeholder
away. What follows a value, whatever kind it is of and whatever it touches, is scanned as if the placeholder stood
there: at every later point the scan is in the same state, and it finds the same placeholders. -/
theorem fill_composes (text : String) (values more : List Datum) :
    fill (fill text values) more = fill text (values ++ more) ∧
      placeholders (fill text values) = placeholders text - min (placeholders text) values.length ∧
      ∀ (front back : List Char) (value : Datum), Scan.isPlaceholder (Scan.run .plain front) '?' = true →
        (back ≠ [] → Scan.run .plain (front ++ value.literal.toList ++ back) = Scan.run .plain (front ++ '?' :: back)) ∧
          Scan.count .plain (front ++ value.literal.toList ++ back) + 1 = Scan.count .plain (front ++ '?' :: back) := by
  refine ⟨?_, ?_, fun front back value hp => ⟨fun hne => ?_, ?_⟩⟩
  · rw [fill, fill, String.toList_ofList, Scan.fill_fill (.refl .plain)]
    rfl
  · rw [placeholders, fill, String.toList_ofList, Scan.count_fill (.refl .plain)]
    rfl
  · obtain ⟨-, hs⟩ := Scan.isPlaceholder_iff.1 hp
    rw [Scan.run_append, Scan.run_append, Scan.run_append, Scan.run_cons]
    exact ((Scan.agree_literal hs hs value).run_eq hne).symm
  · obtain ⟨-, hs⟩ := Scan.isPlaceholder_iff.1 hp
    rw [Scan.count_append, Scan.count_append, Scan.count_append, Scan.run_append, Scan.count, if_pos hp,
      (value.seamless_literal _ hs).1, (Scan.agree_literal hs hs value).count_eq back]
    omega

/-- a minus sign behind a dash, and quotes on both sides of a text -/
theorem fill_composes_touching :
    let text := "SELECT 'a'?'b?' -?, ?"
    let values := [Datum.text "'?", .int (-5)]
    fill text values = "SELECT 'a''\\'?''b?' --5, ?" ∧
      fill (fill text values) [.null] = fill text (values ++ [.null]) ∧
      placeholders (fill text values) = 1 ∧
      Scan.isPlaceholder (Scan.run .plain "SELECT 'a'?'b?' -".toList) '?' = true ∧
      Scan.run .plain ("SELECT 'a'?'b?' -".toList ++ (Datum.int (-5)).literal.toList ++ [',']) =
        Scan.run .plain ("SELECT 'a'?'b?' -".toList ++ '?' :: [',']) := by
  intro text values
  obtain ⟨hmore, hcount, hback⟩ := fill_composes text values [.null]
  have hplaceholder : Scan.isPlaceholder (Scan.run .plain "SELECT 'a'?'b?' -".toList) '?' = true := by decide
  refine ⟨by decide, hmore, ?_, hplaceholder, (hback _ [','] (.int (-5)) hplaceholder).1 (by simp)⟩
  rw [hcount]
  decide

end SqlSession
