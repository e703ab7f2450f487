/-
Where the values of a statement stand.

A text is closed when a scan that begins outside quotes and comments ends there, and quiet when it holds no placeholder
besides. A statement is aligned when its text is closed and holds a placeholder for each value. Its layout is the text
with every value in the place of its placeholder.

Fragments may be put side by side where one ends plainly or the other begins with a break, a character that no scan from
outside carries on with:
- `Lies.append`, `Lies.join`: aligned fragments make an aligned statement, laid out as the fragments are, in order.
-/
import SqlSession.Statement
import Mathlib.Tactic

namespace SqlSession

/-- a text with values in it -/
abbrev Layout := List (Char ⊕ Datum)

namespace Layout

/-- a text without values -/
def ofText (text : String) : Layout := text.toList.map .inl

def ofDatum (value : Datum) : Layout := [.inr value]

/-- the layouts in order with `separator` between neighbours -/
def join (separator : String) : List Layout → Layout
  | [] => []
  | [l] => l
  | l :: m :: rest => l ++ ofText separator ++ join separator (m :: rest)

/-- the values in order -/
def values : Layout → List Datum
  | [] => []
  | .inl _ :: rest => values rest
  | .inr value :: rest => value :: values rest

theorem ofText_append (s t : String) : ofText (s ++ t) = ofText s ++ ofText t := by
  simp [ofText]

end Layout

namespace Scan

/-- the characters from a state on, each placeholder replaced by the next value while there is one -/
def weave : State → List Datum → List Char → Layout
  | _, _, [] => []
  | s, values, c :: cs =>
    if isPlaceholder s c then
      match values with
      | [] => .inl c :: weave (step s c) [] cs
      | value :: values => .inr value :: weave (step s c) values cs
    else .inl c :: weave (step s c) values cs

theorem weave_nil (s : State) (cs : List Char) : weave s [] cs = cs.map .inl := by
  induction cs generalizing s with
  | nil => rfl
  | cons c cs ih => simp [weave, ih]

theorem weave_append (s : State) (values others : List Datum) (cs ds : List Char) (h : count s cs = values.length) :
    weave s (values ++ others) (cs ++ ds) = weave s values cs ++ weave (run s cs) others ds := by
  induction cs generalizing s values with
  | nil =>
    have hv : values = [] := List.length_eq_zero_iff.1 h.symm
    simp [hv, weave]
  | cons c cs ih =>
    by_cases hc : isPlaceholder s c
    · cases values with
      | nil => simp [count, hc] at h
      | cons value values =>
        have hn : count (step s c) cs = values.length := by
          simp only [count, hc, ite_true, List.length_cons] at h; omega
        simp [weave, hc, ih _ _ hn]
    · have hn : count (step s c) cs = values.length := by simpa [count, hc] using h
      simp [weave, hc, ih _ _ hn]

/-- no value is left out where there are as many placeholders -/
theorem values_weave (s : State) (values : List Datum) (cs : List Char) (h : count s cs = values.length) :
    (weave s values cs).values = values := by
  induction cs generalizing s values with
  | nil =>
    have hv : values = [] := List.length_eq_zero_iff.1 h.symm
    simp [hv, weave, Layout.values]
  | cons c cs ih =>
    by_cases hc : isPlaceholder s c
    · cases values with
      | nil => simp [count, hc] at h
      | cons value values =>
        have hn : count (step s c) cs = values.length := by
          simp only [count, hc, ite_true, List.length_cons] at h; omega
        simpa [weave, hc, Layout.values] using ih _ _ hn
    · have hn : count (step s c) cs = values.length := by simpa [count, hc] using h
      simpa [weave, hc, Layout.values] using ih _ _ hn

/-! ## Breaks -/

/-- characters that end whatever a scan outside quotes and comments was looking at -/
def breaks (c : Char) : Bool :=
  c == ' ' || c == ',' || c == ')' || c == '='

theorem step_break {s : State} {c : Char} (hs : s.isClosed = true) (hc : breaks c = true) :
    step s c = .plain ∧ isPlaceholder s c = false := by
  simp only [breaks, Bool.or_eq_true, beq_iff_eq] at hc
  cases s with
  | closing q => rcases hc with ((rfl | rfl) | rfl) | rfl <;> cases q <;> decide
  | plain => rcases hc with ((rfl | rfl) | rfl) | rfl <;> decide
  | dash => rcases hc with ((rfl | rfl) | rfl) | rfl <;> decide
  | slash => rcases hc with ((rfl | rfl) | rfl) | rfl <;> decide
  | _ => simp [State.isClosed, State.isOutside] at hs

/-- the text is empty or begins with a break -/
def Breaks (text : String) : Prop := ∀ c ∈ text.toList.head?, breaks c = true

instance (text : String) : Decidable (Breaks text) := Option.decidableForallMem text.toList.head?

/-- the text ends where a scan has nothing in mind -/
def EndsPlain (text : String) : Prop := run .plain text.toList = .plain

instance (text : String) : Decidable (EndsPlain text) := inferInstanceAs (Decidable (run .plain text.toList = .plain))

/-- what a closed text is followed by is scanned as if it stood alone -/
structure Resumes (s : State) (cs : List Char) : Prop where
  closed : (run .plain cs).isClosed = true → (run s cs).isClosed = true
  count : count s cs = Scan.count .plain cs
  weave (values : List Datum) : weave s values cs = Scan.weave .plain values cs

theorem resumes_of_breaks {s : State} {text : String} (hs : s.isClosed = true) (h : Breaks text) :
    Resumes s text.toList := by
  unfold Breaks at h
  cases hcs : text.toList with
  | nil => exact ⟨fun _ => hs, rfl, fun _ => rfl⟩
  | cons c cs =>
    have hc : breaks c = true := h c (by simp [hcs])
    obtain ⟨h1, h2⟩ := step_break hs hc
    obtain ⟨h3, h4⟩ := step_break (s := .plain) rfl hc
    exact ⟨by simp [h1, h3], by simp [Scan.count, h1, h2, h3, h4], fun values => by simp [Scan.weave, h1, h2, h3, h4]⟩

theorem run_of_breaks {s : State} {text : String} (hs : s.isClosed = true) (h : Breaks text) (hne : text.toList ≠ []) :
    run s text.toList = run .plain text.toList := by
  obtain ⟨c, cs, hcs⟩ := List.exists_cons_of_ne_nil hne
  have hc : breaks c = true := h c (by simp [hcs])
  rw [hcs, run_cons, run_cons, (step_break hs hc).1, (step_break (s := .plain) rfl hc).1]

theorem resumes_plain {s : State} (hs : s = .plain) (cs : List Char) : Resumes s cs := by
  subst hs
  exact ⟨id, rfl, fun _ => rfl⟩

/-- characters that a scan outside quotes and comments passes over -/
def isCalm (c : Char) : Bool :=
  c != '?' && step .plain c == .plain

theorem run_calm {cs : List Char} (h : ∀ c ∈ cs, isCalm c = true) : run .plain cs = .plain ∧ count .plain cs = 0 := by
  induction cs with
  | nil => exact ⟨rfl, rfl⟩
  | cons c cs ih =>
    have hc : c ≠ '?' ∧ step .plain c = .plain := by simpa [isCalm] using h c List.mem_cons_self
    obtain ⟨h1, h2⟩ := ih fun d hd => h d (List.mem_cons_of_mem c hd)
    exact ⟨by simp [hc.2, h1], by simp [count, isPlaceholder, hc.1, hc.2, h2]⟩

end Scan

open Scan (Breaks EndsPlain)

/-- the text opens no quote or comment that it does not close -/
def Closed (text : String) : Prop := (Scan.run .plain text.toList).isClosed = true

/-- a closed text without placeholders -/
structure Quiet (text : String) : Prop where
  closed : Closed text
  placeholders : placeholders text = 0

instance (text : String) : Decidable (Closed text) :=
  inferInstanceAs (Decidable ((Scan.run .plain text.toList).isClosed = true))

instance (text : String) : Decidable (Quiet text) :=
  decidable_of_iff (Closed text ∧ placeholders text = 0) ⟨fun h => ⟨h.1, h.2⟩, fun h => ⟨h.1, h.2⟩⟩

theorem Scan.Breaks.append {a : String} (b : String) (ha : Breaks a) (hne : a.toList ≠ []) : Breaks (a ++ b) := by
  obtain ⟨c, cs, hcs⟩ := List.exists_cons_of_ne_nil hne
  intro d hd
  refine ha d ?_
  simpa [hcs] using hd

/-- behind a closed text, one that begins with a break ends as it does alone -/
theorem Scan.EndsPlain.append {a b : String} (ha : Closed a) (hb : Breaks b) (hp : EndsPlain b) (hne : b.toList ≠ []) :
    EndsPlain (a ++ b) := by
  rw [EndsPlain, String.toList_append, Scan.run_append, Scan.run_of_breaks ha hb hne]
  exact hp

namespace Statement

/-- the text is closed and has a placeholder for each value -/
structure Aligned (s : Statement) : Prop where
  closed : Closed s.text
  counted : s.placeholders = s.binds.length

/-- the text with each value in the place of its placeholder -/
def layout (s : Statement) : Layout := Scan.weave .plain s.binds s.text.toList

/-- the statement is aligned and laid out like this -/
structure Lies (s : Statement) (l : Layout) : Prop where
  aligned : s.Aligned
  laid : s.layout = l

@[simp] theorem text_append (a b : Statement) : (a ++ b).text = a.text ++ b.text := rfl

@[simp] theorem binds_append (a b : Statement) : (a ++ b).binds = a.binds ++ b.binds := rfl

@[simp] theorem text_ofText (text : String) : (ofText text).text = text := rfl

@[simp] theorem binds_ofText (text : String) : (ofText text).binds = [] := rfl

theorem ext {a b : Statement} (ht : a.text = b.text) (hb : a.binds = b.binds) : a = b := by
  cases a; cases b; simp_all

/-- two fragments may stand side by side -/
def Meets (a b : String) : Prop := EndsPlain a ∨ Breaks b

theorem Aligned.resumes {a b : Statement} (ha : a.Aligned) (h : Meets a.text b.text) :
    Scan.Resumes (Scan.run .plain a.text.toList) b.text.toList := by
  rcases h with h | h
  · exact Scan.resumes_plain h _
  · exact Scan.resumes_of_breaks ha.closed h

theorem Aligned.append {a b : Statement} (ha : a.Aligned) (hb : b.Aligned) (h : Meets a.text b.text) :
    (a ++ b).Aligned := by
  have hr := ha.resumes h
  constructor
  · rw [Closed, text_append, String.toList_append, Scan.run_append]
    exact hr.closed hb.closed
  · have h1 : Scan.count .plain a.text.toList = a.binds.length := ha.counted
    have h2 : Scan.count .plain b.text.toList = b.binds.length := hb.counted
    simp only [Statement.placeholders, SqlSession.placeholders, text_append, String.toList_append, Scan.count_append,
      hr.count, h1, h2, binds_append, List.length_append]

theorem Lies.append {a b : Statement} {l m : Layout} (ha : a.Lies l) (hb : b.Lies m) (h : Meets a.text b.text) :
    (a ++ b).Lies (l ++ m) := by
  refine ⟨ha.aligned.append hb.aligned h, ?_⟩
  rw [Statement.layout, text_append, binds_append, String.toList_append,
    Scan.weave_append _ _ _ _ _ ha.aligned.counted, (ha.aligned.resumes h).weave, ← ha.laid, ← hb.laid]
  rfl

theorem Aligned.lies {s : Statement} (h : s.Aligned) : s.Lies s.layout := ⟨h, rfl⟩

theorem lies_ofText {text : String} (h : Quiet text) : (ofText text).Lies (.ofText text) :=
  ⟨⟨h.closed, h.placeholders⟩, Scan.weave_nil _ _⟩

theorem lies_placeholder (value : Datum) : Lies ⟨"?", [value]⟩ (.ofDatum value) :=
  ⟨⟨show Closed "?" by decide, show SqlSession.placeholders "?" = 1 by decide⟩, by
    have ht : "?".toList = ['?'] := by decide
    simp [layout, ht, Scan.weave, Scan.isPlaceholder, Scan.State.isOutside, Layout.ofDatum]⟩

theorem lies_empty : Lies ⟨"", []⟩ [] := ⟨⟨show Closed "" by decide, rfl⟩, rfl⟩

/-! ## Many fragments -/

/-- texts between fragments, whatever these are -/
structure Separates (separator : String) : Prop where
  quiet : Quiet separator
  breaks : Breaks separator
  plain : EndsPlain separator
  nonempty : separator.toList ≠ []

theorem separates_space : Separates " " := by constructor <;> decide

theorem separates_comma : Separates ", " := by constructor <;> decide

theorem join_cons (separator : String) (p q : Statement) (rest : List Statement) :
    join separator (p :: q :: rest) = p ++ ofText separator ++ join separator (q :: rest) := by
  apply ext <;> simp [join, Text.joinWith, String.append_assoc]

theorem lies_join {separator : String} (hs : Separates separator) {parts : List Statement} {ls : List Layout}
    (h : List.Forall₂ Lies parts ls) : (join separator parts).Lies (Layout.join separator ls) := by
  induction h with
  | nil => exact lies_empty
  | @cons p l parts ls hp hrest ih =>
    cases hrest with
    | nil => simpa [join, Text.joinWith, Layout.join] using hp
    | @cons q m parts ls hq hrest =>
      rw [join_cons, Layout.join]
      have hpq : (p ++ ofText separator).Lies (l ++ .ofText separator) :=
        hp.append (lies_ofText hs.quiet) (.inr hs.breaks)
      have hplain : EndsPlain (p.text ++ separator) := .append hp.aligned.closed hs.breaks hs.plain hs.nonempty
      exact hpq.append ih (.inl hplain)

/-- a text is quiet if the statement of it without values is aligned -/
theorem Aligned.quiet {text : String} (h : (ofText text).Aligned) : Quiet text := ⟨h.closed, h.counted⟩

theorem Lies.isEmpty {s : Statement} {l : Layout} (h : s.Lies l) : l.isEmpty = s.text.isEmpty := by
  have hl : l = Scan.weave .plain s.binds s.text.toList := h.laid.symm
  cases hcs : s.text.toList with
  | nil =>
    have ht : s.text = "" := String.toList_inj.1 hcs
    simp [hl, ht, Scan.weave]
  | cons c cs =>
    have ht : s.text ≠ "" := fun ht => by simp [ht] at hcs
    have hw : l ≠ [] := by
      rw [hl, hcs]
      by_cases hc : Scan.isPlaceholder .plain c
      · cases s.binds <;> simp [Scan.weave, hc]
      · simp [Scan.weave, hc]
    rw [Bool.eq_iff_iff]
    simp [ht, hw]

theorem Aligned.binds_of_empty {s : Statement} (h : s.Aligned) (ht : s.text = "") : s.binds = [] := by
  have hc : SqlSession.placeholders s.text = s.binds.length := h.counted
  rw [ht] at hc
  exact List.length_eq_zero_iff.1 hc.symm

end Statement

/-! ## Quiet texts -/

theorem Quiet.append {a b : String} (ha : Quiet a) (hb : Quiet b) (h : Statement.Meets a b) : Quiet (a ++ b) :=
  ((Statement.lies_ofText ha).append (Statement.lies_ofText hb) h).aligned.quiet

theorem quiet_of_calm {text : String} (h : ∀ c ∈ text.toList, Scan.isCalm c = true) : Quiet text := by
  obtain ⟨hr, hn⟩ := Scan.run_calm h
  exact ⟨by rw [Closed, hr]; rfl, hn⟩

theorem Scan.isCalm_of_isDigit {c : Char} (h : c.isDigit = true) : isCalm c = true := by
  have hq : ∀ d : Char, d.isDigit = false → c ≠ d := by
    rintro d hd rfl
    simp [h] at hd
  have h1 := hq '?' (by decide)
  have h2 := hq '\'' (by decide)
  have h3 := hq '"' (by decide)
  have h4 := hq '`' (by decide)
  have h5 := hq '#' (by decide)
  have h6 := hq '-' (by decide)
  have h7 := hq '/' (by decide)
  simp [isCalm, step, fresh, Quote.ofMark?, h1, h2, h3, h4, h5, h6, h7]

/-- a natural number is written in digits -/
theorem isDigit_of_mem_toString {n : Nat} {c : Char} (h : c ∈ (toString n).toList) : c.isDigit = true := by
  have hd : c ∈ Nat.toDigits 10 n := by simpa [toString, Nat.toList_repr] using h
  exact Nat.isDigit_of_mem_toDigits (show 0 < 10 by decide) (by decide) hd

/-- different natural numbers are written in different digits -/
theorem toString_inj {m n : Nat} (h : toString m = toString n) : m = n := by
  have hdigits : Nat.toDigits 10 m = Nat.toDigits 10 n := by
    simpa [toString, Nat.toList_repr] using congrArg String.toList h
  calc m = Nat.ofDigitChars 10 (Nat.toDigits 10 m) 0 := (Nat.ofDigitChars_toDigits (by decide) (by decide)).symm
    _ = Nat.ofDigitChars 10 (Nat.toDigits 10 n) 0 := by rw [hdigits]
    _ = n := Nat.ofDigitChars_toDigits (by decide) (by decide)

theorem quiet_natural (n : Nat) : Quiet (toString n) :=
  quiet_of_calm fun _ hc => Scan.isCalm_of_isDigit (isDigit_of_mem_toString hc)

theorem quiet_joinWith {separator : String} (hs : Statement.Separates separator) {texts : List String}
    (h : ∀ text ∈ texts, Quiet text) : Quiet (Text.joinWith separator texts) := by
  have hf : List.Forall₂ Statement.Lies (texts.map Statement.ofText) (texts.map .ofText) := by
    rw [List.forall₂_map_left_iff, List.forall₂_map_right_iff, List.forall₂_same]
    exact fun text ht => Statement.lies_ofText (h text ht)
  have ha := (Statement.lies_join hs hf).aligned
  have hj : Statement.join separator (texts.map Statement.ofText) = .ofText (Text.joinWith separator texts) := by
    apply Statement.ext
    · show Text.joinWith separator ((texts.map Statement.ofText).map Statement.text) = _
      rw [List.map_map]
      exact congrArg _ (List.map_id texts)
    · simp [Statement.join]
  rw [hj] at ha
  exact ha.quiet

end SqlSession
