/-
Quoted literals of a text, and the slashes inside them.

`literals` lists what stands between quotes, in order, as a scan of the text finds it: a doubled mark and a mark behind
a backslash do not end a literal. Main results:
- `literals_append`: fragments that may stand side by side have the literals of both;
- `literals_enclosed`, `quiet_enclosed`: a text that stays within quotes is one literal, closed and without placeholders;
- `within_slashed`, `removeSlashes_addSlashes`: a text with slashes stays within single quotes, and taking the slashes
  away gives the text back.
-/
import SqlSession.Proofs.Scan.Layout

namespace SqlSession

namespace Scan

/-- the literals that come to an end in these characters, each with what encloses it; `read` holds the characters of the
one that the scan stands in -/
def literals : State → List Char → List Char → List (Quote × List Char)
  | .closing q, read, [] => [(q, read)]
  | _, _, [] => []
  | .closing q, read, c :: cs =>
    if c = q.mark then literals (.quoted q) (read ++ [c, c]) cs else (q, read) :: literals (fresh c) [] cs
  | .quoted q, read, c :: cs =>
    literals (step (.quoted q) c) (if step (.quoted q) c = .closing q then read else read ++ [c]) cs
  | .escaped q, read, c :: cs => literals (.quoted q) (read ++ [c]) cs
  | s, _, c :: cs => literals (step s c) [] cs

theorem mark_not_break (q : Quote) {c : Char} (hc : breaks c = true) : c ≠ q.mark := by
  rintro rfl
  cases q <;> exact absurd hc (by decide)

/-- behind a break everything is read as if it stood alone -/
theorem literals_break {s : State} {c : Char} (hs : s.isClosed = true) (hc : breaks c = true) (read cs : List Char) :
    literals s read (c :: cs) = literals s read [] ++ literals .plain [] (c :: cs) := by
  have hplain : literals .plain [] (c :: cs) = literals .plain [] cs := by
    simp [literals, (step_break (s := .plain) rfl hc).1]
  rw [hplain]
  cases s with
  | closing q =>
    have hfresh : fresh c = .plain := (step_break (s := .plain) rfl hc).1
    simp [literals, mark_not_break q hc, hfresh]
  | plain => simp [literals, (step_break hs hc).1]
  | dash => simp [literals, (step_break hs hc).1]
  | slash => simp [literals, (step_break hs hc).1]
  | _ => simp [State.isClosed, State.isOutside] at hs

/-- where the second part is read as if it stood alone, the literals are those of both parts -/
theorem literals_parts {s : State} {cs ds : List Char}
    (h : ∀ read, literals (run s cs) read ds = literals (run s cs) read [] ++ literals .plain [] ds)
    (read : List Char) : literals s read (cs ++ ds) = literals s read cs ++ literals .plain [] ds := by
  induction cs generalizing s read with
  | nil => exact h read
  | cons d cs ih =>
    rw [run_cons] at h
    cases s with
    | closing q =>
      -- the mark may be doubled: then the literal goes on, otherwise it ends here
      by_cases hd : d = q.mark
      · have hstep : step (.closing q) d = .quoted q := if_pos hd
        rw [hstep] at h
        simp [literals, hd, ih h]
      · have hstep : step (.closing q) d = fresh d := if_neg hd
        rw [hstep] at h
        simp [literals, hd, ih h]
    | escaped q =>
      have hstep : step (.escaped q) d = .quoted q := rfl
      rw [hstep] at h
      simpa only [List.cons_append, literals] using ih h _
    | _ => simpa only [List.cons_append, literals] using ih h _

/-! ## Inside quotes -/

/-- characters that a scan inside these quotes passes over: they neither close them nor hold a placeholder -/
structure Within (q : Quote) (cs : List Char) : Prop where
  run : run (.quoted q) cs = .quoted q
  count : count (.quoted q) cs = 0
  literals (read ds : List Char) : literals (.quoted q) read (cs ++ ds) = Scan.literals (.quoted q) (read ++ cs) ds

theorem within_nil (q : Quote) : Within q [] :=
  ⟨rfl, rfl, fun read ds => by simp⟩

theorem Within.append {q : Quote} {cs ds : List Char} (hc : Within q cs) (hd : Within q ds) : Within q (cs ++ ds) where
  run := by rw [run_append, hc.run, hd.run]
  count := by rw [count_append, hc.run, hc.count, hd.count]
  literals read es := by rw [List.append_assoc, hc.literals, hd.literals, List.append_assoc]

theorem within_flatMap {α : Type} {q : Quote} {f : α → List Char} {xs : List α} (h : ∀ x ∈ xs, Within q (f x)) :
    Within q (xs.flatMap f) := by
  induction xs with
  | nil => exact within_nil q
  | cons x xs ih =>
    obtain ⟨hx, hxs⟩ := List.forall_mem_cons.1 h
    exact hx.append (ih hxs)

/-- any character but the mark and a backslash -/
theorem within_char {q : Quote} {c : Char} (hb : c ≠ '\\') (hq : c ≠ q.mark) : Within q [c] := by
  have hstep : step (.quoted q) c = .quoted q := by simp [step, hb, hq]
  refine ⟨?_, ?_, fun read ds => ?_⟩
  · rw [run_cons, hstep, run_nil]
  · simp [count, isPlaceholder, State.isOutside]
  · simp [literals, hstep]

/-- any character behind a backslash -/
theorem within_escape {q : Quote} (hq : q.hasEscapes = true) (c : Char) : Within q ['\\', c] := by
  have hstep : step (.quoted q) '\\' = .escaped q := by simp [step, hq]
  refine ⟨?_, ?_, fun read ds => ?_⟩
  · rw [run_cons, hstep, run_cons, run_nil, step]
  · simp [count, isPlaceholder, State.isOutside, hstep]
  · simp [literals, hstep]

theorem within_slashed (c : Char) : Within .single (slashed c) := by
  unfold slashed
  split_ifs with hslash hnull
  · exact within_escape rfl c
  · exact within_escape rfl '0'
  · apply within_char
    · exact fun hb => hslash (.inl hb)
    · exact fun hq => hslash (.inr (.inl hq))

/-! ## Slashes -/

/-- the characters without the slashes in front of some -/
def unslashed : List Char → List Char
  | '\\' :: '0' :: cs => '\x00' :: unslashed cs
  | '\\' :: c :: cs => c :: unslashed cs
  | c :: cs => c :: unslashed cs
  | [] => []

theorem unslashed_slashed (c : Char) (cs : List Char) : unslashed (slashed c ++ cs) = c :: unslashed cs := by
  unfold slashed
  split_ifs with hslash hnull
  · rcases hslash with rfl | rfl | rfl <;> rfl
  · simp [unslashed, hnull]
  · have hb : c ≠ '\\' := fun hb => hslash (.inl hb)
    simp [unslashed, hb]

theorem unslashed_flatMap_slashed (cs : List Char) : unslashed (cs.flatMap slashed) = cs := by
  induction cs with
  | nil => rfl
  | cons c cs ih => rw [List.flatMap_cons, unslashed_slashed, ih]

end Scan

open Scan (Within)

/-! ## Texts -/

/-- the literals of a text in order: what encloses each, and what stands between its quotes -/
def literals (text : String) : List (Quote × String) :=
  (Scan.literals .plain [] text.toList).map fun literal => (literal.1, String.ofList literal.2)

def removeSlashes (s : String) : String :=
  String.ofList (Scan.unslashed s.toList)

theorem removeSlashes_addSlashes (s : String) : removeSlashes (addSlashes s) = s := by
  rw [removeSlashes, addSlashes, String.toList_ofList, Scan.unslashed_flatMap_slashed, String.ofList_toList]

theorem within_addSlashes (s : String) : Within .single (addSlashes s).toList := by
  rw [addSlashes, String.toList_ofList]
  exact Scan.within_flatMap fun c _ => Scan.within_slashed c

/-- fragments side by side have the literals of both -/
theorem literals_append {a b : String} (ha : Closed a) (h : Statement.Meets a b) :
    literals (a ++ b) = literals a ++ literals b := by
  unfold literals
  rw [String.toList_append, ← List.map_append]
  rw [Scan.literals_parts fun read => ?_]
  rcases h with hplain | hbreak
  · rw [show Scan.run .plain a.toList = .plain from hplain]
    cases b.toList <;> rfl
  · cases hb : b.toList with
    | nil => simp [Scan.literals]
    | cons c cs => exact Scan.literals_break ha (hbreak c (by simp [hb])) read cs

/-- texts in a row have the literals of all of them -/
theorem literals_joinWith {separator : String} (hs : Statement.Separates separator) (hn : literals separator = [])
    {texts : List String} (h : ∀ text ∈ texts, Closed text) :
    literals (Text.joinWith separator texts) = texts.flatMap literals := by
  induction texts with
  | nil => rfl
  | cons a texts ih =>
    obtain ⟨ha, htexts⟩ := List.forall_mem_cons.1 h
    cases texts with
    | nil => simp [Text.joinWith]
    | cons b rest =>
      have hplain : Scan.EndsPlain (a ++ separator) := .append ha hs.breaks hs.plain hs.nonempty
      have hclosed : Closed (a ++ separator) := by rw [Closed, hplain]; rfl
      calc literals (a ++ separator ++ Text.joinWith separator (b :: rest))
        _ = literals (a ++ separator) ++ literals (Text.joinWith separator (b :: rest)) :=
          literals_append hclosed (.inl hplain)
        _ = literals a ++ literals separator ++ (b :: rest).flatMap literals := by
          rw [literals_append ha (.inr hs.breaks), ih htexts]
        _ = (a :: b :: rest).flatMap literals := by simp [hn]

/-- the text between two of these quotes -/
def Quote.enclose (q : Quote) (text : String) : String :=
  String.ofList (q.mark :: text.toList ++ [q.mark])

theorem step_plain_mark (q : Quote) : Scan.step .plain q.mark = .quoted q := by
  cases q <;> rfl

theorem step_quoted_mark (q : Quote) : Scan.step (.quoted q) q.mark = .closing q := by
  cases q <;> rfl

/-- what stays within its quotes is a single literal -/
theorem literals_enclosed {q : Quote} {text : String} (h : Within q text.toList) :
    literals (q.enclose text) = [(q, text)] := by
  have hone : Scan.literals .plain [] (q.mark :: (text.toList ++ [q.mark])) = [(q, text.toList)] := by
    calc Scan.literals .plain [] (q.mark :: (text.toList ++ [q.mark]))
      _ = Scan.literals (.quoted q) [] (text.toList ++ [q.mark]) := by simp [Scan.literals, step_plain_mark]
      _ = Scan.literals (.quoted q) text.toList [q.mark] := by rw [h.literals, List.nil_append]
      _ = [(q, text.toList)] := by simp [Scan.literals, step_quoted_mark]
  rw [literals, Quote.enclose, String.toList_ofList, List.cons_append, hone, List.map_cons, List.map_nil,
    String.ofList_toList]

theorem quiet_enclosed {q : Quote} {text : String} (h : Within q text.toList) : Quiet (q.enclose text) := by
  constructor
  · rw [Closed, Quote.enclose, String.toList_ofList, List.cons_append, Scan.run_cons, step_plain_mark, Scan.run_append,
      h.run, Scan.run_cons, step_quoted_mark]
    rfl
  · have hmark : Scan.isPlaceholder .plain q.mark = false := by cases q <;> rfl
    rw [placeholders, Quote.enclose, String.toList_ofList, List.cons_append, Scan.count, hmark, step_plain_mark,
      Scan.count_append, h.run, h.count]
    simp [Scan.count, Scan.isPlaceholder, Scan.State.isOutside]

end SqlSession
