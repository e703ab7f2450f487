/-
Where the literals of texts and documents end.

A text stands between single quotes with slashes inside, and a document does by its compact text. Whatever follows such
a literal, if it is not another single quote, the literal is a token of its own that ends with its own closing quote,
and what follows is read as if it stood alone. Taking the slashes away gives the text back, so different texts have
different literals, in every statement.
- `Inside.unique`, `reads_quoted_iff`: the characters decide where a quoted token ends, and nothing else can be read;
- `run_front`: a scan of slashed characters never stands behind a mark that might close;
- `crosses_quoted`: a walk along the bytes of a quoted token takes no turn out of it but with its last byte;
- `delimited_quotedText`, `quotedText_append_inj`: a text in slashes and quotes, and the way back to it;
- `literal_delimits`: the literals of texts and documents.
-/
import SqlSession.Proofs.Scan.Literals
import SqlSession.Proofs.Scan.Walks

namespace SqlSession

open String (utf8Len utf8Len_cons utf8Len_append utf8Len_nil)

namespace Scan

/-! ## Where a quoted token ends -/

/-- what may follow behind the inside of quotes: a mark that closes them, nothing, or a last backslash -/
inductive Behind (q : Quote) : List Char → Prop
  | mark {next : List Char} (single : next.head? ≠ some q.mark) : Behind q (q.mark :: next)
  | nothing : Behind q []
  | backslash (escapes : q.hasEscapes = true) : Behind q ['\\']

theorem mark_ne_backslash (q : Quote) : q.mark ≠ '\\' := by
  cases q <;> decide

theorem ne_backslash {q : Quote} {c : Char} (bare : c = '\\' → q.hasEscapes = false) (escapes : q.hasEscapes = true) :
    c ≠ '\\' := by
  intro hc
  rw [bare hc] at escapes
  cases escapes

/-- nothing of it could be inside -/
theorem Behind.eq_nil {q : Quote} {cs body tail : List Char} (h : Behind q cs) (inside : Inside q body)
    (heq : cs = body ++ tail) : body = [] := by
  cases inside with
  | nil => rfl
  | char other bare rest =>
    cases h with
    | mark single => exact absurd (List.cons.inj heq).1.symm other
    | nothing => cases heq
    | backslash escapes => exact absurd (List.cons.inj heq).1.symm (ne_backslash bare escapes)
  | doubled rest =>
    cases h with
    | mark single => exact absurd (by rw [(List.cons.inj heq).2]; rfl) single
    | nothing => cases heq
    | backslash escapes => simp at heq
  | escaped escapes rest =>
    cases h with
    | mark single => exact absurd (List.cons.inj heq).1 (mark_ne_backslash q)
    | nothing => cases heq
    | backslash _ => simp at heq

/-- **Characters decide where the inside of quotes ends.** -/
theorem Inside.unique {q : Quote} {body body' tail tail' : List Char} (h : Inside q body) (h' : Inside q body')
    (behind : Behind q tail) (behind' : Behind q tail') (heq : body ++ tail = body' ++ tail') : body = body' := by
  -- by the first reading; its first piece is that of the second, as no two kinds of pieces begin alike
  induction h generalizing body' with
  | nil => exact (behind.eq_nil h' heq).symm
  | @char c cs other bare rest ih =>
    cases h' with
    | nil => exact behind'.eq_nil (.char other bare rest) heq.symm
    | char other' bare' rest' =>
      obtain ⟨rfl, htail⟩ := List.cons.inj heq
      rw [ih rest' htail]
    | doubled rest' => exact absurd (List.cons.inj heq).1 other
    | escaped escapes rest' => exact absurd (List.cons.inj heq).1 (ne_backslash bare escapes)
  | @doubled cs rest ih =>
    cases h' with
    | nil => exact behind'.eq_nil (.doubled rest) heq.symm
    | char other' bare' rest' => exact absurd (List.cons.inj heq).1.symm other'
    | doubled rest' => rw [ih rest' (List.cons.inj (List.cons.inj heq).2).2]
    | escaped escapes rest' => exact absurd (List.cons.inj heq).1 (mark_ne_backslash q)
  | @escaped c cs escapes rest ih =>
    cases h' with
    | nil => exact behind'.eq_nil (.escaped escapes rest) heq.symm
    | char other' bare' rest' => exact absurd (List.cons.inj heq).1.symm (ne_backslash bare' escapes)
    | doubled rest' => exact absurd (List.cons.inj heq).1.symm (mark_ne_backslash q)
    | escaped escapes' rest' =>
      obtain ⟨rfl, htail⟩ := List.cons.inj (List.cons.inj heq).2
      rw [ih rest' htail]

theorem mark_injective {q q' : Quote} (h : q.mark = q'.mark) : q = q' := by
  cases q <;> cases q' <;> first | rfl | exact absurd h (by decide)

theorem ofMark?_mark (q : Quote) : Quote.ofMark? q.mark = some q := by
  cases q <;> rfl

/-- where a closed quoted token stands, no other one does -/
theorem Stands.eq_quoted {q : Quote} {body next cs : List Char} {token : Token} (h : Stands token cs)
    (inside : Inside q body) (single : next.head? ≠ some q.mark)
    (heq : token.text ++ cs = (Token.quoted q body true).text ++ next) : token = .quoted q body true := by
  have hends : Behind q (q.mark :: next) := .mark single
  have hquoted : (Token.quoted q body true).text ++ next = q.mark :: (body ++ q.mark :: next) := by
    simp [Token.text]
  have hhead : (token.text ++ cs).head? = some q.mark := by rw [heq, hquoted]; rfl
  rw [hquoted] at heq
  cases h with
  | placeholder => exact absurd hhead (by cases q <;> simp [Token.text, Quote.mark])
  | char bland =>
    obtain rfl := (List.cons.inj heq).1
    have hnone := bland.quote
    rw [ofMark?_mark] at hnone
    cases hnone
  | quoted inside' single' =>
    rw [Token.text_quoted, List.append_assoc] at heq
    obtain ⟨hmark, hrest⟩ := List.cons.inj heq
    obtain rfl := mark_injective hmark
    rw [inside'.unique inside (.mark single') hends hrest]
  | openQuote inside' =>
    rw [Token.text_openQuote] at heq
    obtain ⟨hmark, hrest⟩ := List.cons.inj heq
    obtain rfl := mark_injective hmark
    -- then what stands behind it would be nothing
    obtain rfl := inside'.unique inside .nothing hends hrest
    exact absurd (List.append_cancel_left hrest) (by simp)
  | openEscape inside' escapes =>
    rw [Token.text_openQuote, List.append_nil] at heq
    obtain ⟨hmark, hrest⟩ := List.cons.inj heq
    obtain rfl := mark_injective hmark
    obtain rfl := inside'.unique inside (.backslash escapes) hends hrest
    exact absurd (List.cons.inj (List.append_cancel_left hrest)).1 (mark_ne_backslash _).symm
  | line _ opens within => exact absurd hhead (by cases opens <;> cases q <;> simp [Token.text, Quote.mark])
  | openLine opens within => exact absurd hhead (by cases opens <;> cases q <;> simp [Token.text, Quote.mark])
  | block _ within => exact absurd hhead (by cases q <;> simp [Token.text, Quote.mark])
  | openBlock within => exact absurd hhead (by cases q <;> simp [Token.text, Quote.mark])

/-- **A closed quoted token is read as one**, and what follows it is read on its own. -/
theorem reads_quoted_iff {q : Quote} {body next : List Char} (inside : Inside q body)
    (single : next.head? ≠ some q.mark) (tokens : List Token) :
    Reads tokens ((Token.quoted q body true).text ++ next) ↔
      ∃ others, tokens = .quoted q body true :: others ∧ Reads others next := by
  constructor
  · intro h
    generalize hcs : (Token.quoted q body true).text ++ next = cs at h
    cases h with
    | nil => simp [Token.text] at hcs
    | @cons token others rest stands reads =>
      obtain rfl := stands.eq_quoted inside single hcs.symm
      rw [List.append_cancel_left hcs]
      exact ⟨others, rfl, reads⟩
  · rintro ⟨others, rfl, reads⟩
    exact .cons (.quoted inside single) reads

/-! ## Slashed characters -/

theorem slashed_cases (c : Char) :
    (slashed c = [c] ∧ c ≠ '\\' ∧ c ≠ '\'') ∨ ∃ d : Char, slashed c = ['\\', d] := by
  unfold slashed
  split_ifs with hslash hnull
  · exact .inr ⟨c, rfl⟩
  · exact .inr ⟨'0', rfl⟩
  · exact .inl ⟨rfl, fun hb => hslash (.inl hb), fun hq => hslash (.inr (.inl hq))⟩

theorem inside_slashed (cs : List Char) : Inside .single (cs.flatMap slashed) := by
  induction cs with
  | nil => exact .nil
  | cons c cs ih =>
    rw [List.flatMap_cons]
    rcases slashed_cases c with ⟨hc, hbare, hmark⟩ | ⟨d, hd⟩
    · rw [hc]
      exact .char hmark (fun h => absurd h hbare) ih
    · rw [hd]
      exact .escaped rfl ih

/-- **No mark among slashed characters might close.** A scan of them is inside the quotes at every point. -/
theorem run_front {front cs : List Char} (h : front <+: cs.flatMap slashed) :
    run (.quoted .single) front = .quoted .single ∨ run (.quoted .single) front = .escaped .single := by
  induction cs generalizing front with
  | nil =>
    rw [List.flatMap_nil, List.prefix_nil] at h
    exact .inl (by rw [h, run_nil])
  | cons c cs ih =>
    rw [List.flatMap_cons] at h
    cases front with
    | nil => exact .inl rfl
    | cons first front =>
      rcases slashed_cases c with ⟨hc, hbare, hmark⟩ | ⟨d, hd⟩
      · rw [hc, List.singleton_append, List.cons_prefix_cons] at h
        obtain ⟨rfl, hfront⟩ := h
        have hstep : step (.quoted .single) first = .quoted .single := by
          simp [step, Quote.mark, hbare, hmark]
        rw [run_cons, hstep]
        exact ih hfront
      · rw [hd, List.cons_append, List.singleton_append, List.cons_prefix_cons] at h
        obtain ⟨rfl, hfront⟩ := h
        -- the scan may stop between the backslash and what it keeps
        cases front with
        | nil => exact .inr rfl
        | cons second front =>
          obtain ⟨rfl, hbehind⟩ := List.cons_prefix_cons.1 hfront
          have hstep : step (step (.quoted .single) '\\') second = .quoted .single := rfl
          rw [run_cons, run_cons, hstep]
          exact ih hbehind

end Scan

namespace Walk

/-! ## Turns over a quoted token -/

/-- a walk enters these quotes with the first byte and leaves them with the one at `n`; in between, no turn leaves them,
and none goes beyond -/
structure Crosses (bytes : List UInt8) (q : Quote) (n : Nat) : Prop where
  enters : ∃ h : 0 < bytes.length, bytes[0] ≠ '?'.toUInt8 ∧ step .normal bytes[0] (bytes.drop 1) = (.quoted q, 0)
  lingers : Lingers bytes (.quoted q) 1 n
  leaves : ∃ h : n < bytes.length, step (.quoted q) bytes[n] (bytes.drop (n + 1)) = (.normal, 0)

/-- **A walk crosses a closed quoted token** and is outside again behind its last byte. -/
theorem crosses_quoted {bytes : List UInt8} {q : Quote} {body next : List Char} (inside : Scan.Inside q body)
    (single : next.head? ≠ some q.mark) (h : At bytes 0 ((Scan.Token.quoted q body true).text ++ next)) :
    Crosses bytes q (1 + utf8Len body) := by
  have hmark : ∀ cs, encode (q.mark :: cs) = q.mark.toUInt8 :: encode cs := fun cs => by
    rw [encode_cons, utf8EncodeChar_ascii (mark_ascii q), List.singleton_append]
  have hone : utf8Len [q.mark] = 1 := by rw [← length_encode, hmark]; rfl
  rw [Scan.Token.text_quoted, List.append_assoc, List.cons_append, List.singleton_append] at h
  have hbody : At bytes 1 (body ++ q.mark :: next) := by
    have hbehind := h.append [q.mark]
    rwa [hone] at hbehind
  have hclosing := hbody.append body
  rw [At, hmark] at h hclosing
  obtain ⟨hfirst, hopens, -⟩ := at_of_drop h
  obtain ⟨hlast, hcloses, hnext⟩ := at_of_drop hclosing
  refine ⟨⟨hfirst, ?_⟩, lingers_inside inside hbody, hlast, ?_⟩
  · rw [hopens]
    exact ⟨by cases q <;> decide, step_openingMark q _⟩
  · rw [hcloses, hnext]
    exact step_closingMark single

theorem Crosses.leads {bytes : List UInt8} {q : Quote} {n : Nat} (h : Crosses bytes q n) :
    Leads bytes .normal 0 [] .normal (n + 1) := by
  obtain ⟨hfirst, hother, henters⟩ := h.enters
  obtain ⟨hlast, hleaves⟩ := h.leaves
  have hin := leads_step (List.drop_eq_getElem_cons hfirst) (fun hp => hother hp.2) henters
  have hout := leads_step (List.drop_eq_getElem_cons hlast) (by simp) hleaves
  exact hin.quiet (h.lingers.leads.quiet hout)

/-- from behind the bytes in front of them, others are walked as if they stood alone -/
theorem walk_behind (front bytes : List UInt8) (place : Place) (i : Nat) :
    walk (front ++ bytes) place (front.length + i) =
      ((walk bytes place i).1.map (front.length + ·), (walk bytes place i).2) := by
  have hget : ∀ {i} (h : i < bytes.length) (h' : front.length + i < (front ++ bytes).length),
      (front ++ bytes)[front.length + i] = bytes[i] := by
    intro i h h'
    simp
  have hlen : ∀ i, front.length + i < (front ++ bytes).length ↔ i < bytes.length := by simp
  fun_induction walk bytes place i with
  | case1 place i h hp marks last hwalk ih =>
    have h' := (hlen i).2 h
    rw [walk, dif_pos h', if_pos ⟨hp.1, (hget h h').trans hp.2⟩]
    simp [Nat.add_assoc, ih, hwalk]
  | case2 place i h hp next extra hstep ih =>
    have h' := (hlen i).2 h
    have hp' : ¬(place = .normal ∧ (front ++ bytes)[front.length + i] = '?'.toUInt8) := by rwa [hget h h']
    have hdrop : (front ++ bytes).drop (front.length + i + 1) = bytes.drop (i + 1) := by
      rw [Nat.add_assoc, List.drop_length_add_append]
    rw [walk, dif_pos h', if_neg hp', hget h h', hdrop, hstep]
    have hnext : front.length + i + 1 + extra = front.length + (i + 1 + extra) := by omega
    simpa only [hnext] using ih
  | case3 place i h =>
    rw [walk, dif_neg fun h' => h ((hlen i).1 h')]
    rfl

theorem bytes_append (a b : String) : bytes (a ++ b) = bytes a ++ bytes b := by
  rw [bytes_eq, bytes_eq, bytes_eq, String.toList_append, encode_append]

end Walk

/-! ## Texts -/

/-- in front of `rest` the literal is one token between single quotes, with `body` inside, that ends with its own
closing quote -/
structure Delimited (literal body rest : String) : Prop where
  enclosed : literal = "'" ++ body ++ "'"
  /-- both are read as this token and the tokens of what follows, in no other way -/
  token (tokens : List Scan.Token) : Scan.Reads tokens (literal ++ rest).toList ↔
    ∃ others, tokens = .quoted .single body.toList true :: others ∧ Scan.Reads others rest.toList
  /-- between two characters of the literal a scan is inside the quotes -/
  inside (front back : List Char) : literal.toList = front ++ back → front ≠ [] → back ≠ [] →
    Scan.run .plain front = .quoted .single ∨ Scan.run .plain front = .escaped .single
  closes : Scan.run .plain literal.toList = .closing .single
  /-- from the next character on, a scan goes on as if what follows stood alone -/
  behind (front : List Char) : front <+: rest.toList → front ≠ [] →
    Scan.run .plain (literal.toList ++ front) = Scan.run .plain front
  /-- a walk along the bytes leaves the quotes with the last byte of the literal -/
  crossed : Walk.Crosses (Walk.bytes (literal ++ rest)) .single ((Walk.bytes literal).length - 1)
  found : Walk.found (literal ++ rest) =
    ((Walk.found rest).1.map ((Walk.bytes literal).length + ·), (Walk.found rest).2)

open Datum (quotedText)

section

variable (s : String)

def slashedToken : Scan.Token := .quoted .single (addSlashes s).toList true

theorem inside_addSlashes : Scan.Inside .single (addSlashes s).toList := by
  rw [addSlashes, String.toList_ofList]
  exact Scan.inside_slashed s.toList

theorem toList_quotedText : (quotedText s).toList = (slashedToken s).text := by
  rw [quotedText, String.toList_append, String.toList_append]
  rfl

theorem length_quotedText : (Walk.bytes (quotedText s)).length = 1 + utf8Len (addSlashes s).toList + 1 := by
  have hone : '\''.utf8Size = 1 := by decide
  rw [Walk.bytes_eq, Walk.length_encode, toList_quotedText, slashedToken, Scan.Token.text_quoted, utf8Len_append,
    utf8Len_cons, utf8Len_cons, utf8Len_nil]
  simp only [Quote.mark, hone]
  omega

theorem run_quotedText : Scan.run .plain (quotedText s).toList = .closing .single := by
  have hopened := (Scan.run_opened (inside_addSlashes s)).1
  rw [toList_quotedText, slashedToken, Scan.Token.text_quoted, Scan.run_append, hopened]
  rfl

theorem run_quotedText_front {front back : List Char} (h : (quotedText s).toList = front ++ back) (hfront : front ≠ [])
    (hback : back ≠ []) :
    Scan.run .plain front = .quoted .single ∨ Scan.run .plain front = .escaped .single := by
  obtain ⟨first, front, rfl⟩ := List.exists_cons_of_ne_nil hfront
  obtain ⟨back, last, rfl⟩ := (List.eq_nil_or_concat back).resolve_left hback
  rw [toList_quotedText, slashedToken, Scan.Token.text_quoted, List.concat_eq_append, ← List.append_assoc] at h
  -- without its two quotes the literal is what was slashed
  obtain ⟨rfl, hslashed⟩ := List.cons.inj (List.append_inj_left' h rfl)
  have hbody : (addSlashes s).toList = s.toList.flatMap slashed := by rw [addSlashes, String.toList_ofList]
  exact Scan.run_front ⟨back, hslashed.symm.trans hbody⟩

variable {rest : String} (hrest : rest.toList.head? ≠ some '\'')

include hrest

theorem crosses_quotedText :
    Walk.Crosses (Walk.bytes (quotedText s ++ rest)) .single ((Walk.bytes (quotedText s)).length - 1) := by
  rw [length_quotedText, Nat.add_sub_cancel]
  refine Walk.crosses_quoted (inside_addSlashes s) hrest ?_
  rw [Walk.At, List.drop_zero, Walk.bytes_eq, String.toList_append, toList_quotedText, slashedToken]

theorem found_quotedText : Walk.found (quotedText s ++ rest) =
    ((Walk.found rest).1.map ((Walk.bytes (quotedText s)).length + ·), (Walk.found rest).2) := by
  have hpositive : (Walk.bytes (quotedText s)).length - 1 + 1 = (Walk.bytes (quotedText s)).length := by
    rw [length_quotedText]
    rfl
  have hleads := (crosses_quotedText s hrest).leads
  have hbehind := Walk.walk_behind (Walk.bytes (quotedText s)) (Walk.bytes rest) .normal 0
  rw [Walk.Leads, hpositive, Walk.bytes_append, List.nil_append] at hleads
  rw [Nat.add_zero] at hbehind
  rw [Walk.found, Walk.bytes_append, hleads, hbehind, Walk.found]

/-- **A text in slashes and quotes delimits itself.** -/
theorem delimited_quotedText : Delimited (quotedText s) (addSlashes s) rest where
  enclosed := rfl
  token tokens := by
    rw [String.toList_append, toList_quotedText]
    exact Scan.reads_quoted_iff (inside_addSlashes s) hrest tokens
  inside _ _ := run_quotedText_front s
  closes := run_quotedText s
  behind front _ hne := by
    obtain ⟨c, front, rfl⟩ := List.exists_cons_of_ne_nil hne
    rw [Scan.run_append, run_quotedText, Scan.run_cons, Scan.run_cons, Scan.step_settled rfl]
    rfl
  crossed := crosses_quotedText s hrest
  found := found_quotedText s hrest

end

/-- **The token gives away what was slashed, and what stands behind it.** -/
theorem quotedText_append_inj {s s' rest rest' : String} (hrest : rest.toList.head? ≠ some '\'')
    (hrest' : rest'.toList.head? ≠ some '\'') (heq : quotedText s ++ rest = quotedText s' ++ rest') :
    s = s' ∧ rest = rest' := by
  have hchars : (slashedToken s).text ++ rest.toList = (slashedToken s').text ++ rest'.toList := by
    rw [← toList_quotedText, ← toList_quotedText, ← String.toList_append, heq, String.toList_append]
  have hstands : Scan.Stands (slashedToken s) rest.toList := .quoted (inside_addSlashes s) hrest
  have htoken : slashedToken s = slashedToken s' := hstands.eq_quoted (inside_addSlashes s') hrest' hchars
  have hbody : addSlashes s = addSlashes s' := String.toList_inj.1 (Scan.Token.quoted.inj htoken).2.1
  have hsame : s = s' := by
    calc s
      _ = removeSlashes (addSlashes s) := (removeSlashes_addSlashes s).symm
      _ = removeSlashes (addSlashes s') := by rw [hbody]
      _ = s' := removeSlashes_addSlashes s'
  rw [htoken] at hchars
  exact ⟨hsame, String.toList_inj.1 (List.append_cancel_left hchars)⟩

/-- a text with a placeholder, with a single value in it -/
theorem Scan.exists_fill_single {s : Scan.State} {cs : List Char} (h : Scan.count s cs ≠ 0) :
    ∃ front back : List Char, ∀ value : Datum, Scan.fill s [value] cs = front ++ value.literal.toList ++ back := by
  induction cs generalizing s with
  | nil => exact absurd rfl h
  | cons c cs ih =>
    by_cases hp : Scan.isPlaceholder s c = true
    · refine ⟨[], cs, fun value => ?_⟩
      rw [Scan.fill_cons_placeholder hp, Scan.fill_nil, List.nil_append]
    · have hother : Scan.isPlaceholder s c = false := Bool.eq_false_of_not_eq_true hp
      rw [Scan.count, if_neg hp, Nat.zero_add] at h
      obtain ⟨front, back, hfill⟩ := ih h
      refine ⟨c :: front, back, fun value => ?_⟩
      rw [Scan.fill_cons_other hother, hfill]
      rfl

theorem literal_eq_of_fill {text : String} (h : placeholders text ≠ 0) {value other : Datum}
    (heq : fill text [value] = fill text [other]) : value.literal = other.literal := by
  obtain ⟨front, back, hfill⟩ := Scan.exists_fill_single h
  have hchars : Scan.fill .plain [value] text.toList = Scan.fill .plain [other] text.toList :=
    String.ofList_injective heq
  rw [hfill, hfill] at hchars
  exact String.toList_inj.1 (List.append_cancel_left (List.append_cancel_right hchars))

/-! ## Values -/

namespace Datum

/-- values that are written in single quotes with slashes inside, and the text that is written so -/
inductive Quotes : Datum → String → Prop
  | text (s : String) : Quotes (.text s) s
  | json (document : Json) : Quotes (.json document) document.render

theorem Quotes.literal_eq {value : Datum} {s : String} (h : value.Quotes s) : value.literal = quotedText s := by
  cases h with
  | text s => rfl
  | json document => rfl

end Datum

/-- **Literals of texts and documents delimit themselves.** Whatever follows but a single quote, the literal is one
token that ends with its own closing quote, and taking away the slashes inside gives back the text, or the compact text
of the document. So another text has another literal, whatever follows it, and makes another text of every statement
with a placeholder. -/
theorem literal_delimits {value : Datum} {s : String} (hvalue : value.Quotes s) (rest : String)
    (hrest : rest.toList.head? ≠ some '\'') :
    Delimited value.literal (addSlashes s) rest ∧ removeSlashes (addSlashes s) = s ∧
      ∀ {other : Datum} {s' : String}, other.Quotes s' →
        (∀ rest' : String, rest'.toList.head? ≠ some '\'' → value.literal ++ rest = other.literal ++ rest' →
          s = s' ∧ rest = rest') ∧
        (∀ text : String, placeholders text ≠ 0 → fill text [value] = fill text [other] → s = s') := by
  rw [hvalue.literal_eq]
  refine ⟨delimited_quotedText s hrest, removeSlashes_addSlashes s, fun {other s'} hother => ?_⟩
  refine ⟨fun rest' hrest' heq => ?_, fun text htext heq => ?_⟩
  · rw [hother.literal_eq] at heq
    exact quotedText_append_inj hrest hrest' heq
  · have hliteral := literal_eq_of_fill htext heq
    rw [hvalue.literal_eq, hother.literal_eq] at hliteral
    exact (quotedText_append_inj hrest hrest (by rw [hliteral])).1

/-- quotes, a backslash and a null character in front of a text in double quotes, and a document with such quotes -/
theorem literal_delimits_hostile :
    let rest := "\"?\", ?"
    rest.toList.head? ≠ some '\'' ∧ (Datum.text "\\'\x00?").literal ++ rest = "'\\\\\\'\\0?'\"?\", ?" ∧
      removeSlashes "\\\\\\'\\0?" = "\\'\x00?" ∧
      (Walk.found ((Datum.text "\\'\x00?").literal ++ rest)).1 = [14] ∧
      removeSlashes "\\\"\\'\\\\\\\"\\\"" = (Json.text "'\"").render ∧
      fill "a = ?" [.text "\\'\x00?"] ≠ fill "a = ?" [.json (.text "'\"")] := by
  intro rest
  have hrest : rest.toList.head? ≠ some '\'' := by decide
  obtain ⟨hdelimited, hback, hother⟩ := literal_delimits (.text "\\'\x00?") rest hrest
  obtain ⟨-, hdocument, -⟩ := literal_delimits (.json (.text "'\"")) rest hrest
  refine ⟨hrest, by decide, hback, ?_, hdocument, fun heq => ?_⟩
  · rw [hdelimited.found, (Walk.found_text rest).1]
    decide
  · exact absurd ((hother (.json (.text "'\""))).2 "a = ?" (by decide) heq) (by decide)

/-- another single quote goes on with the literal -/
example : literals ((Datum.text "a").literal ++ "'b'") = [(.single, "a''b")] := by decide

end SqlSession
