/-
Statements as rows of tokens.

The grammar: a token is a placeholder, a character that opens nothing, a quoted text or name, or a comment. Quotes close
at a mark that is not doubled, and in texts a backslash keeps the next character; a line comment ends with its line and
a block comment with the first star and slash. A token that is not closed runs to the end.
- `exists_reads`: every text is a row of tokens;
- `Reads.scan`: a scan finds a placeholder where one is in the row, and nowhere else, and it ends outside quotes and
  comments if all tokens are closed.
-/
import Mathlib.Data.String.Basic
import SqlSession.Proofs.Scan.Filling
import SqlSession.Proofs.Scan.Standing

namespace SqlSession.Scan

open String (utf8Len utf8Len_cons utf8Len_append utf8Len_nil)

/-! ## The grammar -/

/-- what may stand between two of these quotes -/
inductive Inside (q : Quote) : List Char → Prop
  | nil : Inside q []
  | char {c : Char} {cs : List Char} (other : c ≠ q.mark) (bare : c = '\\' → q.hasEscapes = false)
      (rest : Inside q cs) : Inside q (c :: cs)
  | doubled {cs : List Char} (rest : Inside q cs) : Inside q (q.mark :: q.mark :: cs)
  | escaped {c : Char} {cs : List Char} (escapes : q.hasEscapes = true) (rest : Inside q cs) :
      Inside q ('\\' :: c :: cs)

/-- what opens a comment in front of these characters -/
inductive OpensLine : List Char → List Char → Prop
  | hash (next : List Char) : OpensLine ['#'] next
  | dashes {next : List Char} (blank : ∀ c ∈ next.head?, Text.isAsciiBlank c = true) : OpensLine ['-', '-'] next

theorem OpensLine.extended {opener cs : List Char} (h : OpensLine opener cs) (hne : cs ≠ []) (next : List Char) :
    OpensLine opener (cs ++ next) := by
  cases h with
  | hash => exact .hash _
  | dashes blank => exact .dashes (by rwa [List.head?_append_of_ne_nil cs hne])

/-- a character that opens nothing in front of these -/
structure Bland (c : Char) (next : List Char) : Prop where
  placeholder : c ≠ '?'
  quote : Quote.ofMark? c = none
  hash : c ≠ '#'
  dash : c = '-' → ∀ rest, next = '-' :: rest → ∃ d ∈ rest.head?, Text.isAsciiBlank d = false
  slash : c = '/' → next.head? ≠ some '*'

inductive Token where
  | placeholder
  | char (c : Char)
  | quoted (quote : Quote) (body : List Char) (closed : Bool)
  | line (opener body : List Char) (closed : Bool)
  | block (body : List Char) (closed : Bool)

namespace Token

def text : Token → List Char
  | placeholder => ['?']
  | char c => [c]
  | quoted q body closed => q.mark :: body ++ if closed then [q.mark] else []
  | line opener body closed => opener ++ body ++ if closed then ['\n'] else []
  | block body closed => ['/', '*'] ++ body ++ if closed then ['*', '/'] else []

section

variable (q : Quote) (opener body : List Char)

theorem text_quoted : (quoted q body true).text = q.mark :: body ++ [q.mark] := rfl

theorem text_openQuote : (quoted q body false).text = q.mark :: body := List.append_nil _

theorem text_line : (line opener body true).text = opener ++ body ++ ['\n'] := rfl

theorem text_openLine : (line opener body false).text = opener ++ body := List.append_nil _

theorem text_block : (block body true).text = '/' :: '*' :: body ++ ['*', '/'] := rfl

theorem text_openBlock : (block body false).text = '/' :: '*' :: body := List.append_nil _

end

def isClosed : Token → Bool
  | quoted _ _ closed => closed
  | line _ _ closed => closed
  | block _ closed => closed
  | _ => true

/-- where a placeholder is if the token begins at this byte -/
def marks (i : Nat) : Token → List Nat
  | placeholder => [i]
  | _ => []

end Token

/-- the token may stand in front of these characters -/
inductive Stands : Token → List Char → Prop
  | placeholder (next : List Char) : Stands .placeholder next
  | char {c : Char} {next : List Char} (bland : Bland c next) : Stands (.char c) next
  | quoted {q : Quote} {body next : List Char} (inside : Inside q body) (single : next.head? ≠ some q.mark) :
      Stands (.quoted q body true) next
  | openQuote {q : Quote} {body : List Char} (inside : Inside q body) : Stands (.quoted q body false) []
  | openEscape {q : Quote} {body : List Char} (inside : Inside q body) (escapes : q.hasEscapes = true) :
      Stands (.quoted q (body ++ ['\\']) false) []
  | line {opener body : List Char} (next : List Char) (opens : OpensLine opener (body ++ ['\n']))
      (within : '\n' ∉ body) : Stands (.line opener body true) next
  | openLine {opener body : List Char} (opens : OpensLine opener body) (within : '\n' ∉ body) :
      Stands (.line opener body false) []
  | block {body : List Char} (next : List Char) (within : ¬['*', '/'] <:+: body) : Stands (.block body true) next
  | openBlock {body : List Char} (within : ¬['*', '/'] <:+: body) : Stands (.block body false) []

/-- the characters are these tokens in a row -/
inductive Reads : List Token → List Char → Prop
  | nil : Reads [] []
  | cons {token : Token} {tokens : List Token} {cs : List Char} (stands : Stands token cs) (rest : Reads tokens cs) :
      Reads (token :: tokens) (token.text ++ cs)

/-- the bytes at which the placeholders of a row begin, if the row begins at one -/
def rowMarks : Nat → List Token → List Nat
  | _, [] => []
  | i, token :: tokens => token.marks i ++ rowMarks (i + utf8Len token.text) tokens

/-! ## Every text is a row of tokens -/

theorem Token.text_ne_nil {token : Token} {next : List Char} (h : Stands token next) : token.text ≠ [] := by
  cases h with
  | line _ opens _ => cases opens <;> simp [text]
  | openLine opens _ => cases opens <;> simp [text]
  | _ => simp [text]

/-- behind a quote: a closing one follows, or there is none, or a backslash that keeps nothing is the last character -/
theorem inside_split (q : Quote) : (cs : List Char) →
    (∃ body next, cs = body ++ q.mark :: next ∧ Inside q body ∧ next.head? ≠ some q.mark) ∨ Inside q cs ∨
      (q.hasEscapes = true ∧ ∃ body, cs = body ++ ['\\'] ∧ Inside q body)
  | [] => .inr (.inl .nil)
  | c :: cs => by
    by_cases hescape : c = '\\' ∧ q.hasEscapes = true
    · obtain ⟨rfl, he⟩ := hescape
      cases cs with
      | nil => exact .inr (.inr ⟨he, [], rfl, .nil⟩)
      | cons d cs =>
        rcases inside_split q cs with ⟨body, next, rfl, hin, hnext⟩ | hin | ⟨-, body, rfl, hin⟩
        · exact .inl ⟨'\\' :: d :: body, next, rfl, .escaped he hin, hnext⟩
        · exact .inr (.inl (.escaped he hin))
        · exact .inr (.inr ⟨he, '\\' :: d :: body, rfl, .escaped he hin⟩)
    by_cases hmark : c = q.mark
    · subst hmark
      cases cs with
      | nil => exact .inl ⟨[], [], rfl, .nil, by simp⟩
      | cons d cs =>
        by_cases hd : d = q.mark
        · subst hd
          rcases inside_split q cs with ⟨body, next, rfl, hin, hnext⟩ | hin | ⟨he, body, rfl, hin⟩
          · exact .inl ⟨q.mark :: q.mark :: body, next, rfl, .doubled hin, hnext⟩
          · exact .inr (.inl (.doubled hin))
          · exact .inr (.inr ⟨he, q.mark :: q.mark :: body, rfl, .doubled hin⟩)
        · exact .inl ⟨[], d :: cs, rfl, .nil, by simpa using hd⟩
    have hbare : c = '\\' → q.hasEscapes = false := fun hc => Bool.eq_false_iff.2 fun he => hescape ⟨hc, he⟩
    rcases inside_split q cs with ⟨body, next, rfl, hin, hnext⟩ | hin | ⟨he, body, rfl, hin⟩
    · exact .inl ⟨c :: body, next, rfl, .char hmark hbare hin, hnext⟩
    · exact .inr (.inl (.char hmark hbare hin))
    · exact .inr (.inr ⟨he, c :: body, rfl, .char hmark hbare hin⟩)

/-- the first star and slash, if there are any -/
theorem block_split (cs : List Char) :
    (∃ body next, cs = body ++ '*' :: '/' :: next ∧ ¬['*', '/'] <:+: body) ∨ ¬['*', '/'] <:+: cs := by
  induction cs with
  | nil => exact .inr (by simp)
  | cons c cs ih =>
    by_cases hfirst : ['*', '/'] <+: c :: cs
    · obtain ⟨next, hnext⟩ := hfirst
      exact .inl ⟨[], next, hnext.symm, by simp⟩
    rcases ih with ⟨body, next, rfl, hbody⟩ | hcs
    · refine .inl ⟨c :: body, next, rfl, fun h => ?_⟩
      rcases List.infix_cons_iff.1 h with hstart | hinfix
      · exact hfirst (hstart.trans ⟨'*' :: '/' :: next, by simp⟩)
      · exact hbody hinfix
    · exact .inr fun h => (List.infix_cons_iff.1 h).elim hfirst hcs

/-- a comment up to the end of its line, if it has one -/
theorem line_stands {opener cs : List Char} (h : OpensLine opener cs) :
    ∃ token next, opener ++ cs = token.text ++ next ∧ Stands token next := by
  by_cases hend : '\n' ∈ cs
  · obtain ⟨body, next, rfl, hbody⟩ := List.eq_append_cons_of_mem hend
    have hopens : OpensLine opener (body ++ ['\n']) := by
      cases h with
      | hash _ => exact .hash _
      | dashes blank =>
        refine .dashes fun c hc => blank c ?_
        cases body <;> simpa using hc
    exact ⟨.line opener body true, next, by simp [Token.text], .line next hopens hbody⟩
  · exact ⟨.line opener cs false, [], by simp [Token.text], .openLine h hend⟩

theorem exists_stands (c : Char) (cs : List Char) : ∃ token next, c :: cs = token.text ++ next ∧ Stands token next := by
  by_cases hp : c = '?'
  · subst hp
    exact ⟨.placeholder, cs, rfl, .placeholder cs⟩
  by_cases hhash : c = '#'
  · subst hhash
    exact line_stands (.hash cs)
  by_cases hquote : ∃ q : Quote, c = q.mark
  · obtain ⟨q, rfl⟩ := hquote
    rcases inside_split q cs with ⟨body, next, rfl, hin, hnext⟩ | hin | ⟨he, body, rfl, hin⟩
    · exact ⟨.quoted q body true, next, by simp [Token.text], .quoted hin hnext⟩
    · exact ⟨.quoted q cs false, [], by simp [Token.text], .openQuote hin⟩
    · exact ⟨.quoted q (body ++ ['\\']) false, [], by simp [Token.text], .openEscape hin he⟩
  by_cases hdashes : ∃ rest, c :: cs = '-' :: '-' :: rest ∧ ∀ d ∈ rest.head?, Text.isAsciiBlank d = true
  · obtain ⟨rest, hcs, hblank⟩ := hdashes
    rw [hcs]
    exact line_stands (.dashes hblank)
  by_cases hslash : ∃ rest, c :: cs = '/' :: '*' :: rest
  · obtain ⟨rest, hcs⟩ := hslash
    rw [hcs]
    rcases block_split rest with ⟨body, next, rfl, hbody⟩ | hrest
    · exact ⟨.block body true, next, by simp [Token.text], .block next hbody⟩
    · exact ⟨.block rest false, [], by simp [Token.text], .openBlock hrest⟩
  refine ⟨.char c, cs, rfl, .char ⟨hp, ?_, hhash, ?_, ?_⟩⟩
  · have hmark : ∀ q : Quote, c ≠ q.mark := fun q hq => hquote ⟨q, hq⟩
    simp [Quote.ofMark?, show c ≠ '\'' from hmark .single, show c ≠ '"' from hmark .double,
      show c ≠ '`' from hmark .backtick]
  · rintro rfl rest rfl
    by_contra hblank
    push Not at hblank
    exact hdashes ⟨rest, rfl, fun d hd => by simpa using hblank d hd⟩
  · rintro rfl hstar
    obtain ⟨rest, rfl⟩ : ∃ rest, cs = '*' :: rest := by
      cases cs with
      | nil => cases hstar
      | cons d rest => exact ⟨rest, by rw [Option.some.inj hstar]⟩
    exact hslash ⟨rest, rfl⟩

/-- **Every text is read.** -/
theorem exists_reads (cs : List Char) : ∃ tokens, Reads tokens cs := by
  induction hn : cs.length using Nat.strong_induction_on generalizing cs with
  | _ n ih =>
    cases cs with
    | nil => exact ⟨[], .nil⟩
    | cons c cs =>
      obtain ⟨token, next, hcs, hstands⟩ := exists_stands c cs
      have hshorter : next.length < n := by
        have hpos := List.length_pos_of_ne_nil (Token.text_ne_nil hstands)
        rw [← hn, hcs, List.length_append]
        omega
      obtain ⟨tokens, hread⟩ := ih next.length hshorter next rfl
      exact ⟨token :: tokens, hcs ▸ .cons hstands hread⟩

/-! ## The placeholders of a row -/

/-- the bytes at which the placeholders met from a state on begin -/
def marks : State → Nat → List Char → List Nat
  | _, _, [] => []
  | s, i, c :: cs => (if isPlaceholder s c then [i] else []) ++ marks (step s c) (i + c.utf8Size) cs

theorem marks_append (s : State) (i : Nat) (cs ds : List Char) :
    marks s i (cs ++ ds) = marks s i cs ++ marks (run s cs) (i + utf8Len cs) ds := by
  induction cs generalizing s i with
  | nil => simp [marks]
  | cons c cs ih =>
    have hlen : i + c.utf8Size + utf8Len cs = i + utf8Len (c :: cs) := by
      rw [utf8Len_cons]
      omega
    rw [List.cons_append, marks, ih, hlen, marks, run_cons, List.append_assoc]

theorem length_marks (s : State) (i : Nat) (cs : List Char) : (marks s i cs).length = count s cs := by
  induction cs generalizing s i with
  | nil => rfl
  | cons c cs ih =>
    rw [marks, List.length_append, ih, count]
    split_ifs <;> rfl

theorem marks_of_count {s : State} {cs : List Char} (h : count s cs = 0) (i : Nat) : marks s i cs = [] :=
  List.eq_nil_of_length_eq_zero ((length_marks s i cs).trans h)

/-- what follows is read as from the beginning of a text -/
structure Anew (s : State) (cs : List Char) : Prop where
  marks (i : Nat) : marks s i cs = Scan.marks .plain i cs
  closed : (run s cs).isClosed = (run .plain cs).isClosed

theorem anew_plain (cs : List Char) : Anew .plain cs := ⟨fun _ => rfl, rfl⟩

/-- from these states on, nothing but the first character can be read in another way than from the beginning -/
theorem anew_of_step {s : State} (hs : s.isClosed = true) {cs : List Char}
    (h : ∀ c ∈ cs.head?, step s c = step .plain c) : Anew s cs := by
  cases cs with
  | nil => exact ⟨fun _ => rfl, hs⟩
  | cons c cs =>
    have hstep : step s c = step .plain c := h c rfl
    have houtside : s.isOutside = true := by
      cases s <;> first | rfl | cases hs
    have hp : isPlaceholder s c = isPlaceholder .plain c := by rw [isPlaceholder, houtside]; rfl
    exact ⟨fun i => by rw [Scan.marks, Scan.marks, hp, hstep], by rw [run_cons, run_cons, hstep]⟩

/-- a dash in front of another one is read anew if no blank and no end follows them -/
theorem anew_dash {cs : List Char} (h : ∀ rest, cs = '-' :: rest → ∃ d ∈ rest.head?, Text.isAsciiBlank d = false) :
    Anew .dash cs := by
  by_cases hd : ∃ rest, cs = '-' :: rest
  · obtain ⟨rest, rfl⟩ := hd
    obtain ⟨d, hhead, hblank⟩ := h rest rfl
    obtain ⟨rest, rfl⟩ : ∃ tail, rest = d :: tail := by
      cases rest with
      | nil => cases hhead
      | cons e tail => exact ⟨tail, by rw [Option.some.inj hhead]⟩
    -- behind the third character the two scans are in the same state
    have hline : d ≠ '\n' := by
      rintro rfl
      cases hblank
    have hstep : step .dashes d = step .dash d := by simp [step, hblank, hline]
    refine ⟨fun i => ?_, ?_⟩
    · simp [marks, isPlaceholder, show step .dash '-' = .dashes from rfl, show step .plain '-' = .dash from rfl, hstep,
        State.isOutside]
    · simp [show step .dash '-' = .dashes from rfl, show step .plain '-' = .dash from rfl, hstep]
  · refine anew_of_step rfl fun c hc => if_neg ?_
    rintro rfl
    cases cs with
    | nil => cases hc
    | cons d rest => exact hd ⟨rest, by rw [Option.some.inj hc]⟩

/-! ### One token -/

theorem run_inside {q : Quote} {body : List Char} (h : Inside q body) :
    run (.quoted q) body = .quoted q ∧ count (.quoted q) body = 0 := by
  induction h with
  | nil => exact ⟨rfl, rfl⟩
  | @char c _ other bare rest ih =>
    have hstep : step (.quoted q) c = .quoted q := by
      rw [step, if_neg fun he => absurd he.2 (by simp [bare he.1]), if_neg other]
    rw [run_cons, count, hstep]
    exact ⟨ih.1, by simp [isPlaceholder, State.isOutside, ih.2]⟩
  | doubled rest ih =>
    have hclosing : step (.quoted q) q.mark = .closing q := by cases q <;> rfl
    have hagain : step (.closing q) q.mark = .quoted q := by cases q <;> rfl
    have hmark : ∀ s, isPlaceholder s q.mark = false := fun s => by cases q <;> rfl
    rw [run_cons, run_cons, count, count, hclosing, hagain, hmark, hmark]
    exact ⟨ih.1, by simp [ih.2]⟩
  | @escaped c _ escapes rest ih =>
    have hescape : step (.quoted q) '\\' = .escaped q := by simp [step, escapes]
    have hkept : step (.escaped q) c = .quoted q := rfl
    rw [run_cons, run_cons, count, count, hescape, hkept]
    exact ⟨ih.1, by simpa [isPlaceholder, State.isOutside] using ih.2⟩

theorem run_opened {q : Quote} {body : List Char} (h : Inside q body) :
    run .plain (q.mark :: body) = .quoted q ∧ count .plain (q.mark :: body) = 0 := by
  have hopen : step .plain q.mark = .quoted q ∧ isPlaceholder .plain q.mark = false := by cases q <;> exact ⟨rfl, rfl⟩
  rw [run_cons, count, hopen.1, hopen.2]
  exact ⟨(run_inside h).1, by simp [(run_inside h).2]⟩

theorem run_commentLine {cs : List Char} (h : '\n' ∉ cs) : run .line cs = .line ∧ count .line cs = 0 := by
  induction cs with
  | nil => exact ⟨rfl, rfl⟩
  | cons c cs ih =>
    obtain ⟨hc, hcs⟩ := not_or.1 fun hmem => h (List.mem_cons.2 hmem)
    have hstep : step .line c = .line := if_neg (Ne.symm hc)
    rw [run_cons, count, hstep]
    exact ⟨(ih hcs).1, by simp [isPlaceholder, State.isOutside, (ih hcs).2]⟩

/-- a line comment up to the end of the line, or of the text -/
theorem run_line {opener body : List Char} (tail : List Char) (h : OpensLine opener (body ++ tail))
    (hbody : '\n' ∉ body) :
    (run .plain (opener ++ body) = .line ∨ run .plain (opener ++ body) = .dashes) ∧
      count .plain (opener ++ body) = 0 := by
  cases h with
  | hash =>
    obtain ⟨hrun, hcount⟩ := run_commentLine hbody
    exact ⟨.inl hrun, (Nat.zero_add _).trans hcount⟩
  | dashes blank =>
    cases body with
    | nil => exact ⟨.inr rfl, rfl⟩
    | cons c body =>
      obtain ⟨hc, hbody⟩ := not_or.1 fun h => hbody (List.mem_cons.2 h)
      obtain ⟨hrun, hcount⟩ := run_commentLine hbody
      have hblank : Text.isAsciiBlank c = true := blank c rfl
      have hother : ∀ d, Text.isAsciiBlank d = false → c ≠ d := by
        rintro d hd rfl
        exact absurd hblank (by simp [hd])
      have hstep : step .dashes c = .line := by simp [step, hother '-' rfl, Ne.symm hc, hblank]
      have hp : isPlaceholder .dashes c = false := by simp [isPlaceholder, hother '?' rfl]
      have hdashes : run .plain ['-', '-'] = .dashes ∧ count .plain ['-', '-'] = 0 := ⟨rfl, rfl⟩
      rw [run_append, count_append, hdashes.1, hdashes.2, run_cons, count, hstep, hp]
      exact ⟨.inl hrun, by simp [hcount]⟩

/-- a block comment up to its end; a star in front of these characters keeps them from beginning with a slash -/
theorem run_block {s : State} {body : List Char} (hs : s = .block ∨ (s = .star ∧ body.head? ≠ some '/'))
    (hbody : ¬['*', '/'] <:+: body) : (run s body = .block ∨ run s body = .star) ∧ count s body = 0 := by
  induction body generalizing s with
  | nil => exact ⟨hs.imp id And.left, by rcases hs with rfl | ⟨rfl, -⟩ <;> rfl⟩
  | cons c body ih =>
    have hp : isPlaceholder s c = false := by
      rcases hs with rfl | ⟨rfl, -⟩ <;> simp [isPlaceholder, State.isOutside]
    have hnext : ¬['*', '/'] <:+: body := fun h => hbody (List.infix_cons_iff.2 (.inr h))
    have hstep : step s c = .block ∨ (step s c = .star ∧ body.head? ≠ some '/') := by
      by_cases hstar : c = '*'
      · subst hstar
        have hhead : body.head? ≠ some '/' := by
          intro h
          obtain ⟨rest, rfl⟩ := List.head?_eq_some_iff.1 h
          exact hbody ⟨[], rest, rfl⟩
        rcases hs with rfl | ⟨rfl, -⟩ <;> exact .inr ⟨rfl, hhead⟩
      · rcases hs with rfl | ⟨rfl, hslash⟩
        · exact .inl (if_neg hstar)
        · have hc : c ≠ '/' := by simpa using hslash
          exact .inl (by simp [step, hc, hstar])
    obtain ⟨hrun, hcount⟩ := ih hstep hnext
    rw [run_cons, count, hp]
    exact ⟨hrun, by simp [hcount]⟩

theorem run_commented {body : List Char} (h : ¬['*', '/'] <:+: body) :
    (run .plain ('/' :: '*' :: body) = .block ∨ run .plain ('/' :: '*' :: body) = .star) ∧
      count .plain ('/' :: '*' :: body) = 0 := by
  obtain ⟨hrun, hcount⟩ := run_block (.inl rfl) h
  exact ⟨hrun, (Nat.zero_add _).trans ((Nat.zero_add _).trans hcount)⟩

/-- **One token.** A scan finds its placeholder, and behind the token it begins anew, unless the token is open: then
nothing follows. -/
theorem Stands.scan {token : Token} {next : List Char} (h : Stands token next) :
    (∀ i, marks .plain i token.text = token.marks i) ∧
      ((token.isClosed = true ∧ Anew (run .plain token.text) next) ∨
        (token.isClosed = false ∧ next = [] ∧ (run .plain token.text).isClosed = false)) := by
  cases h with
  | placeholder => exact ⟨fun i => rfl, .inl ⟨rfl, anew_plain next⟩⟩
  | @char c _ bland =>
    have hp : isPlaceholder .plain c = false := by simp [isPlaceholder, bland.placeholder]
    refine ⟨fun i => by simp [Token.text, Token.marks, marks, hp], .inl ⟨rfl, ?_⟩⟩
    have hfresh : run .plain [c] = if c = '-' then .dash else if c = '/' then .slash else .plain := by
      simp [step, fresh, bland.quote, bland.hash]
    rw [Token.text, hfresh]
    split_ifs with hdash hslash
    · exact anew_dash (bland.dash hdash)
    · refine anew_of_step rfl fun d hd => if_neg ?_
      rintro rfl
      exact bland.slash hslash hd
    · exact anew_plain next
  | @quoted q body _ inside single =>
    obtain ⟨hrun, hcount⟩ := run_opened inside
    have hend : run (.quoted q) [q.mark] = .closing q ∧ count (.quoted q) [q.mark] = 0 := by
      cases q <;> exact ⟨rfl, rfl⟩
    rw [Token.text_quoted, run_append, hrun, hend.1]
    refine ⟨marks_of_count (by rw [count_append, hcount, hrun, hend.2]), .inl ⟨rfl, ?_⟩⟩
    refine anew_of_step rfl fun c hc => if_neg ?_
    rintro rfl
    exact single hc
  | @openQuote q body inside =>
    obtain ⟨hrun, hcount⟩ := run_opened inside
    rw [Token.text_openQuote, hrun]
    exact ⟨marks_of_count hcount, .inr ⟨rfl, rfl, rfl⟩⟩
  | @openEscape q body inside escapes =>
    obtain ⟨hrun, hcount⟩ := run_opened inside
    have hescape : run (.quoted q) ['\\'] = .escaped q := by simp [step, escapes]
    rw [Token.text_openQuote, ← List.cons_append, run_append, hrun, hescape]
    exact ⟨marks_of_count (by rw [count_append, hcount, hrun]; rfl), .inr ⟨rfl, rfl, rfl⟩⟩
  | @line opener body _ opens within =>
    obtain ⟨hrun, hcount⟩ := run_line ['\n'] opens within
    have hend : run (run .plain (opener ++ body)) ['\n'] = .plain ∧ count (run .plain (opener ++ body)) ['\n'] = 0 := by
      rcases hrun with h | h <;> rw [h] <;> exact ⟨rfl, rfl⟩
    rw [Token.text_line, run_append, hend.1]
    exact ⟨marks_of_count (by rw [count_append, hcount, hend.2]), .inl ⟨rfl, anew_plain next⟩⟩
  | @openLine opener body opens within =>
    obtain ⟨hrun, hcount⟩ := run_line [] (by rwa [List.append_nil]) within
    rw [Token.text_openLine]
    exact ⟨marks_of_count hcount, .inr ⟨rfl, rfl, by rcases hrun with h | h <;> rw [h] <;> rfl⟩⟩
  | @block body _ within =>
    obtain ⟨hrun, hcount⟩ := run_commented within
    have hend : run (run .plain ('/' :: '*' :: body)) ['*', '/'] = .plain ∧
        count (run .plain ('/' :: '*' :: body)) ['*', '/'] = 0 := by
      rcases hrun with h | h <;> rw [h] <;> exact ⟨rfl, rfl⟩
    rw [Token.text_block, run_append, hend.1]
    exact ⟨marks_of_count (by rw [count_append, hcount, hend.2]), .inl ⟨rfl, anew_plain next⟩⟩
  | @openBlock body within =>
    obtain ⟨hrun, hcount⟩ := run_commented within
    rw [Token.text_openBlock]
    exact ⟨marks_of_count hcount, .inr ⟨rfl, rfl, by rcases hrun with h | h <;> rw [h] <;> rfl⟩⟩

/-! ### Rows -/

/-- **A row is read as the grammar says**: the placeholders are those of its tokens, and the end is outside quotes and
comments unless a token is open. -/
theorem Reads.scan {tokens : List Token} {cs : List Char} (h : Reads tokens cs) :
    (∀ i, marks .plain i cs = rowMarks i tokens) ∧ (run .plain cs).isClosed = tokens.all Token.isClosed := by
  induction h with
  | nil => exact ⟨fun i => rfl, rfl⟩
  | @cons token tokens cs stands rest ih =>
    obtain ⟨hmarks, hbehind⟩ := stands.scan
    rw [run_append]
    rcases hbehind with ⟨hclosed, hanew⟩ | ⟨hopen, rfl, hrun⟩
    · refine ⟨fun i => ?_, ?_⟩
      · rw [marks_append, hmarks, hanew.marks, ih.1, rowMarks]
      · rw [hanew.closed, ih.2, List.all_cons, hclosed, Bool.true_and]
    · refine ⟨fun i => ?_, ?_⟩
      · -- nothing is behind an open token, so the other tokens have no placeholders
        rw [List.append_nil, hmarks, rowMarks, ← ih.1]
        simp [marks]
      · rw [run_nil, hrun, List.all_cons, hopen, Bool.false_and]

end SqlSession.Scan
