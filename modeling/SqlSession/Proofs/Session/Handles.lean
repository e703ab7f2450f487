/-
What a prepared statement runs as.

A client numbers the statements that it prepares, from 1 on, and never gives a number twice; `World.issued` is the list
of their texts. A connection runs a handle as what its own client prepared under that number, whoever the handle comes
from, and reports the statement that it was given.
- `Numbered`: the handles of a client stand for what it prepared; `numbered_occurs`, `numbered_passage`: one event and
  all of them keep that;
- `runs_issued`: what a handle runs as, if it is run at all;
- `prepared_runs_as_issued`: so a statement runs as itself or not at all where it was prepared, and elsewhere only if
  the number stands for the same text there.
-/
import SqlSession.Proofs.Session.Passages

namespace SqlSession

/-- the text that a client got a handle for -/
def Entry.issued? : Entry → Option String
  | .succeeded _ (.prepare text) => some text
  | _ => none

/-- the texts that a client got handles for: the first handle is for the first of them, and so on -/
def World.issued (w : World) (id : Nat) : List String :=
  (w.own id).filterMap Entry.issued?

/-- the handle of a client is for this text -/
def World.IssuedAs (w : World) (id handle : Nat) (text : String) : Prop :=
  0 < handle ∧ (w.issued id)[handle - 1]? = some text

/-- the handles of a client are for what it has prepared, and the next one is for what it prepares next -/
structure Numbered (c : Connection) (w : World) : Prop where
  next : c.client.nextHandle = (w.issued c.client.id).length + 1
  known : ∀ handle text, (handle, text) ∈ c.client.prepared → w.IssuedAs c.client.id handle text

section

variable {others : World → World → Prop} {c c₁ c' : Connection} {w w₁ w' : World} {e : Event} {events : List Event}
  {id handle : Nat} {text : String}

theorem issued_of_own {news : List Entry} (h : w'.own id = w.own id ++ news) :
    w'.issued id = w.issued id ++ news.filterMap Entry.issued? := by
  rw [World.issued, h, List.filterMap_append, World.issued]

/-- what was issued stays issued -/
theorem World.IssuedAs.mono (h : w.IssuedAs id handle text) (hissued : w.issued id <+: w'.issued id) :
    w'.IssuedAs id handle text := by
  obtain ⟨more, hmore⟩ := hissued
  refine ⟨h.1, ?_⟩
  rw [← hmore, List.getElem?_append_left (List.getElem?_eq_some_iff.1 h.2).1]
  exact h.2

/-- one text at most is issued under a number -/
theorem World.IssuedAs.unique {text' : String} (h : w.IssuedAs id handle text) (h' : w.IssuedAs id handle text') :
    text = text' := Option.some.inj (h.2.symm.trans h'.2)

/-! ## One event -/

theorem issued_unasked {entries : List Entry} (h : ∀ e ∈ entries, e.request? = none) :
    entries.filterMap Entry.issued? = [] := by
  refine List.filterMap_eq_nil_iff.2 fun e he => ?_
  cases e with
  | succeeded session request => cases h _ he
  | _ => rfl

/-- only a statement that was prepared is issued -/
def Request.issues {α : Type} : Request → Except NativeError α → List String
  | .prepare text, .ok _ => [text]
  | _, _ => []

theorem issued_exchange {α : Type} {session : SessionId} {request : Request} {limit : Option Duration}
    {x : Except NativeError α} {entries : List Entry} (h : Exchange session request limit x entries) :
    entries.filterMap Entry.issued? = request.issues x := by
  cases h <;> cases request <;> rfl

/-- a client that prepares nothing keeps its numbers -/
theorem numbered_rests (hn : Numbered c w) (hrests : c.client.Rests c'.client)
    (hissued : w'.issued c.client.id = w.issued c.client.id) : Numbered c' w' where
  next := by rw [hrests.next, hn.next, hrests.id, hissued]
  known := by
    intro handle text hmem
    rw [hrests.id]
    exact (hn.known handle text (hrests.prepared _ hmem)).mono (hissued ▸ List.prefix_rfl)

/-- the statement that is prepared gets the next number -/
theorem issued_next {statement : String} (hnext : c.client.nextHandle = (w.issued c.client.id).length + 1)
    (hissued : w'.issued c.client.id = w.issued c.client.id ++ [statement]) :
    w'.IssuedAs c.client.id c.client.nextHandle statement := by
  rw [World.IssuedAs, hissued, hnext]
  exact ⟨Nat.succ_pos _, by simp⟩

theorem numbered_prepared (hn : Numbered c w) {text : String} (hclient : c'.client = c.client.withPrepared text)
    (hissued : w'.issued c.client.id = w.issued c.client.id ++ [text]) : Numbered c' w' := by
  have hid : c'.client.id = c.client.id := by rw [hclient]; rfl
  refine ⟨?_, ?_⟩
  · rw [hid, hissued, hclient, List.length_append]
    exact congrArg (· + 1) hn.next
  · intro handle text' hmem
    rw [hid]
    rw [hclient] at hmem
    rcases List.mem_cons.1 hmem with heq | hmem
    · obtain ⟨rfl, rfl⟩ := Prod.mk.inj heq
      exact issued_next hn.next hissued
    · exact (hn.known handle text' hmem).mono ⟨_, hissued.symm⟩

/-- what is issued in an event: nothing, or the statement that was prepared -/
theorem issued_occurs (h : Occurs others c w e c' w') (ha : Apart others c.client.id) :
    w'.issued c.client.id = w.issued c.client.id ∧ c.client.Rests c'.client ∨
      ∃ text, w'.issued c.client.id = w.issued c.client.id ++ [text] ∧ c'.client = c.client.withPrepared text := by
  obtain ⟨w₁, hcaused, hsame⟩ := h.caused
  have hexchange : ∀ {α : Type} {request : Request} {limit : Option Duration} {x : Except NativeError α}
      {entries : List Entry}, Exchange c.client.session request limit x entries →
      w₁.own c.client.id = w.own c.client.id ++ entries →
      w'.issued c.client.id = w.issued c.client.id ++ request.issues x := by
    intro α request limit x entries hex hown
    rw [issued_of_own (hsame.trans hown), issued_exchange hex]
  have hidle : w₁.own c.client.id = w.own c.client.id → w'.issued c.client.id = w.issued c.client.id := by
    intro hown
    rw [World.issued, hsame, hown, World.issued]
  generalize hc : c'.client = client at hcaused
  cases hcaused with
  | aside entries client _ hquiet hrests =>
    refine .inl ⟨?_, hrests⟩
    have hown : w'.own c.client.id = w.own c.client.id ++ entries := h.own
    rw [issued_of_own hown, issued_unasked hquiet, List.append_nil]
  | prepared statement limit handle client _ entries hcall =>
    obtain ⟨⟨entries, hex, hown⟩, -, hclient⟩ := exchange_preparing (ends_preparing hcall) ha
    exact .inr ⟨statement.text, hexchange hex hown, (hclient handle rfl).2⟩
  | unprepared statement limit cause client _ entries hcall =>
    obtain ⟨⟨entries, hex, hown⟩, hclient, -⟩ := exchange_preparing (ends_preparing hcall) ha
    exact .inl ⟨(hexchange hex hown).trans (List.append_nil _), hclient cause rfl ▸ .refl _⟩
  | ran errand limit outcome client _ entries hcall =>
    refine .inl ⟨?_, (Errand.heeds hcall ha).rests⟩
    cases errand with
    | handle p =>
      obtain ⟨⟨entries, hown, ⟨-, -, rfl⟩ | ⟨text, -, hex⟩⟩, -⟩ := exchange_executing (ends_executing hcall) ha
      · exact hidle (hown.trans (List.append_nil _))
      · exact (hexchange hex hown).trans (List.append_nil _)
    | text words =>
      obtain ⟨⟨entries, hex, hown⟩, -⟩ := exchange_querying (ends_querying hcall) ha
      exact (hexchange hex hown).trans (List.append_nil _)
  | counted limit outcome client _ entries hcall =>
    obtain ⟨⟨entries, hex, hown⟩, hheeds⟩ := exchange_querying (ends_querying hcall) ha
    exact .inl ⟨(hexchange hex hown).trans (List.append_nil _), hheeds.rests⟩
  | explained text _ =>
    have hown : w'.own c.client.id = w.own c.client.id ++ [] := h.own
    exact .inl ⟨by rw [issued_of_own hown]; simp, .refl _⟩
  | cleared _ =>
    have hown : w'.own c.client.id = w.own c.client.id ++ [] := h.own
    exact .inl ⟨by rw [issued_of_own hown]; simp, .refl _⟩

theorem numbered_occurs (h : Occurs others c w e c' w') (ha : Apart others c.client.id) (hn : Numbered c w) :
    Numbered c' w' := by
  obtain ⟨hissued, hrests⟩ | ⟨text, hissued, hclient⟩ := issued_occurs h ha
  · exact numbered_rests hn hrests hissued
  · exact numbered_prepared hn hclient hissued

/-! ## All events -/

theorem numbered_passage (h : Passage others c w events c' w') (ha : Apart others c.client.id) (hn : Numbered c w) :
    Numbered c' w' := by
  induction h with
  | here _ _ => exact hn
  | next occurs _ ih => exact ih ((occurs.id ha).symm ▸ ha) (numbered_occurs occurs ha hn)

/-- numbers are never given twice -/
theorem issued_passage (h : Passage others c w events c' w') (ha : Apart others c.client.id) :
    w.issued c.client.id <+: w'.issued c.client.id :=
  ⟨_, (issued_of_own (passage_own h ha)).symm⟩

theorem numbered_fresh {config : Config} {registry : Query.Registry} (h : w.own id = []) :
    Numbered (.new (.new id) config registry) w := by
  have hissued : w.issued id = [] := by rw [World.issued, h]; rfl
  exact ⟨by rw [show (Connection.new (.new id) config registry).client.id = id from rfl, hissued]; rfl, nofun⟩

/-! ## What a handle runs as -/

theorem executed_unasked {entries : List Entry} (h : ∀ e ∈ entries, e.request? = none) :
    entries.filterMap Server.executed? = [] := by
  refine List.filterMap_eq_nil_iff.2 fun e he => ?_
  cases e with
  | received session request limit => cases h _ he
  | _ => rfl

theorem executed_exchange {α : Type} {session : SessionId} {statement : Statement} {limit : Option Duration}
    {x : Except NativeError α} {entries : List Entry} (h : Exchange session (.execute statement) limit x entries) :
    (∃ cause, x = .error cause) ∧ entries.filterMap Server.executed? = [] ∨
      entries.filterMap Server.executed? = [statement] := by
  cases h with
  | unsent cause => exact .inl ⟨⟨cause, rfl⟩, rfl⟩
  | unanswered cause => exact .inr rfl
  | failed cause => exact .inr rfl
  | succeeded x => exact .inr rfl

/-- a client runs under a handle what it has prepared under it, or nothing -/
theorem executed_occurs {p : Prepared} {outcome : Except NativeError Reply} {entries : List Entry}
    (h : Occurs others c w (.ran (.handle p) outcome entries) c' w') (ha : Apart others c.client.id)
    (hn : Numbered c w) :
    (∃ cause, outcome = .error cause) ∧ entries.filterMap Server.executed? = [] ∨
      ∃ text, w.IssuedAs c.client.id p.handle text ∧
        entries.filterMap Server.executed? = [⟨text, p.statement.binds⟩] := by
  obtain ⟨w₁, hcaused, hsame⟩ := h.caused
  generalize hc : c'.client = client at hcaused
  cases hcaused with
  | ran errand limit outcome client _ entries hcall =>
    obtain ⟨⟨entries', hown, hend⟩, -⟩ := exchange_executing (ends_executing hcall) ha
    have hentries : entries = entries' := List.append_cancel_left ((h.own.symm.trans hsame).trans hown)
    subst hentries
    obtain ⟨-, rfl, rfl⟩ | ⟨text, hlookup, hex⟩ := hend
    · exact .inl ⟨⟨_, rfl⟩, rfl⟩
    · obtain hnone | hone := executed_exchange hex
      · exact .inl hnone
      · exact .inr ⟨text, hn.known _ _ (mem_of_lookup hlookup), hone⟩

/-- **A handle runs as what it was issued for**, or not at all, and then that is told. -/
theorem runs_issued {p : Prepared} {own : Option Duration} {r : Except Error Reply}
    (h : Op.Ends others (Op.executePrepared p own) c w r c' w') (ha : Apart others c.client.id) (hn : Numbered c w) :
    ∃ news, w'.own c.client.id = w.own c.client.id ++ news ∧
      ((∃ e, r = .error e) ∧ news.filterMap Server.executed? = [] ∨
        ∃ text, w.IssuedAs c.client.id p.handle text ∧
          news.filterMap Server.executed? = [⟨text, p.statement.binds⟩]) ∧
      ∀ reply, r = .ok reply → c'.last = p.statement := by
  cases Op.sending_executePrepared h ha with
  | unsent events e c' w' hpass hquiet =>
    exact ⟨_, passage_own hpass ha, .inl ⟨⟨e, rfl⟩, executed_unasked hquiet⟩, by simp⟩
  | sent events c₁ w₁ outcome entries r c' w' hpass hquiet hoccurs hlast htold =>
    have hid := hpass.id ha
    have hown := passage_own hpass ha
    have hnews : w'.own c.client.id = w.own c.client.id ++ (events.flatMap Event.entries ++ entries) := by
      rw [← List.append_assoc, ← hown, ← hid]
      exact hoccurs.own
    have hissued : w₁.issued c.client.id = w.issued c.client.id := by
      rw [issued_of_own hown, issued_unasked hquiet, List.append_nil]
    have hexecuted := executed_occurs hoccurs (hpass.apart ha) (numbered_passage hpass ha hn)
    refine ⟨_, hnews, ?_, fun _ _ => hlast⟩
    rw [List.filterMap_append, executed_unasked hquiet, List.nil_append]
    obtain ⟨⟨cause, rfl⟩, hnone⟩ | ⟨text, hfor, hone⟩ := hexecuted
    · refine .inl ⟨?_, hnone⟩
      cases r with
      | error e => exact ⟨e, rfl⟩
      | ok reply => cases (htold reply).1 rfl
    · refine .inr ⟨text, ?_, hone⟩
      rw [hid] at hfor
      exact hfor.mono (hissued ▸ List.prefix_rfl)

/-- the handle of a statement that was prepared is issued for it -/
theorem issued_prepare {s : Statement} {own : Option Duration} {p : Prepared}
    (h : Op.Ends others (Op.prepare s own) c w (.ok p) c' w') (ha : Apart others c.client.id) (hn : Numbered c w) :
    p.statement = s ∧ w'.IssuedAs c.client.id p.handle s.text := by
  obtain ⟨events, e, -, -, heq⟩ | ⟨events, limit, c₁, w₁, hpass, -, -, h⟩ := Op.passage_begin h ha
  · cases heq
  obtain ⟨x, client, w₂, hcall, h⟩ := Op.ends_call_bind h
  cases x with
  | error cause =>
    obtain ⟨⟨e, heq, -⟩, -⟩ := Op.ends_failWith h ha
    cases heq
  | ok handle =>
    obtain ⟨heq, -, rfl⟩ := Op.ends_pure.1 h
    cases heq
    have hid := hpass.id ha
    obtain ⟨⟨entries, hex, hown⟩, -, hclient⟩ := exchange_preparing (ends_preparing hcall) (hpass.apart ha)
    have hissued := issued_of_own hown
    rw [issued_exchange hex] at hissued
    have hnext := issued_next (numbered_passage hpass ha hn).next hissued
    rw [hid, ← (hclient handle rfl).1] at hnext
    exact ⟨rfl, hnext⟩

end

/-- a caller who prepares one statement -/
def onePrepared (text : String) : Program (Use AnyText true) Answer :=
  .step (.operation (.prepare "held" ⟨text, []⟩ none) trivial) .finish

/-- **Prepared statements run as issued.** From a fresh connection on, whatever its callers do: a statement that it
prepares is issued its text under the handle, for ever. What is run under a handle, whoever it comes from, is what this
connection issued it for, once, or it is not run at all and that is an error. So a success has run the very statement
that the connection reports if and only if the handle was issued for its text here. -/
theorem prepared_runs_as_issued {others : World → World → Prop} {id : Nat} (ha : Apart others id) (config : Config)
    (registry : Query.Registry) {w₀ : World} (hw : w₀.own id = []) :
    (∀ {α : Type} (work : Program (Use AnyText true) α) (r : Except Error α) (c : Connection) (w : World),
      Op.Ends others (work.op Use.perform) (.new (.new id) config registry) w₀ r c w →
        ∃ events, Passage others (.new (.new id) config registry) w₀ events c w) ∧
    ∀ (events : List Event) (c : Connection) (w : World),
      Passage others (.new (.new id) config registry) w₀ events c w →
      (∀ s own p c' w', Op.Ends others (Op.prepare s own) c w (.ok p) c' w' →
        p.statement = s ∧ w'.IssuedAs id p.handle s.text) ∧
      (∀ more c' w', Passage others c w more c' w' → w.issued id <+: w'.issued id) ∧
      ∀ p own r c' w', Op.Ends others (Op.executePrepared p own) c w r c' w' →
        ∃ news, w'.own id = w.own id ++ news ∧
          ((∃ e, r = .error e) ∧ news.filterMap Server.executed? = [] ∨
            ∃ text, w.IssuedAs id p.handle text ∧
              news.filterMap Server.executed? = [⟨text, p.statement.binds⟩]) ∧
          ∀ reply, r = .ok reply → c'.last = p.statement ∧
            (news.filterMap Server.executed? = [p.statement] ↔ w.IssuedAs id p.handle p.statement.text) := by
  refine ⟨fun work r c w h => passage_program work h ha, fun events c w hpass => ?_⟩
  have hid : c.client.id = id := hpass.id ha
  have hapart : Apart others c.client.id := hpass.apart ha
  have hn : Numbered c w := numbered_passage hpass ha (numbered_fresh hw)
  refine ⟨fun s own p c' w' h => ?_, fun more c' w' h => ?_, fun p own r c' w' h => ?_⟩
  · exact hid ▸ issued_prepare h hapart hn
  · exact hid ▸ issued_passage h hapart
  obtain ⟨news, hown, hran, hlast⟩ := runs_issued h hapart hn
  rw [hid] at hown hran
  refine ⟨news, hown, hran, fun reply hr => ⟨hlast reply hr, ?_⟩⟩
  obtain ⟨⟨e, rfl⟩, -⟩ | ⟨text, hfor, hone⟩ := hran
  · cases hr
  · rw [hone]
    constructor
    · intro heq
      obtain rfl : text = p.statement.text := congrArg Statement.text (List.cons.inj heq).1
      exact hfor
    · intro hissued
      rw [hfor.unique hissued]

/-- a handle for a select, run on a connection whose client issued the number for a deletion: the deletion runs, and
the connection reports the select -/
theorem prepared_runs_elsewhere :
    let one := ((onePrepared "SELECT 1").op Use.perform (.new (.new 0) .standard .empty)).run 0 .fresh
    let other := ((onePrepared "DELETE FROM t").op Use.perform (.new (.new 1) .standard .empty)).run one.2.1 one.2.2
    let run := (Op.executePrepared ⟨1, ⟨"SELECT 1", []⟩⟩ none other.1.2).run other.2.1 other.2.2
    one.2.2.IssuedAs 0 1 "SELECT 1" ∧ run.1.1.isOk = true ∧ run.1.2.last = ⟨"SELECT 1", []⟩ ∧
      ¬ other.2.2.IssuedAs 1 1 "SELECT 1" ∧
      ∃ news, run.2.2.own 1 = other.2.2.own 1 ++ news ∧
        news.filterMap Server.executed? = [⟨"DELETE FROM t", []⟩] := by
  generalize hone : ((onePrepared "SELECT 1").op Use.perform (.new (.new 0) .standard .empty)).run 0 .fresh = one
  dsimp only
  generalize hother :
    ((onePrepared "DELETE FROM t").op Use.perform (.new (.new 1) .standard .empty)).run one.2.1 one.2.2 = other
  generalize hrun : (Op.executePrepared ⟨1, ⟨"SELECT 1", []⟩⟩ none other.1.2).run other.2.1 other.2.2 = run
  have hnew : one.2.2.own 1 = [] := by
    rw [← hone]
    rfl
  have hheld : one.2.2.issued 0 = ["SELECT 1"] := by
    rw [← hone]
    decide +kernel
  have hissued : other.2.2.issued 1 = ["DELETE FROM t"] := by
    rw [← hother, ← hone]
    decide +kernel
  obtain ⟨reply, hok⟩ : ∃ reply, run.1.1 = .ok reply := by
    rw [← hrun, ← hother, ← hone]
    exact ⟨_, rfl⟩
  have alone : Apart (· = ·) 1 := by
    rintro w _ rfl
    rfl
  have hends := Op.ends_of_run (fun _ _ => rfl) hother (Timed.throughout_of_forall (fun _ => trivial) _ _)
  have hruns := Op.ends_of_run (fun _ _ => rfl) hrun (Timed.throughout_of_forall (fun _ => trivial) _ _)
  obtain ⟨hmade, hevents⟩ := prepared_runs_as_issued alone .standard .empty hnew
  obtain ⟨events, hpass⟩ := hmade (onePrepared _) _ _ _ hends
  obtain ⟨-, -, hexecutes⟩ := hevents events _ _ hpass
  obtain ⟨news, hown, hran, hreported⟩ := hexecutes _ _ _ _ _ hruns
  have hforeign : ¬ other.2.2.IssuedAs 1 1 "SELECT 1" := by
    rw [World.IssuedAs, hissued]
    decide
  have hfirst : one.2.2.IssuedAs 0 1 "SELECT 1" := by
    rw [World.IssuedAs, hheld]
    decide
  refine ⟨hfirst, by rw [hok]; rfl, (hreported reply hok).1, hforeign, news, hown, ?_⟩
  obtain ⟨⟨e, herror⟩, -⟩ | ⟨text, hfor, hone⟩ := hran
  · rw [hok] at herror
    cases herror
  · obtain rfl : "DELETE FROM t" = text := by
      rw [World.IssuedAs, hissued] at hfor
      exact Option.some.inj hfor.2
    exact hone

end SqlSession
