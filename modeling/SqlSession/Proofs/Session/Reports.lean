/-
What a connection tells of its statements.

Whatever a client is asked to run, and every statement that it could not prepare, has a verdict. The connection tells
its listeners of the verdict and puts it on record, once for each and in order. The count of rows is the exception: it
is told of only if it fails, and then under the statement that it was asked for.
- `onLog_entries`, `log_entries`: the log after one event and after all of them;
- `matched_event`, `matched_events`: each report is of one verdict;
- `executed_occurs`, `executed_asked`: the server runs nothing but what was asked for;
- `statements_reported`: the listeners, the log and the server side by side, in every program.
-/
import Mathlib.Data.List.DropRight
import SqlSession.Proofs.Session.Handles

namespace SqlSession

namespace Event

/-- the count of rows, asked for behind a select -/
def isCount : Event → Bool
  | counted _ _ _ => true
  | _ => false

/-- not the count of rows that succeeds -/
def isTold : Event → Bool
  | counted _ (.ok _) _ => false
  | _ => true

def isCleared : Event → Bool
  | cleared => true
  | _ => false

end Event

/-! ## The log -/

section

variable {l : Log} {e : Event} {events : List Event}

theorem onLog_capacity (l : Log) (e : Event) : (e.onLog l).capacity = l.capacity := by
  have hpushed : ∀ (news : List Log.Entry) (l : Log),
      (news.foldl (fun l entry => l.push entry.kind entry.text) l).capacity = l.capacity := by
    intro news
    induction news with
    | nil => intro l; rfl
    | cons entry news ih => intro l; rw [List.foldl_cons, ih]; rfl
  cases e with
  | cleared => rfl
  | _ => exact hpushed _ _

theorem log_capacity (l : Log) (events : List Event) : (events.foldl Event.onLog l).capacity = l.capacity := by
  induction events generalizing l with
  | nil => rfl
  | cons e events ih => rw [List.foldl_cons, ih, onLog_capacity]

theorem logged_short (e : Event) : e.logged.length ≤ 1 := by
  cases e with
  | counted last outcome entries => cases outcome <;> simp [Event.logged, Event.reported]
  | _ => simp [Event.logged, Event.reported, Event.asked]

theorem onLog_entries (h : e.isCleared = false) (hroom : e.logged.length + l.entries.length ≤ l.capacity) :
    (e.onLog l).entries = e.logged.reverse ++ l.entries := by
  have hpushed : e.onLog l = e.logged.foldl (fun l entry => l.push entry.kind entry.text) l := by
    cases e with
    | cleared => cases h
    | _ => rfl
  rw [hpushed]
  have hshort := logged_short e
  generalize e.logged = news at hroom hshort
  match news, hshort with
  | [], _ => rfl
  | [entry], _ =>
    rw [List.length_singleton, Nat.add_comm] at hroom
    exact List.take_of_length_le hroom

/-- **The log, if there is room.** It has what was put on record since it was cleared, the newest entry first. -/
theorem log_entries (hempty : l.entries = []) (hroom : (events.flatMap Event.logged).length ≤ l.capacity) :
    (events.foldl Event.onLog l).entries =
      ((events.rtakeWhile fun e => !e.isCleared).flatMap Event.logged).reverse := by
  induction events using List.reverseRecOn with
  | nil => exact hempty
  | append_singleton events e ih =>
    rw [List.flatMap_append, List.length_append, List.flatMap_singleton] at hroom
    specialize ih (by omega)
    rw [List.foldl_append, List.foldl_cons, List.foldl_nil, List.rtakeWhile_concat]
    cases hcleared : e.isCleared with
    | true =>
      cases e with
      | cleared => rfl
      | _ => cases hcleared
    | false =>
      have hshorter : (events.foldl Event.onLog l).entries.length ≤ (events.flatMap Event.logged).length := by
        rw [ih, List.length_reverse]
        exact (List.Sublist.flatMap (List.rtakeWhile_suffix _ _).sublist _).length_le
      rw [onLog_entries hcleared (by rw [log_capacity]; omega), ih]
      simp

end

/-! ## Reports -/

/-- a report of a verdict: under its own statement, but for a count of rows that failed -/
structure Verdict.Matches (report verdict : Verdict) : Prop where
  outcome : report.outcome = verdict.outcome
  statement : report.statement = verdict.statement ∨
    verdict.statement = .ofText Op.foundRowsText ∧ ∃ cause, verdict.outcome = .error cause

theorem matches_self (verdicts : List Verdict) : List.Forall₂ Verdict.Matches verdicts verdicts :=
  List.forall₂_same.2 fun _ _ => ⟨rfl, .inl rfl⟩

theorem matched_event (e : Event) (h : e.isTold = true) : List.Forall₂ Verdict.Matches e.reported e.asked := by
  cases e with
  | counted last outcome entries =>
    cases outcome with
    | ok reply => cases h
    | error cause => exact .cons ⟨rfl, .inr ⟨rfl, cause, rfl⟩⟩ .nil
  | _ => exact matches_self _

theorem untold_event (e : Event) (h : e.isTold = false) : e.reported = [] := by
  cases e with
  | counted last outcome entries =>
    cases outcome with
    | ok reply => rfl
    | error cause => cases h
  | _ => cases h

theorem matched_events (events : List Event) :
    List.Forall₂ Verdict.Matches (events.flatMap Event.reported)
      ((events.filter Event.isTold).flatMap Event.asked) := by
  induction events with
  | nil => exact .nil
  | cons e events ih =>
    rw [List.flatMap_cons, List.filter_cons]
    cases htold : e.isTold with
    | true => exact List.rel_append (matched_event e htold) ih
    | false => rwa [untold_event e htold]

theorem reported_uncounted {events : List Event} (h : ∀ e ∈ events, e.isCount = false) :
    events.flatMap Event.reported = events.flatMap Event.asked := by
  refine List.flatMap_congr fun e he => ?_
  have hcount := h e he
  cases e with
  | counted last outcome entries => cases hcount
  | _ => rfl

/-- what is put on record is what listeners hear, plans apart -/
theorem logged_reported (events : List Event) :
    (events.flatMap Event.logged).filter (·.kind ≠ .explain) = (events.flatMap Event.reported).map Verdict.logged := by
  have hkept : ∀ verdicts : List Verdict,
      (verdicts.map Verdict.logged).filter (·.kind ≠ .explain) = verdicts.map Verdict.logged := by
    intro verdicts
    refine List.filter_eq_self.2 fun entry hentry => ?_
    obtain ⟨⟨statement, outcome⟩, -, rfl⟩ := List.mem_map.1 hentry
    cases outcome <;> rfl
  induction events with
  | nil => rfl
  | cons e events ih =>
    rw [List.flatMap_cons, List.filter_append, ih, List.flatMap_cons, List.map_append]
    congr 1
    cases e with
    | explained _ => rfl
    | _ => exact hkept _

/-! ## What the server runs -/

/-- what the server was told to run -/
def Event.executed (e : Event) : List Statement :=
  e.entries.filterMap Server.executed?

/-- a statement that is run under a handle was issued it here -/
def Event.Own (w : World) (id : Nat) : Event → Prop
  | ran (.handle p) _ _ => w.IssuedAs id p.handle p.statement.text
  | _ => True

/-- in some view of statements, all that was run was asked for, in this order, and all that succeeded was run -/
structure Serves {β : Type} (view : Statement → β) (executed : List Statement) (asked : List Verdict) : Prop where
  ran : (executed.map view).Sublist (asked.map fun v => view v.statement)
  succeeded : ((asked.filter fun v => v.outcome.isOk).map fun v => view v.statement).Sublist (executed.map view)

section

variable {others : World → World → Prop} {c c' : Connection} {w w' : World} {e : Event} {events : List Event} {id : Nat}
  {β : Type} {view : Statement → β} {executed more : List Statement} {asked also : List Verdict}

theorem Serves.append (h : Serves view executed asked) (h' : Serves view more also) :
    Serves view (executed ++ more) (asked ++ also) where
  ran := by
    rw [List.map_append, List.map_append]
    exact h.ran.append h'.ran
  succeeded := by
    rw [List.filter_append, List.map_append, List.map_append]
    exact h.succeeded.append h'.succeeded

theorem Serves.failed (h : ∀ v ∈ asked, ∃ cause, v.outcome = .error cause) : Serves view [] asked where
  ran := List.nil_sublist _
  succeeded := by
    rw [List.filter_eq_nil_iff.2 fun v hv => ?_]
    · exact List.nil_sublist _
    · obtain ⟨cause, heq⟩ := h v hv
      rw [heq]
      nofun

theorem Serves.one {s : Statement} {v : Verdict} (h : view s = view v.statement) : Serves view [s] [v] where
  ran := by
    rw [List.map_singleton, List.map_singleton, h]
  succeeded := by
    rw [List.map_singleton, h]
    exact (List.filter_sublist (l := [v])).map fun v => view v.statement

theorem executed_unrun {α : Type} {session : SessionId} {text : String} {limit : Option Duration}
    {x : Except NativeError α} {entries : List Entry} (h : Exchange session (.prepare text) limit x entries) :
    entries.filterMap Server.executed? = [] := by
  cases h <;> rfl

theorem executed_query {α : Type} {session : SessionId} {text : String} {limit : Option Duration}
    {x : Except NativeError α} {entries : List Entry} (h : Exchange session (.query text) limit x entries) :
    (∃ cause, x = .error cause) ∧ entries.filterMap Server.executed? = [] ∨
      entries.filterMap Server.executed? = [.ofText text] := by
  cases h with
  | unsent cause => exact .inl ⟨⟨cause, rfl⟩, rfl⟩
  | unanswered cause => exact .inr rfl
  | failed cause => exact .inr rfl
  | succeeded x => exact .inr rfl

/-- an event has the server run what it asks for, under a handle what the client has issued it -/
theorem executed_asked (h : Occurs others c w e c' w') (ha : Apart others c.client.id) (hn : Numbered c w) :
    e.executed = [] ∧ (∀ v ∈ e.asked, ∃ cause, v.outcome = .error cause) ∨
      ∃ s v, e.executed = [s] ∧ e.asked = [v] ∧ s.binds = v.statement.binds ∧
        ∀ w₂ : World, w.issued c.client.id <+: w₂.issued c.client.id → e.Own w₂ c.client.id → s = v.statement := by
  obtain ⟨w₁, hcaused, hsame⟩ := h.caused
  have hentries : ∀ {entries}, w₁.own c.client.id = w.own c.client.id ++ entries → e.entries = entries :=
    fun hown => List.append_cancel_left ((h.own.symm.trans hsame).trans hown)
  have hasked : ∀ {text : String} {limit : Option Duration} {outcome : Except NativeError Reply} {entries : List Entry},
      Exchange c.client.session (.query text) limit outcome entries →
      w₁.own c.client.id = w.own c.client.id ++ entries →
      e.asked = [⟨.ofText text, outcome.map Reply.affected⟩] →
      e.executed = [] ∧ (∀ v ∈ e.asked, ∃ cause, v.outcome = .error cause) ∨
        ∃ s v, e.executed = [s] ∧ e.asked = [v] ∧ s.binds = v.statement.binds ∧
          ∀ w₂ : World, w.issued c.client.id <+: w₂.issued c.client.id → e.Own w₂ c.client.id → s = v.statement := by
    intro text limit outcome entries hex hown hverdict
    obtain ⟨⟨cause, rfl⟩, hnone⟩ | hone := executed_query hex
    · refine .inl ⟨by rw [Event.executed, hentries hown, hnone], ?_⟩
      rw [hverdict]
      exact List.forall_mem_singleton.2 ⟨cause, rfl⟩
    · exact .inr ⟨_, _, by rw [Event.executed, hentries hown, hone], hverdict, rfl, fun _ _ _ => rfl⟩
  generalize hc : c'.client = client at hcaused
  cases hcaused with
  | aside entries client _ hquiet _ => exact .inl ⟨executed_unasked hquiet, List.forall_mem_nil _⟩
  | prepared statement limit handle client _ entries hcall =>
    obtain ⟨⟨entries', hex, hown⟩, -⟩ := exchange_preparing (ends_preparing hcall) ha
    exact .inl ⟨by rw [Event.executed, hentries hown, executed_unrun hex], List.forall_mem_nil _⟩
  | unprepared statement limit cause client _ entries hcall =>
    obtain ⟨⟨entries', hex, hown⟩, -⟩ := exchange_preparing (ends_preparing hcall) ha
    exact .inl ⟨by rw [Event.executed, hentries hown, executed_unrun hex], List.forall_mem_singleton.2 ⟨cause, rfl⟩⟩
  | ran errand limit outcome client _ entries hcall =>
    cases errand with
    | handle p =>
      obtain ⟨⟨cause, rfl⟩, hnone⟩ | ⟨text, hfor, hone⟩ := executed_occurs h ha hn
      · exact .inl ⟨hnone, List.forall_mem_singleton.2 ⟨cause, rfl⟩⟩
      · refine .inr ⟨_, _, hone, rfl, rfl, fun w₂ hissued hown => ?_⟩
        rw [(hfor.mono hissued).unique hown]
        rfl
    | text words =>
      obtain ⟨⟨entries', hex, hown⟩, -⟩ := exchange_querying (ends_querying hcall) ha
      exact hasked hex hown rfl
  | counted limit outcome client _ entries hcall =>
    obtain ⟨⟨entries', hex, hown⟩, -⟩ := exchange_querying (ends_querying hcall) ha
    exact hasked hex hown rfl
  | explained text _ => exact .inl ⟨rfl, List.forall_mem_nil _⟩
  | cleared _ => exact .inl ⟨rfl, List.forall_mem_nil _⟩

/-- in a view that does not see which connection issued a handle, the server runs what it is asked for -/
theorem served_passage (h : Passage others c w events c' w') (ha : Apart others c.client.id) (hn : Numbered c w)
    (hview : ∀ e ∈ events, ∀ s t : Statement, s.binds = t.binds → (e.Own w' c.client.id → s = t) → view s = view t) :
    Serves view (events.flatMap Event.executed) (events.flatMap Event.asked) := by
  induction h with
  | here _ _ => exact .failed (List.forall_mem_nil _)
  | @next c c₁ c' w w₁ w' e events occurs rest ih =>
    have hid := occurs.id ha
    have hall := numbered_occurs occurs ha hn
    have hissued := issued_passage (.next occurs rest) ha
    refine Serves.append ?_ (ih (hid.symm ▸ ha) hall fun e he => hid.symm ▸ hview e (List.mem_cons_of_mem _ he))
    obtain ⟨hnone, hfailed⟩ | ⟨s, v, hs, hv, hbinds, htext⟩ := executed_asked occurs ha hn
    · rw [hnone]
      exact .failed hfailed
    · rw [hs, hv]
      exact .one (hview e (List.mem_cons_self ..) s v.statement hbinds (htext _ hissued))

end

/-! ## Every program -/

/-- a select that asks for the count of its rows -/
def countedSelect : Program (Use AnyText true) Answer :=
  .step (.operation (.bound ⟨none, false, [.ok (.table "t"), .ok .totalCount], .select, ""⟩) trivial) .finish

/-- **Statements are told of once.** From a fresh connection on, whatever its callers do, there are events whose
verdicts match what the server runs: all that it runs was asked for, in this order and with these values, all that
succeeded was run, and so it is with the texts too, as long as the statements that are run under a handle were issued it
here. Listeners hear once of each report, and the log, if there is room, has one entry for each that came since it was
cleared. There is one report for each verdict, in order, with the same outcome, but none for a count of rows that
succeeds; one that fails is reported as the statement before it. So without counts the reports are the verdicts. -/
theorem statements_reported {others : World → World → Prop} {id : Nat} (ha : Apart others id) (config : Config)
    (registry : Query.Registry) {w₀ : World} (hw : w₀.own id = []) :
    (∀ {α : Type} (work : Program (Use AnyText true) α) (r : Except Error α) (c : Connection) (w : World),
      Op.Ends others (work.op Use.perform) (.new (.new id) config registry) w₀ r c w →
        ∃ events, Passage others (.new (.new id) config registry) w₀ events c w) ∧
    ∀ (events : List Event) (c : Connection) (w : World),
      Passage others (.new (.new id) config registry) w₀ events c w →
      events.flatMap Event.executed = (w.own id).filterMap Server.executed? ∧
      Serves Statement.binds (events.flatMap Event.executed) (events.flatMap Event.asked) ∧
      ((∀ e ∈ events, e.Own w id) → Serves (·) (events.flatMap Event.executed) (events.flatMap Event.asked)) ∧
      (Silent others → w.heard = w₀.heard ++
        (events.flatMap Event.reported).flatMap fun v => List.replicate registry.listeners v.heard) ∧
      ((events.flatMap Event.logged).length ≤ config.logCapacity → c.log.entries =
        ((events.rtakeWhile fun e => !e.isCleared).flatMap Event.logged).reverse) ∧
      ((events.flatMap Event.logged).filter (·.kind ≠ .explain) = (events.flatMap Event.reported).map Verdict.logged) ∧
      List.Forall₂ Verdict.Matches (events.flatMap Event.reported)
        ((events.filter Event.isTold).flatMap Event.asked) ∧
      ((∀ e ∈ events, e.isCount = false) → events.flatMap Event.reported = events.flatMap Event.asked) := by
  refine ⟨fun work r c w h => passage_program work h ha, fun events c w h => ?_⟩
  have hn : Numbered (.new (.new id) config registry) w₀ := numbered_fresh hw
  have hown : w.own id = w₀.own id ++ events.flatMap Event.entries := passage_own h ha
  refine ⟨?executed, ?binds, ?texts, ?heard, ?log, logged_reported events, matched_events events, reported_uncounted⟩
  case executed =>
    rw [hown, hw, List.nil_append, List.filterMap_flatMap]
    rfl
  case binds => exact served_passage h ha hn fun _ _ _ _ hbinds _ => hbinds
  case texts => exact fun hissued => served_passage h ha hn fun e he s t _ htext => htext (hissued e he)
  case heard =>
    intro hs
    rw [passage_heard h hs]
    simp only [Event.heard, List.flatMap_assoc, List.flatMap_map]
    rfl
  case log =>
    intro hroom
    rw [passage_log h]
    exact log_entries rfl hroom

/-- two statements are run for a select with the count of its rows, and the one listener and the log have one report -/
theorem statements_reported_uncounted :
    let run := (countedSelect.op Use.perform (.new (.new 0) .standard ⟨[], 1⟩)).run 0 .fresh
    ((run.2.2.own 0).filterMap Server.executed?).map Statement.text =
        ["SELECT SQL_CALC_FOUND_ROWS * FROM t", "SELECT FOUND_ROWS() as count"] ∧
      run.2.2.heard = [⟨"SELECT SQL_CALC_FOUND_ROWS * FROM t", 0, none⟩] ∧
      ∃ events, Passage (· = ·) (.new (.new 0) .standard ⟨[], 1⟩) .fresh events run.1.2 run.2.2 ∧
        2 ≤ (events.flatMap Event.asked).length ∧ (events.flatMap Event.reported).length = 1 := by
  generalize hrun : (countedSelect.op Use.perform (.new (.new 0) .standard ⟨[], 1⟩)).run 0 .fresh = run
  dsimp only
  have hexecuted : ((run.2.2.own 0).filterMap Server.executed?).map Statement.text =
      ["SELECT SQL_CALC_FOUND_ROWS * FROM t", "SELECT FOUND_ROWS() as count"] := by
    rw [← hrun]
    decide +kernel
  have hheard : run.2.2.heard = [⟨"SELECT SQL_CALC_FOUND_ROWS * FROM t", 0, none⟩] := by
    rw [← hrun]
    decide +kernel
  have alone : Apart (· = ·) 0 := by
    rintro w _ rfl
    rfl
  have silent : Silent (· = ·) := by
    rintro w _ rfl
    rfl
  have hends := Op.ends_of_run (fun _ _ => rfl) hrun (Timed.throughout_of_forall (fun _ => trivial) _ _)
  obtain ⟨hmade, hevents⟩ := statements_reported alone .standard ⟨[], 1⟩ (rfl : World.fresh.own 0 = [])
  obtain ⟨events, hpass⟩ := hmade countedSelect _ _ _ hends
  obtain ⟨hserved, hbinds, -, htold, -⟩ := hevents events _ _ hpass
  refine ⟨hexecuted, hheard, events, hpass, ?asked, ?reported⟩
  case asked =>
    have htwo : ((run.2.2.own 0).filterMap Server.executed?).length = 2 := by
      simpa using congrArg List.length hexecuted
    have hlength := hbinds.ran.length_le
    rw [hserved, List.length_map, List.length_map, htwo] at hlength
    exact hlength
  case reported =>
    have hreports := htold silent
    rw [hheard] at hreports
    have hlength := congrArg List.length hreports
    simpa [World.fresh] using hlength.symm

end SqlSession
