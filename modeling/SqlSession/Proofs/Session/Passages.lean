/-
Operations as events.

What an operation does to a connection is a passage of events, wherever it ends (`Passes`).
- `occurs_prepare`, `occurs_conclude`, `occurs_count`: a call and its record are one event; the statement that is
  recorded is the one that the connection was told to run;
- `passage_begin`: what comes before a statement asks for nothing;
- `sending_executePrepared`: how a prepared statement is run;
- `rules_passes`, `passage_program`: every program is a passage.
-/
import SqlSession.Proofs.Session.Events

namespace SqlSession

open Query (Draft)

/-! ## Events that ask for nothing -/

/-- wherever it ends, the operation was a passage -/
def Passes {α : Type} (op : Op α) : Prop :=
  ∀ (others : World → World → Prop) (c : Connection) (w : World) (r : Except Error α) (c' : Connection) (w' : World),
    Apart others c.client.id → Op.Ends others op c w r c' w' → ∃ events, Passage others c w events c' w'

/-- nothing is changed that an event could be seen by -/
structure Connection.Unmarked (c c' : Connection) : Prop where
  client : c'.client = c.client
  registry : c'.registry = c.registry
  log : c'.log = c.log

namespace Op

variable {α β : Type} {others : World → World → Prop} {c c₁ c' : Connection} {w w₁ w' : World}

theorem occurs_edit (h : c.Unmarked c') : Occurs others c w (.aside []) c' w where
  caused := ⟨w, by rw [h.client]; exact .aside [] _ w (by simp) (.refl _), rfl⟩
  registry := h.registry
  log := h.log
  own := by simp [Event.entries]
  heard := fun _ => by rw [heard_untold rfl, List.append_nil]

/-- a call of the client that asks for nothing -/
theorem occurs_unasked {client : Client} {entries : List Entry} (unasked : ∀ e ∈ entries, e.request? = none)
    (rests : c.client.Rests client) (hown : w'.own c.client.id = w.own c.client.id ++ entries)
    (hheard : Silent others → w'.heard = w.heard) : Occurs others c w (.aside entries) { c with client } w' where
  caused := ⟨w', .aside entries client w' unasked rests, rfl⟩
  registry := rfl
  log := rfl
  own := hown
  heard := fun hs => by rw [hheard hs, heard_untold rfl, List.append_nil]

theorem passes_pure (x : α) : Passes (pure x : Op α) := by
  intro others c w r c' w' _ h
  obtain ⟨-, rfl, rfl⟩ := ends_pure.1 h
  exact ⟨[], .here _ _⟩

theorem passes_throw (e : Error) : Passes (throw e : Op α) := by
  intro others c w r c' w' _ h
  obtain ⟨-, rfl, rfl⟩ := ends_throw.1 h
  exact ⟨[], .here _ _⟩

theorem passes_modify {f : Connection → Connection} (hf : ∀ c : Connection, c.Unmarked (f c)) :
    Passes (modify f : Op Unit) := by
  intro others c w r c' w' _ h
  obtain ⟨-, rfl, rfl⟩ := ends_modify.1 h
  exact ⟨_, (occurs_edit (hf c)).passage⟩

theorem passes_bind {op : Op α} {f : α → Op β} (h : Passes op) (hf : ∀ x, Passes (f x)) : Passes (op >>= f) := by
  intro others c w r c' w' ha hends
  rcases ends_bind.1 hends with ⟨e, hop, -⟩ | ⟨x, c₁, w₁, hop, hends⟩
  · exact h others c w _ c' w' ha hop
  · obtain ⟨events, hpass⟩ := h others c w _ c₁ w₁ ha hop
    obtain ⟨more, hpass'⟩ := hf x others c₁ w₁ r c' w' (hpass.apart ha) hends
    exact ⟨_, hpass.trans hpass'⟩

theorem passes_get_bind {f : Connection → Op β} (hf : ∀ c, Passes (f c)) : Passes (get >>= f) := by
  intro others c w r c' w' ha h
  exact hf c others c w r c' w' ha (ends_get_bind.1 h)

theorem passes_ofExcept_bind {x : Except Error α} {f : α → Op β} (hf : ∀ y, Passes (f y)) :
    Passes (ofExcept x >>= f) := by
  cases x with
  | ok y => exact hf y
  | error e => exact passes_throw e

theorem passes_attempt {op : Op α} (h : Passes op) : Passes (attempt op) := by
  intro others c w r c' w' ha hends
  obtain ⟨x, -, hends⟩ := ends_attempt.1 hends
  exact h others c w x c' w' ha hends

theorem passes_discard {op : Op α} (h : Passes op) : Passes (discard op) := passes_bind h fun _ => passes_pure ()

/-- the world may be looked at, and changed anywhere but in its ledger and in what was heard -/
theorem passes_shared {t : Timed World α}
    (ht : ∀ (others : World → World → Prop) (id : Nat) (w : World) (x : α) (w' : World), Apart others id →
      Timed.Ends others t w x w' → w'.own id = w.own id ∧ (Silent others → w'.heard = w.heard)) :
    Passes (shared t) := by
  intro others c w r c' w' ha h
  obtain ⟨x, -, rfl, hends⟩ := ends_shared.1 h
  obtain ⟨hown, hheard⟩ := ht others c'.client.id w x w' ha hends
  have hunasked : Occurs others c' w (.aside []) c' w' :=
    occurs_unasked (List.forall_mem_nil _) (.refl c'.client) (hown.trans (List.append_nil _).symm) hheard
  exact ⟨_, hunasked.passage⟩

theorem passes_look (f : World → α) : Passes (shared (.look f)) := by
  refine passes_shared fun others id w x w' ha h => ?_
  obtain ⟨w₁, hs, h⟩ := Timed.ends_act.1 h
  obtain ⟨-, rfl⟩ := Timed.ends_done.1 h
  exact ⟨ha _ _ hs, fun hsilent => hsilent _ _ hs⟩

theorem passes_change {f : World → World} (hf : ∀ w, (f w).server.ledger = w.server.ledger ∧ (f w).heard = w.heard) :
    Passes (shared (.change f)) := by
  refine passes_shared fun others id w x w' ha h => ?_
  obtain ⟨w₁, hs, h⟩ := Timed.ends_act.1 h
  obtain ⟨-, rfl⟩ := Timed.ends_done.1 h
  refine ⟨?_, fun hsilent => (hf w₁).2.trans (hsilent _ _ hs)⟩
  rw [← ha _ _ hs, World.own, (hf w₁).1, World.own]

theorem passes_sleep (millis : Nat) : Passes (shared (.pause millis)) := by
  refine passes_shared fun others id w x w' ha h => ?_
  obtain ⟨-, rfl⟩ := Timed.ends_done.1 (Timed.ends_wait.1 h)
  exact ⟨rfl, fun _ => rfl⟩

/-! Sessions -/

theorem rests_shut (client : Client) : client.Rests client.shut :=
  ⟨id_shut client, nextHandle_shut client, prepared_shut⟩

theorem passes_disconnect : Passes disconnect := by
  intro others c w r c' w' ha h
  have hheard : Silent others → w'.heard = w.heard := by
    intro hs
    rw [disconnect, ends_get_bind] at h
    dsimp only at h
    split at h
    · obtain ⟨_, w₁, hm, h⟩ := ends_shared_bind.1 h
      obtain ⟨w₂, hstep, hm⟩ := Timed.ends_act.1 hm
      obtain ⟨-, rfl⟩ := Timed.ends_done.1 hm
      obtain ⟨-, -, rfl⟩ := ends_modify.1 h
      exact hs w w₂ hstep
    · obtain ⟨-, -, rfl⟩ := ends_pure.1 h
      rfl
  obtain ⟨-, rfl, gone, hgone, hown⟩ := ends_disconnect h ha
  have hunasked : ∀ e ∈ gone, e.request? = none := fun e he => by rw [hgone e he]; rfl
  exact ⟨_, (occurs_unasked hunasked (rests_shut c.client) hown hheard).passage⟩

theorem passes_opening (limit : Option Duration) : Passes (call limit connectLate Call.openSession) := by
  intro others c w r c' w' ha h
  obtain ⟨x, client, -, rfl, hcall⟩ := ends_call h
  have hopening := ends_opening hcall
  obtain ⟨refused, hrefused, hend⟩ := own_opening hopening ha
  have hunasked : ∀ e ∈ refused, e.request? = none := fun e he => by rw [hrefused e he]; rfl
  obtain ⟨cause, -, rfl, hown⟩ | ⟨-, rfl, hown⟩ := hend
  · exact ⟨_, (occurs_unasked hunasked (.refl _) hown (heard_opening hopening)).passage⟩
  · have hopened : ∀ e ∈ refused ++ [Entry.opened c.client.opened.session], e.request? = none := by
      simpa [or_imp, forall_and, Entry.request?] using hunasked
    have hrests : c.client.Rests c.client.opened := ⟨rfl, rfl, fun _ he => he⟩
    rw [List.append_assoc] at hown
    exact ⟨_, (occurs_unasked hopened hrests hown (heard_opening hopening)).passage⟩

theorem passes_tryOpen (limit : Option Duration) (spare : Nat) : Passes (tryOpen limit spare) := by
  induction spare with
  | zero => exact passes_opening limit
  | succ spare ih =>
    refine passes_bind (passes_opening limit) fun x => ?_
    cases x with
    | ok _ => exact passes_pure _
    | error cause => exact passes_bind (passes_modify fun _ => ⟨rfl, rfl, rfl⟩) fun _ => ih

theorem passes_openSession (lost : Nat) : Passes (openSession lost) := by
  refine passes_get_bind fun c => passes_ofExcept_bind fun limit => passes_bind (passes_tryOpen _ _) fun x => ?_
  cases x with
  | error cause => exact passes_bind (passes_modify fun _ => ⟨rfl, rfl, rfl⟩) fun _ => passes_throw _
  | ok _ =>
    refine passes_bind (passes_modify fun _ => ⟨rfl, rfl, rfl⟩) fun _ => ?_
    split
    · exact passes_bind (passes_modify fun _ => ⟨rfl, rfl, rfl⟩) fun _ => passes_throw _
    · exact passes_pure ()

theorem passes_connect (force : Bool) : Passes (connect force) := by
  refine passes_get_bind fun c => ?_
  split_ifs
  · refine passes_bind passes_disconnect fun _ => passes_bind (passes_modify fun _ => ⟨rfl, rfl, rfl⟩) fun _ => ?_
    exact passes_openSession 0
  · exact passes_bind passes_disconnect fun _ => passes_openSession c.depth
  · exact passes_openSession 0
  · exact passes_pure ()

/-! ## Events that are recorded -/

/-- nothing is asked for -/
def Unasked (events : List Event) : Prop := ∀ e ∈ events.flatMap Event.entries, e.request? = none

/-- listeners hear once of what they are told -/
theorem heard_notify_bind {heard : Heard} {f : Unit → Op β} {r : Except Error β}
    (h : Ends others (notify heard >>= f) c w r c' w') (hf : ∀ w₁, Ends others (f ()) c w₁ r c' w' → w' = w₁)
    (hs : Silent others) : w'.heard = w.heard ++ List.replicate c.registry.listeners heard := by
  rcases ends_bind.1 h with ⟨e, hn, -⟩ | ⟨_, c₁, w₁, hn, h⟩
  · rw [notify, ends_get_bind] at hn
    obtain ⟨x, heq, -, -⟩ := ends_shared.1 hn
    cases heq
  · rw [notify, ends_get_bind] at hn
    obtain ⟨x, -, rfl, hn⟩ := ends_shared.1 hn
    obtain ⟨w₂, hstep, hn⟩ := Timed.ends_act.1 hn
    obtain ⟨-, rfl⟩ := Timed.ends_done.1 hn
    rw [hf _ h]
    exact congrArg (· ++ _) (hs w w₂ hstep)

theorem heard_failWith {kind : NativeError → String → Error} {cause : NativeError} {r : Except Error α}
    (h : Ends others (failWith kind cause) c w r c' w') (hs : Silent others) :
    w'.heard = w.heard ++ List.replicate c.registry.listeners (Verdict.heard ⟨c.last, .error cause⟩) := by
  rw [failWith, ends_get_bind, ends_modify_bind] at h
  have hnotified := heard_notify_bind h (fun w₁ h => by split at h <;> exact (ends_throw.1 h).2.2) hs
  exact hnotified

theorem heard_conclude {outcome : Except NativeError Reply} {r : Except Error Reply}
    (h : Ends others (conclude outcome) c w r c' w') (hs : Silent others) :
    w'.heard = w.heard ++ List.replicate c.registry.listeners (Verdict.heard ⟨c.last, outcome.map Reply.affected⟩) := by
  cases outcome with
  | error cause => exact heard_failWith h hs
  | ok reply =>
    rw [conclude, ends_modify_bind, ends_get_bind] at h
    have hnotified := heard_notify_bind h (fun w₁ h => (ends_pure.1 h).2.2) hs
    exact hnotified

/-- what is left of a statement that is prepared behind its beginning -/
theorem occurs_prepare {statement : Statement} {limit : Option Duration} {r : Except Error Prepared}
    (h : Ends others (do
      match ← call limit statementLate (Call.prepare statement.text limit) with
      | .ok handle => pure ⟨handle, statement⟩
      | .error cause => failWith .prepare cause) c w r c' w')
    (ha : Apart others c.client.id) (hlast : c.last = statement) :
    ∃ e, Occurs others c w e c' w' ∧ c'.last = statement ∧ ∀ p, r = .ok p → p.statement = statement := by
  obtain ⟨x, client, w₁, hcall, h⟩ := ends_call_bind h
  obtain ⟨⟨entries, -, hown⟩, -⟩ := exchange_preparing (ends_preparing hcall) ha
  cases x with
  | ok handle =>
    obtain ⟨rfl, rfl, rfl⟩ := ends_pure.1 h
    have hcaused := Caused.prepared (c := c) statement limit handle client w' entries hcall
    refine ⟨.prepared statement entries, ⟨⟨w', hcaused, rfl⟩, rfl, rfl, hown, fun hs => ?_⟩, hlast, ?_⟩
    · rw [heard_preparing hcall hs, heard_untold rfl, List.append_nil]
    · rintro p ⟨⟩
      rfl
  | error cause =>
    have hheard := fun hs => heard_failWith h hs
    obtain ⟨⟨e, rfl, -⟩, rfl, hown'⟩ := ends_failWith h ha
    have hcaused := Caused.unprepared (c := c) statement limit cause client w₁ entries hcall
    refine ⟨.unprepared statement cause entries, ⟨⟨w₁, hcaused, hown'⟩, rfl, ?_, hown'.trans hown, fun hs => ?_⟩, hlast,
      by simp⟩
    · rw [← hlast]
      rfl
    · rw [hheard hs, heard_preparing hcall hs, heard_told rfl, ← hlast]

/-- a statement that a client is asked to run, and its record -/
theorem occurs_conclude (errand : Errand) {limit : Option Duration} {outcome : Except NativeError Reply}
    {client : Client} {r : Except Error Reply}
    (hcall : CallEnds others limit (errand.call limit) c.client w outcome client w₁)
    (h : Ends others (conclude outcome) { c with client } w₁ r c' w')
    (ha : Apart others c.client.id) (hlast : c.last = errand.statement) :
    (∃ entries, Occurs others c w (.ran errand outcome entries) c' w') ∧ c'.last = errand.statement ∧
      ∀ reply, r = .ok reply ↔ outcome = .ok reply := by
  have hheard := fun hs => heard_conclude h hs
  obtain ⟨hconcluded, hown'⟩ := ends_conclude h ha
  obtain ⟨entries, hown⟩ : ∃ entries, w₁.own c.client.id = w.own c.client.id ++ entries := by
    cases errand with
    | handle p =>
      obtain ⟨⟨entries, hown, -⟩, -⟩ := exchange_executing (ends_executing hcall) ha
      exact ⟨entries, hown⟩
    | text words =>
      obtain ⟨⟨entries, -, hown⟩, -⟩ := exchange_querying (ends_querying hcall) ha
      exact ⟨entries, hown⟩
  have hunasked : Silent others → w₁.heard = w.heard := by
    intro hs
    cases errand with
    | handle p => exact heard_executing hcall hs
    | text words => exact heard_querying hcall hs
  have hclient : c'.client = client := hconcluded.kept.1
  have hcaused := Caused.ran (c := c) errand limit outcome client w₁ entries hcall
  rw [← hclient] at hcaused
  refine ⟨⟨entries, ⟨w₁, hcaused, hown'⟩, ?registry, ?log, hown'.trans hown, ?heard⟩, ?last, ?told⟩
  case registry => cases hconcluded <;> rfl
  case log =>
    cases hconcluded with
    | failed cause e _ =>
      show c.log.push .debug (cause.text ++ " with statement -> " ++ c.last.filled) = _
      rw [hlast]
      rfl
    | answered reply =>
      show c.log.push .statement (Log.timed c.last.filled) = _
      rw [hlast]
      rfl
  case heard =>
    intro hs
    rw [hheard hs, hunasked hs, heard_told rfl, ← hlast]
  case last => cases hconcluded <;> exact hlast
  case told => cases hconcluded <;> simp

theorem occurs_count {limit : Option Duration} {r : Except Error Unit}
    (h : Ends others (do
      match ← call limit statementLate (Call.query foundRowsText limit) with
      | .error cause => failWith .execute cause
      | .ok reply =>
        let count := ((reply.rows.first?.bind fun r => r.get? "count").map countOf).getD 0
        modify fun c => { c with totalCount := count }) c w r c' w') (ha : Apart others c.client.id) :
    ∃ outcome entries, Occurs others c w (.counted c.last outcome entries) c' w' := by
  obtain ⟨outcome, client, w₁, hcall, h⟩ := ends_call_bind h
  obtain ⟨⟨entries, -, hown⟩, -⟩ := exchange_querying (ends_querying hcall) ha
  have hcaused := Caused.counted (c := c) limit outcome client w₁ entries hcall
  cases outcome with
  | ok reply =>
    obtain ⟨rfl, rfl, rfl⟩ := ends_modify.1 h
    refine ⟨.ok reply, entries, ⟨w', hcaused, rfl⟩, rfl, rfl, hown, fun hs => ?_⟩
    rw [heard_querying hcall hs, heard_untold rfl, List.append_nil]
  | error cause =>
    have hheard := fun hs => heard_failWith h hs
    obtain ⟨⟨e, rfl, -⟩, rfl, hown'⟩ := ends_failWith h ha
    refine ⟨.error cause, entries, ⟨w₁, hcaused, hown'⟩, rfl, rfl, hown'.trans hown, fun hs => ?_⟩
    rw [hheard hs, heard_querying hcall hs, heard_told rfl]

/-- every statement begins with a passage that asks for nothing, behind which it is the last one -/
theorem passage_begin {statement : Statement} {own : Option Duration} {k : Option Duration → Op β} {r : Except Error β}
    (h : Ends others (beginning statement own k) c w r c' w') (ha : Apart others c.client.id) :
    (∃ events e, Passage others c w events c' w' ∧ Unasked events ∧ r = .error e) ∨
      ∃ events limit c₁ w₁, Passage others c w events c₁ w₁ ∧ Unasked events ∧ c₁.last = statement ∧
        Ends others (k limit) c₁ w₁ r c' w' := by
  have hconnect : ∀ {x c₁ w₁}, Ends others (connect false) c w x c₁ w₁ →
      ∃ events, Passage others c w events c₁ w₁ ∧ Unasked events := by
    intro x c₁ w₁ hc
    obtain ⟨events, hpass⟩ := passes_connect false others c w _ c₁ w₁ ha hc
    obtain ⟨news, hunasked, hown⟩ := (ends_connect hc ha).own
    have hnews : events.flatMap Event.entries = news := List.append_cancel_left ((passage_own hpass ha).symm.trans hown)
    exact ⟨events, hpass, fun e he => hunasked e (hnews ▸ he)⟩
  rcases ends_bind.1 h with ⟨e, hc, rfl⟩ | ⟨_, c₁, w₁, hc, h⟩
  · obtain ⟨events, hpass, hunasked⟩ := hconnect hc
    exact .inl ⟨events, e, hpass, hunasked, rfl⟩
  obtain ⟨events, hpass, hunasked⟩ := hconnect hc
  have hunmarked : c₁.Unmarked (c₁.beginStatement statement) := ⟨rfl, rfl, rfl⟩
  have hbegun : Passage others c w (events ++ [.aside []]) (c₁.beginStatement statement) w₁ :=
    hpass.trans (occurs_edit hunmarked).passage
  have hunasked' : Unasked (events ++ [.aside []]) := by simpa [Unasked, Event.entries] using hunasked
  rw [ends_modify_bind, ends_get_bind] at h
  obtain ⟨e, -, rfl, rfl, rfl⟩ | ⟨limit, -, h⟩ := ends_ofExcept_bind.1 h
  · exact .inl ⟨_, e, hbegun, hunasked', rfl⟩
  · exact .inr ⟨_, limit, _, w₁, hbegun, hunasked', rfl, h⟩

theorem passage_prepare {statement : Statement} {own : Option Duration} {r : Except Error Prepared}
    (h : Ends others (prepare statement own) c w r c' w') (ha : Apart others c.client.id) :
    ∃ events, Passage others c w events c' w' ∧ ∀ p, r = .ok p → p.statement = statement ∧ c'.last = statement := by
  obtain ⟨events, e, hpass, -, rfl⟩ | ⟨events, limit, c₁, w₁, hpass, -, hlast, h⟩ := passage_begin h ha
  · exact ⟨events, hpass, by simp⟩
  · obtain ⟨e, hoccurs, hlast', hp⟩ := occurs_prepare h (hpass.apart ha) hlast
    exact ⟨_, hpass.trans hoccurs.passage, fun p hr => ⟨hp p hr, hlast'⟩⟩

/-- how a prepared statement is run: its call is reached or not, and nothing else is asked for -/
inductive Sending (others : World → World → Prop) (p : Prepared) (c : Connection) (w : World) :
    Except Error Reply → Connection → World → Prop
  | unsent (events : List Event) (e : Error) (c' : Connection) (w' : World)
      (passage : Passage others c w events c' w') (unasked : Unasked events) : Sending others p c w (.error e) c' w'
  | sent (events : List Event) (c₁ : Connection) (w₁ : World) (outcome : Except NativeError Reply)
      (entries : List Entry) (r : Except Error Reply) (c' : Connection) (w' : World)
      (passage : Passage others c w events c₁ w₁) (unasked : Unasked events)
      (occurs : Occurs others c₁ w₁ (.ran (.handle p) outcome entries) c' w') (last : c'.last = p.statement)
      (told : ∀ reply, r = .ok reply ↔ outcome = .ok reply) : Sending others p c w r c' w'

theorem sending_executePrepared {p : Prepared} {own : Option Duration} {r : Except Error Reply}
    (h : Ends others (executePrepared p own) c w r c' w') (ha : Apart others c.client.id) :
    Sending others p c w r c' w' := by
  obtain ⟨events, e, hpass, hunasked, rfl⟩ | ⟨events, limit, c₁, w₁, hpass, hunasked, hlast, h⟩ := passage_begin h ha
  · exact .unsent events e c' w' hpass hunasked
  · obtain ⟨outcome, client, w₂, hcall, h⟩ := ends_call_bind h
    obtain ⟨⟨entries, hoccurs⟩, hlast', htold⟩ := occurs_conclude (.handle p) hcall h (hpass.apart ha) hlast
    exact .sent events c₁ w₁ outcome entries r c' w' hpass hunasked hoccurs hlast' htold

theorem passes_prepare (statement : Statement) (own : Option Duration) : Passes (prepare statement own) := by
  intro others c w r c' w' ha h
  obtain ⟨events, hpass, -⟩ := passage_prepare h ha
  exact ⟨events, hpass⟩

theorem passes_executePrepared (p : Prepared) (own : Option Duration) : Passes (executePrepared p own) := by
  intro others c w r c' w' ha h
  cases sending_executePrepared h ha with
  | unsent events e c' w' hpass _ => exact ⟨events, hpass⟩
  | sent events c₁ w₁ outcome entries r c' w' hpass _ hoccurs _ _ => exact ⟨_, hpass.trans hoccurs.passage⟩

theorem passes_query (text : String) (own : Option Duration) : Passes (query text own) := by
  intro others c w r c' w' ha h
  obtain ⟨events, e, hpass, -⟩ | ⟨events, limit, c₁, w₁, hpass, -, hlast, h⟩ := passage_begin h ha
  · exact ⟨events, hpass⟩
  obtain ⟨outcome, client, w₂, hcall, h⟩ := ends_call_bind h
  have hran : ∀ x c₂ w₃, Ends others (conclude outcome) { c₁ with client } w₂ x c₂ w₃ →
      ∃ events, Passage others c w events c₂ w₃ := by
    intro x c₂ w₃ h
    obtain ⟨⟨entries, hoccurs⟩, -⟩ := occurs_conclude (.text text) hcall h (hpass.apart ha) hlast
    exact ⟨_, hpass.trans hoccurs.passage⟩
  rcases ends_bind.1 h with ⟨e, h, -⟩ | ⟨reply, c₂, w₃, h, hpure⟩
  · exact hran _ c' w' h
  · obtain ⟨-, rfl, rfl⟩ := ends_pure.1 hpure
    exact hran _ c' w' h

/-- the statement that was prepared is the one that is run -/
theorem passes_execute (statement : Statement) (own : Option Duration) : Passes (execute statement own) := by
  intro others c w r c' w' ha h
  rw [execute, ends_get_bind] at h
  obtain ⟨e, -, rfl, rfl, rfl⟩ | ⟨limit, -, h⟩ := ends_ofExcept_bind.1 h
  · exact ⟨[], .here _ _⟩
  rcases ends_bind.1 h with ⟨e, hp, -⟩ | ⟨p, c₁, w₁, hp, h⟩
  · exact passes_prepare statement own others c w _ c' w' ha hp
  obtain ⟨events, hpass, hprepared⟩ := passage_prepare hp ha
  obtain ⟨rfl, hlast⟩ := hprepared p rfl
  obtain ⟨outcome, client, w₂, hcall, h⟩ := ends_call_bind h
  obtain ⟨⟨entries, hoccurs⟩, -⟩ := occurs_conclude (.handle p) hcall h (hpass.apart ha) hlast
  exact ⟨_, hpass.trans hoccurs.passage⟩

theorem passes_fetchTotalCount : Passes fetchTotalCount := by
  refine passes_get_bind fun c => passes_ofExcept_bind fun limit => ?_
  intro others c w r c' w' ha h
  obtain ⟨outcome, entries, hoccurs⟩ := occurs_count h ha
  exact ⟨_, hoccurs.passage⟩

/-! ## Every program -/

theorem passes_marking (text : String) : Passes (marking text) := by
  refine passes_bind (passes_look _) fun savepoints => ?_
  cases savepoints with
  | true => exact passes_discard (passes_query _ none)
  | false => exact passes_pure ()

theorem passes_start : Passes start := by
  have hstatement : ∀ depth, Passes (startStatement depth) := by
    intro depth
    unfold startStatement
    split
    · exact passes_discard (passes_query _ none)
    · exact passes_marking _
  refine passes_bind (passes_connect false) fun _ => passes_get_bind fun c => ?_
  refine passes_bind (passes_modify fun _ => ⟨rfl, rfl, rfl⟩) fun _ => ?_
  refine passes_bind (passes_attempt (hstatement _)) fun x => ?_
  cases x with
  | ok _ => exact passes_pure ()
  | error e => exact passes_bind (passes_modify fun _ => ⟨rfl, rfl, rfl⟩) fun _ => passes_throw e

theorem passes_leave : Passes leave := by
  have hcounted : Passes countingOff :=
    passes_get_bind fun _ => passes_bind (passes_modify fun _ => ⟨rfl, rfl, rfl⟩) fun _ => passes_pure _
  refine passes_get_bind fun c => ?_
  dsimp only
  split
  · exact passes_bind (passes_connect false) fun _ => hcounted
  · exact hcounted

theorem passes_commit : Passes commit := by
  refine passes_bind passes_leave fun depth => ?_
  split
  · exact passes_discard (passes_query _ none)
  · exact passes_pure ()

theorem passes_rollback : Passes rollback := by
  refine passes_bind passes_leave fun depth => ?_
  split
  · exact passes_discard (passes_query _ none)
  split
  · exact passes_marking _
  · exact passes_pure ()

theorem passes_beforeUse : Passes beforeUse := by
  have hundone : Passes undoing := by
    refine passes_get_bind fun c => ?_
    split
    · exact passes_bind (passes_modify fun _ => ⟨rfl, rfl, rfl⟩) fun _ => passes_rollback
    · exact passes_pure ()
  refine passes_bind (passes_modify fun _ => ⟨rfl, rfl, rfl⟩) fun _ => passes_get_bind fun c => ?_
  split
  · refine passes_bind (passes_connect true) fun _ => ?_
    exact passes_bind (passes_modify fun _ => ⟨rfl, rfl, rfl⟩) fun _ => hundone
  · exact hundone

/-- an event of the log alone -/
theorem occurs_logged {e : Event} {log : Log} (hcaused : Caused others c w e c.client w) (hlog : log = e.onLog c.log)
    (hentries : e.entries = []) (htold : e.reported = []) : Occurs others c w e { c with log } w where
  caused := ⟨w, hcaused, rfl⟩
  registry := rfl
  log := hlog
  own := by simp [hentries]
  heard := fun _ => by rw [heard_untold htold, List.append_nil]

theorem passes_explained (text : String) : Passes (modify fun c => { c with log := c.log.push .explain text }) := by
  intro others c w r c' w' _ h
  obtain ⟨-, rfl, rfl⟩ := ends_modify.1 h
  exact ⟨_, (occurs_logged (.explained text w') rfl rfl rfl).passage⟩

theorem passes_clearedLog : Passes (modify fun c => { c with log := c.log.clear }) := by
  intro others c w r c' w' _ h
  obtain ⟨-, rfl, rfl⟩ := ends_modify.1 h
  exact ⟨_, (occurs_logged (.cleared w') rfl rfl rfl).passage⟩

theorem passes_drafted (f : Connection → Except Error α × Draft) :
    Passes fun c => pure ((f c).1, { c with draft := (f c).2 }) := by
  intro others c w r c' w' _ h
  obtain ⟨heq, rfl⟩ := Timed.ends_done.1 h
  obtain ⟨-, rfl⟩ := Prod.mk.inj heq
  have hunmarked : c.Unmarked { c with draft := (f c).2 } := ⟨rfl, rfl, rfl⟩
  exact ⟨_, (occurs_edit hunmarked).passage⟩

theorem rules_passes : Rules AnyText true fun _ op => Passes op where
  pure := passes_pure
  throw := passes_throw
  bind := passes_bind
  get_bind := passes_get_bind
  attempt := passes_attempt
  look := passes_look
  pause := passes_sleep
  keep _ _ := passes_change fun _ => ⟨rfl, rfl⟩
  arrange _ hledger := passes_change fun w => ⟨hledger w.server, rfl⟩
  drafted := passes_drafted
  fieldCase _ := passes_modify fun _ => ⟨rfl, rfl, rfl⟩
  lockMethod _ := passes_modify fun _ => ⟨rfl, rfl, rfl⟩
  explained := passes_explained
  clearedLog := passes_clearedLog
  connect := passes_connect false
  reconnect _ := passes_connect true
  disconnect _ := passes_disconnect
  beforeUse := passes_beforeUse
  start := passes_start
  commit := passes_commit
  rollback := passes_rollback
  prepare s own _ := passes_prepare s own
  execute s own _ := passes_execute s own
  executePrepared := passes_executePrepared
  query text own _ := passes_query text own
  counted s own f _ := passes_bind (passes_execute s own) fun reply =>
    passes_bind passes_fetchTotalCount fun _ => passes_pure (f reply)

end Op

/-- **Programs are passages.** -/
theorem passage_program {others : World → World → Prop} {c c' : Connection} {w w' : World} {α : Type}
    {r : Except Error α} (work : Program (Use AnyText true) α)
    (h : Op.Ends others (work.op Use.perform) c w r c' w') (ha : Apart others c.client.id) :
    ∃ events, Passage others c w events c' w' :=
  Op.rules_passes.program (fun _ _ => trivial) work others c w r c' w' ha h

end SqlSession
