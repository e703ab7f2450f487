/-
What happens to a connection, call by call.

An `Event` is one call of the client with what the connection records of it, or something that asks for nothing.
`Occurs` says what the event leaves in the ledger, in the log and with the listeners, and which call of the client it
was (`Caused`); a `Passage` is a run of events.
- `exchange_preparing`, `exchange_executing`, `exchange_querying`: what a call leaves in the ledger;
- `heard_preparing` and so on: calls alone tell listeners nothing;
- `passage_own`, `passage_heard`, `passage_log`: what a passage leaves, event by event.

Others share the world. They leave alone what the client has done (`Apart`), and only if they are `Silent` as well do
the listeners hear of this connection alone.
-/
import SqlSession.Proofs.Session.Rules
import SqlSession.Proofs.Session.Traffic

namespace SqlSession

open Query (Draft)

/-- others who step in are not heard of -/
def Silent (others : World → World → Prop) : Prop :=
  ∀ w w', others w w' → w'.heard = w.heard

/-- the ends of a call under the limit of a statement -/
def CallEnds {α : Type} (others : World → World → Prop) (limit : Option Duration) (call : Call α) (client : Client)
    (w : World) (x : Except NativeError α) (client' : Client) (w' : World) : Prop :=
  Timed.Ends others ((call client).within limit fun d => (.error (Op.statementLate d), client)) w (x, client') w'

/-! ## Exchanges -/

/-- what a request leaves in the ledger: nothing, that it was received, or that it was answered as well -/
inductive Exchange {α : Type} (session : SessionId) (request : Request) (limit : Option Duration) :
    Except NativeError α → List Entry → Prop
  | unsent (cause : NativeError) : Exchange session request limit (.error cause) []
  | unanswered (cause : NativeError) :
      Exchange session request limit (.error cause) [.received session request limit]
  | failed (cause : NativeError) :
      Exchange session request limit (.error cause)
        [.received session request limit, .failed session request cause]
  | succeeded (x : α) :
      Exchange session request limit (.ok x) [.received session request limit, .succeeded session request]

section

variable {others : World → World → Prop} {limit : Option Duration} {client client' : Client} {w w' : World}

theorem exchange_preparing {text : String} {x : Except NativeError Nat}
    (h : Preparing others limit client text w x client' w') (ha : Apart others client.id) :
    (∃ entries, Exchange client.session (.prepare text) limit x entries ∧
        w'.own client.id = w.own client.id ++ entries) ∧
      (∀ cause, x = .error cause → client' = client) ∧
      ∀ handle, x = .ok handle → handle = client.nextHandle ∧ client' = client.withPrepared text := by
  cases h with
  | late d w₁ hs _ _ => exact ⟨⟨[], .unsent _, by simp [ha _ _ hs]⟩, fun _ _ => rfl, by simp⟩
  | failed cause rest w₁ w₂ w₃ hs hs' hs'' _ =>
    have hreceived := (ha _ _ hs'').trans (own_note ((ha _ _ hs').trans (ha _ _ hs)) rfl)
    exact ⟨⟨_, .failed cause, own_note_pair hreceived rfl⟩, fun _ _ => rfl, by simp⟩
  | prepared w₁ w₂ w₃ hs hs' hs'' =>
    have hreceived := (ha _ _ hs'').trans (own_note ((ha _ _ hs').trans (ha _ _ hs)) rfl)
    refine ⟨⟨_, .succeeded _, own_note_pair hreceived rfl⟩, by simp, fun handle hx => ⟨?_, rfl⟩⟩
    exact (Except.ok.inj hx).symm

/-- the client behind a call that ran a statement: it may have learned that its session is lost -/
def Client.Heeds (client client' : Client) : Prop :=
  client' = client ∨ ∃ cause, client' = client.told cause

theorem exchange_answering {request : Request} {received : Entry} {x : Except NativeError Reply} {w₀ : World}
    (h : Answering others client request w x client' w') (ha : Apart others client.id)
    (hr : received = .received client.session request limit) (hown : w.own client.id = w₀.own client.id ++ [received]) :
    (∃ entries, Exchange client.session request limit x entries ∧ w'.own client.id = w₀.own client.id ++ entries) ∧
      client.Heeds client' := by
  subst hr
  cases h with
  | failed cause rest w₁ hs _ =>
    exact ⟨⟨_, .failed cause, own_note_pair ((ha _ _ hs).trans hown) rfl⟩, .inr ⟨cause, rfl⟩⟩
  | answered reply w₁ hs => exact ⟨⟨_, .succeeded reply, own_note_pair ((ha _ _ hs).trans hown) rfl⟩, .inl rfl⟩

theorem exchange_querying {text : String} {x : Except NativeError Reply}
    (h : Querying others limit client text w x client' w') (ha : Apart others client.id) :
    (∃ entries, Exchange client.session (.query text) limit x entries ∧
        w'.own client.id = w.own client.id ++ entries) ∧ client.Heeds client' := by
  cases h with
  | late d w₁ hs _ _ => exact ⟨⟨[], .unsent _, by simp [ha _ _ hs]⟩, .inl rfl⟩
  | run w₁ w₂ w' x client' hs hs' h =>
    exact exchange_answering h ha rfl (own_note ((ha _ _ hs').trans (ha _ _ hs)) rfl)

/-- a handle runs what the client prepared under it, or nothing if there is no such thing -/
theorem exchange_executing {handle : Nat} {binds : List Datum} {x : Except NativeError Reply}
    (h : Executing others limit client handle binds w x client' w') (ha : Apart others client.id) :
    (∃ entries, w'.own client.id = w.own client.id ++ entries ∧
        ((client.prepared.lookup handle = none ∧ x = .error Call.unknownHandle ∧ entries = []) ∨
          ∃ text, client.prepared.lookup handle = some text ∧
            Exchange client.session (.execute ⟨text, binds⟩) limit x entries)) ∧ client.Heeds client' := by
  cases h with
  | unknown hk => exact ⟨⟨[], by simp, .inl ⟨hk, rfl, rfl⟩⟩, .inl rfl⟩
  | late d text w₁ w₂ hk hs hs' _ _ =>
    exact ⟨⟨_, (ha _ _ hs').trans (own_note (ha _ _ hs) rfl), .inr ⟨text, hk, .unanswered _⟩⟩, .inl rfl⟩
  | run text w₁ w₂ w' x client' hk hs hs' h =>
    obtain ⟨⟨entries, hex, hown⟩, hheeds⟩ :=
      exchange_answering h ha rfl ((ha _ _ hs').trans (own_note (ha _ _ hs) rfl))
    exact ⟨⟨entries, hown, .inr ⟨text, hk, hex⟩⟩, hheeds⟩

/-! Calls tell listeners nothing -/

theorem heard_answering {request : Request} {x : Except NativeError Reply}
    (h : Answering others client request w x client' w') (hs : Silent others) : w'.heard = w.heard := by
  cases h with
  | failed cause rest w₁ h₁ _ => exact hs w w₁ h₁
  | answered reply w₁ h₁ => exact hs w w₁ h₁

theorem heard_preparing {text : String} {x : Except NativeError Nat}
    (h : CallEnds others limit (Call.prepare text limit) client w x client' w') (hs : Silent others) :
    w'.heard = w.heard := by
  cases ends_preparing h with
  | late d w₁ h₁ _ _ => exact hs w w' h₁
  | failed cause rest w₁ w₂ w₃ h₁ h₂ h₃ _ => exact (hs _ w₃ h₃).trans ((hs w₁ w₂ h₂).trans (hs w w₁ h₁))
  | prepared w₁ w₂ w₃ h₁ h₂ h₃ => exact (hs _ w₃ h₃).trans ((hs w₁ w₂ h₂).trans (hs w w₁ h₁))

theorem heard_querying {text : String} {x : Except NativeError Reply}
    (h : CallEnds others limit (Call.query text limit) client w x client' w') (hs : Silent others) :
    w'.heard = w.heard := by
  cases ends_querying h with
  | late d w₁ h₁ _ _ => exact hs w w' h₁
  | run w₁ w₂ w' x client' h₁ h₂ hend => exact (heard_answering hend hs).trans ((hs w₁ w₂ h₂).trans (hs w w₁ h₁))

theorem heard_executing {handle : Nat} {binds : List Datum} {x : Except NativeError Reply}
    (h : CallEnds others limit (Call.execute handle binds limit) client w x client' w') (hs : Silent others) :
    w'.heard = w.heard := by
  cases ends_executing h with
  | unknown _ => rfl
  | late d text w₁ w₂ _ h₁ h₂ _ _ => exact (hs _ w' h₂).trans (hs w w₁ h₁)
  | run text w₁ w₂ w' x client' _ h₁ h₂ hend => exact (heard_answering hend hs).trans ((hs _ w₂ h₂).trans (hs w w₁ h₁))

theorem heard_opening {x : Except NativeError Unit} (h : Opening others limit client w x client' w')
    (hs : Silent others) : w'.heard = w.heard := by
  cases h with
  | late d w₁ h₁ _ _ => exact hs w w' h₁
  | refused n w₁ w₂ h₁ h₂ _ => exact (hs w₁ w₂ h₂).trans (hs w w₁ h₁)
  | opened w₁ w₂ h₁ h₂ => exact (hs w₁ w₂ h₂).trans (hs w w₁ h₁)

end

/-! ## Events -/

/-- what a client is asked to run: a statement that it has a handle of, or a text -/
inductive Errand where
  | handle (p : Prepared)
  | text (words : String)

namespace Errand

/-- the statement that the connection was told to run -/
def statement : Errand → Statement
  | handle p => p.statement
  | text words => .ofText words

def call (limit : Option Duration) : Errand → Call Reply
  | handle p => Call.execute p.handle p.statement.binds limit
  | text words => Call.query words limit

end Errand

/-- one thing that happens to a connection, with the entries that it leaves in the ledger -/
inductive Event where
  /-- clauses, settings, counts of transactions, sessions that come and go: nothing is asked for -/
  | aside (entries : List Entry)
  | prepared (statement : Statement) (entries : List Entry)
  /-- a statement could not be prepared -/
  | unprepared (statement : Statement) (cause : NativeError) (entries : List Entry)
  | ran (errand : Errand) (outcome : Except NativeError Reply) (entries : List Entry)
  /-- the count of rows, asked for behind the statement that was the last one -/
  | counted (last : Statement) (outcome : Except NativeError Reply) (entries : List Entry)
  /-- a plan is put on record -/
  | explained (text : String)
  | cleared

/-- what came of something that a client was asked for: the rows that it affected, or why it failed -/
structure Verdict where
  statement : Statement
  outcome : Except NativeError Nat

namespace Verdict

/-- what each listener hears of it -/
def heard : Verdict → Heard
  | ⟨statement, .ok affected⟩ => ⟨statement.filled, affected, none⟩
  | ⟨statement, .error cause⟩ => ⟨statement.filled, 0, some cause.errno⟩

/-- what is put on record of it -/
def logged : Verdict → Log.Entry
  | ⟨statement, .ok _⟩ => ⟨.statement, Log.timed statement.filled⟩
  | ⟨statement, .error cause⟩ => ⟨.debug, cause.text ++ " with statement -> " ++ statement.filled⟩

end Verdict

namespace Event

def entries : Event → List Entry
  | aside entries => entries
  | prepared _ entries => entries
  | unprepared _ _ entries => entries
  | ran _ _ entries => entries
  | counted _ _ entries => entries
  | explained _ => []
  | cleared => []

/-- what a client is asked to run, and what it could not prepare -/
def asked : Event → List Verdict
  | unprepared statement cause _ => [⟨statement, .error cause⟩]
  | ran errand outcome _ => [⟨errand.statement, outcome.map Reply.affected⟩]
  | counted _ outcome _ => [⟨.ofText Op.foundRowsText, outcome.map Reply.affected⟩]
  | _ => []

/-- what the connection tells of: of no count that succeeds, and of one that fails as if it were the last statement -/
def reported : Event → List Verdict
  | counted _ (.ok _) _ => []
  | counted last (.error cause) _ => [⟨last, .error cause⟩]
  | e => e.asked

/-- what each listener hears -/
def heard (e : Event) : List Heard :=
  e.reported.map Verdict.heard

/-- what is put on record -/
def logged : Event → List Log.Entry
  | explained text => [⟨.explain, text⟩]
  | e => e.reported.map Verdict.logged

/-- the log behind the event -/
def onLog (l : Log) : Event → Log
  | cleared => l.clear
  | e => e.logged.foldl (fun l entry => l.push entry.kind entry.text) l

end Event

/-- the client behind something that asks for nothing: it prepares nothing, and it may have forgotten -/
structure Client.Rests (client client' : Client) : Prop where
  id : client'.id = client.id
  next : client'.nextHandle = client.nextHandle
  prepared : ∀ e ∈ client'.prepared, e ∈ client.prepared

/-- the call of the client that an event is about -/
inductive Caused (others : World → World → Prop) (c : Connection) (w : World) : Event → Client → World → Prop
  | aside (entries : List Entry) (client : Client) (w' : World) (quiet : ∀ e ∈ entries, e.request? = none)
      (rests : c.client.Rests client) : Caused others c w (.aside entries) client w'
  | prepared (statement : Statement) (limit : Option Duration) (handle : Nat) (client : Client) (w' : World)
      (entries : List Entry)
      (call : CallEnds others limit (Call.prepare statement.text limit) c.client w (.ok handle) client w') :
      Caused others c w (.prepared statement entries) client w'
  | unprepared (statement : Statement) (limit : Option Duration) (cause : NativeError) (client : Client) (w' : World)
      (entries : List Entry)
      (call : CallEnds others limit (Call.prepare statement.text limit) c.client w (.error cause) client w') :
      Caused others c w (.unprepared statement cause entries) client w'
  | ran (errand : Errand) (limit : Option Duration) (outcome : Except NativeError Reply) (client : Client) (w' : World)
      (entries : List Entry) (call : CallEnds others limit (errand.call limit) c.client w outcome client w') :
      Caused others c w (.ran errand outcome entries) client w'
  | counted (limit : Option Duration) (outcome : Except NativeError Reply) (client : Client) (w' : World)
      (entries : List Entry)
      (call : CallEnds others limit (Call.query Op.foundRowsText limit) c.client w outcome client w') :
      Caused others c w (.counted c.last outcome entries) client w'
  | explained (text : String) (w' : World) : Caused others c w (.explained text) c.client w'
  | cleared (w' : World) : Caused others c w .cleared c.client w'

/-- an event and what it leaves behind; `w₁` is the world right behind the call -/
structure Occurs (others : World → World → Prop) (c : Connection) (w : World) (e : Event) (c' : Connection)
    (w' : World) : Prop where
  caused : ∃ w₁, Caused others c w e c'.client w₁ ∧ w'.own c.client.id = w₁.own c.client.id
  registry : c'.registry = c.registry
  log : c'.log = e.onLog c.log
  own : w'.own c.client.id = w.own c.client.id ++ e.entries
  heard : Silent others → w'.heard = w.heard ++ e.heard.flatMap (List.replicate c.registry.listeners)

/-- events, one after the other -/
inductive Passage (others : World → World → Prop) : Connection → World → List Event → Connection → World → Prop
  | here (c : Connection) (w : World) : Passage others c w [] c w
  | next {c c₁ c' : Connection} {w w₁ w' : World} {e : Event} {events : List Event} (occurs : Occurs others c w e c₁ w₁)
      (rest : Passage others c₁ w₁ events c' w') : Passage others c w (e :: events) c' w'

/-! ## What events leave -/

theorem heard_untold {e : Event} (h : e.reported = []) (listeners : Nat) :
    e.heard.flatMap (List.replicate listeners) = [] := by
  rw [Event.heard, h]
  rfl

theorem heard_told {e : Event} {v : Verdict} (h : e.reported = [v]) (listeners : Nat) :
    e.heard.flatMap (List.replicate listeners) = List.replicate listeners v.heard := by
  rw [Event.heard, h, List.map_singleton, List.flatMap_singleton]


section

variable {others : World → World → Prop} {c c₁ c' : Connection} {w w₁ w' : World} {e : Event} {events more : List Event}

theorem Client.Rests.refl (client : Client) : client.Rests client := ⟨rfl, rfl, fun _ he => he⟩

theorem Client.Rests.told (client : Client) (cause : NativeError) : client.Rests (client.told cause) := by
  unfold Client.told
  split
  · exact ⟨rfl, rfl, fun _ he => he⟩
  · exact .refl client

theorem Client.Heeds.rests {client client' : Client} (h : client.Heeds client') : client.Rests client' := by
  rcases h with rfl | ⟨cause, rfl⟩
  · exact .refl client'
  · exact .told client cause

theorem Errand.heeds {errand : Errand} {limit : Option Duration} {client client' : Client}
    {outcome : Except NativeError Reply} (h : CallEnds others limit (errand.call limit) client w outcome client' w')
    (ha : Apart others client.id) : client.Heeds client' := by
  cases errand with
  | handle p => exact (exchange_executing (ends_executing h) ha).2
  | text words => exact (exchange_querying (ends_querying h) ha).2

theorem Caused.id {client : Client} (h : Caused others c w e client w') (ha : Apart others c.client.id) :
    client.id = c.client.id := by
  cases h with
  | aside _ _ _ _ rests => exact rests.id
  | prepared statement _ handle _ _ _ call =>
    rw [((exchange_preparing (ends_preparing call) ha).2.2 handle rfl).2]
    rfl
  | unprepared _ _ cause _ _ _ call => rw [(exchange_preparing (ends_preparing call) ha).2.1 cause rfl]
  | ran errand _ _ _ _ _ call => exact (Errand.heeds call ha).rests.id
  | counted _ _ _ _ _ call => exact (exchange_querying (ends_querying call) ha).2.rests.id
  | explained _ _ => rfl
  | cleared _ => rfl

theorem Occurs.id (h : Occurs others c w e c' w') (ha : Apart others c.client.id) : c'.client.id = c.client.id := by
  obtain ⟨w₁, hcaused, -⟩ := h.caused
  exact hcaused.id ha

theorem Occurs.passage (h : Occurs others c w e c' w') : Passage others c w [e] c' w' := .next h (.here c' w')

theorem Passage.trans (h : Passage others c w events c₁ w₁) (h' : Passage others c₁ w₁ more c' w') :
    Passage others c w (events ++ more) c' w' := by
  induction h with
  | here _ _ => exact h'
  | next occurs _ ih => exact .next occurs (ih h')

theorem Passage.id (h : Passage others c w events c' w') (ha : Apart others c.client.id) :
    c'.client.id = c.client.id := by
  induction h with
  | here _ _ => rfl
  | next occurs _ ih => exact (ih ((occurs.id ha).symm ▸ ha)).trans (occurs.id ha)

theorem Passage.apart (h : Passage others c w events c' w') (ha : Apart others c.client.id) :
    Apart others c'.client.id :=
  (h.id ha).symm ▸ ha

/-- **The ledger, event by event.** -/
theorem passage_own (h : Passage others c w events c' w') (ha : Apart others c.client.id) :
    w'.own c.client.id = w.own c.client.id ++ events.flatMap Event.entries := by
  induction h with
  | here _ _ => simp
  | @next c c₁ c' w w₁ w' e events occurs _ ih =>
    have hid := occurs.id ha
    have hrest := ih (hid.symm ▸ ha)
    rw [hid, occurs.own] at hrest
    rw [hrest, List.flatMap_cons, List.append_assoc]

theorem Passage.registry (h : Passage others c w events c' w') : c'.registry = c.registry := by
  induction h with
  | here _ _ => rfl
  | next occurs _ ih => exact ih.trans occurs.registry

/-- **The listeners, event by event.** -/
theorem passage_heard (h : Passage others c w events c' w') (hs : Silent others) :
    w'.heard = w.heard ++ (events.flatMap Event.heard).flatMap (List.replicate c.registry.listeners) := by
  induction h with
  | here _ _ => simp
  | next occurs _ ih =>
    rw [ih, occurs.heard hs, occurs.registry, List.flatMap_cons, List.flatMap_append, List.append_assoc]

/-- **The log, event by event.** -/
theorem passage_log (h : Passage others c w events c' w') : c'.log = events.foldl Event.onLog c.log := by
  induction h with
  | here _ _ => rfl
  | next occurs _ ih => rw [ih, occurs.log, List.foldl_cons]

end

end SqlSession
