/-
Operations that nothing gets in the way of.

While the world is `Calm`, connects are let in, no call takes longer than the patience that all limits have, queries
succeed, and prepared statements fail for no reason but their own, so that the session can be relied on from then on. A
`Peaceful` connection stays so:
- `peaceful_connect`: there is a session;
- `peaceful_query`: the server performs the statement;
- `peaceful_execute`: it performs the statement, or leaves everything as it was.
-/
import SqlSession.Proofs.Session.Database
import SqlSession.Proofs.Session.Requests

namespace SqlSession

/-- a statement that is run without being prepared has been received -/
def Entry.isQuery : Entry → Bool
  | .received _ (.query _) _ => true
  | _ => false

/-- nothing gets in the way of the client -/
structure Calm (patience id : Nat) (w : World) : Prop where
  welcome : w.server.refusals = 0
  savepoints : w.server.savepoints = true
  connect : w.server.delays.connect ≤ patience
  prepare : w.server.delays.prepare ≤ patience
  execute : w.server.delays.execute ≤ patience
  query : w.server.delays.query ≤ patience
  prepared : ∀ cause ∈ w.server.prepareFailures, Connection.doubts cause = false
  run : ∀ cause ∈ w.server.runFailures, Connection.doubts cause = false
  queried : (w.own id).getLast?.any Entry.isQuery = true → w.server.runFailures = []

instance (patience id : Nat) (w : World) : Decidable (Calm patience id w) :=
  decidable_of_iff (w.server.refusals = 0 ∧ w.server.savepoints = true ∧ w.server.delays.connect ≤ patience ∧
      w.server.delays.prepare ≤ patience ∧ w.server.delays.execute ≤ patience ∧ w.server.delays.query ≤ patience ∧
      (∀ cause ∈ w.server.prepareFailures, Connection.doubts cause = false) ∧
      (∀ cause ∈ w.server.runFailures, Connection.doubts cause = false) ∧
      ((w.own id).getLast?.any Entry.isQuery = true → w.server.runFailures = []))
    ⟨fun ⟨a, b, c, d, e, f, g, h, i⟩ => ⟨a, b, c, d, e, f, g, h, i⟩,
      fun ⟨a, b, c, d, e, f, g, h, i⟩ => ⟨a, b, c, d, e, f, g, h, i⟩⟩

/-- others keep the world calm, and leave alone what the client has done -/
def Calming (others : World → World → Prop) (patience id : Nat) : Prop :=
  ∀ w w', others w w' → w'.own id = w.own id ∧ Calm patience id w'

/-- nobody steps in, and nothing gets in the way -/
def Undisturbed (patience id : Nat) (w w' : World) : Prop := w' = w ∧ Calm patience id w

theorem calming_undisturbed (patience id : Nat) : Calming (Undisturbed patience id) patience id := by
  rintro w _ ⟨rfl, hc⟩
  exact ⟨rfl, hc⟩

/-- a limit that such a call keeps -/
def Patient (patience : Nat) (limit : Option Duration) : Prop := ∀ d ∈ limit, patience ≤ d.ticks

theorem patient_none (patience : Nat) : Patient patience none := by
  simp [Patient]

/-- the settings give every call enough time -/
structure Config.Patient (patience : Nat) (config : Config) : Prop where
  connect : ∃ limit, config.connectLimit = .ok limit ∧ SqlSession.Patient patience limit
  execute : ∃ limit, config.executeLimit = .ok limit ∧ SqlSession.Patient patience limit

/-- a connection that can be relied on, and a transaction only in an open session -/
structure Peaceful (patience : Nat) (c : Connection) (w : World) : Prop where
  sure : c.needsReconnect = false
  patient : c.config.Patient patience
  settled : c.client.connected = false → (w.database c.client.id).pending = none

/-- an operation left a connection peaceful, with a session, and the client's database like this -/
structure Passed (patience : Nat) (c c' : Connection) (w' : World) (db : Database) : Prop where
  peaceful : Peaceful patience c' w'
  id : c'.client.id = c.client.id
  depth : c'.depth = c.depth
  live : c'.client.connected = true
  database : w'.database c.client.id = db

variable {others : World → World → Prop} {patience : Nat} {limit : Option Duration} {client client' : Client}
  {c c' : Connection} {w w' : World} {db : Database}

theorem Calming.apart {id : Nat} (h : Calming others patience id) : Apart others id := fun w w' hs => (h w w' hs).1

theorem Calming.database {id : Nat} (h : Calming others patience id) (hs : others w w') :
    w'.database id = w.database id :=
  database_of_own (h w w' hs).1

theorem Passed.of_live (hp : Peaceful patience c w) (hl : c.client.connected = true) :
    Passed patience c c w (w.database c.client.id) :=
  ⟨hp, rfl, rfl, hl, rfl⟩

/-- what keeps session, depth and settings -/
theorem Passed.kept {c₁ : Connection} {w₁ : World} {db' : Database} (h : Passed patience c c₁ w₁ db)
    (hid : c'.client.id = c₁.client.id) (hlive : c'.client.connected = c₁.client.connected)
    (hdepth : c'.depth = c₁.depth) (hsure : c'.needsReconnect = c₁.needsReconnect) (hconfig : c'.config = c₁.config)
    (hdb : w'.database c.client.id = db') : Passed patience c c' w' db' where
  peaceful := by
    refine ⟨hsure.trans h.peaceful.sure, hconfig ▸ h.peaceful.patient, fun hf => ?_⟩
    cases (hlive.trans h.live).symm.trans hf
  id := hid.trans h.id
  depth := hdepth.trans h.depth
  live := hlive.trans h.live
  database := hdb

theorem sure_recordFailure {cause : NativeError} (hd : Connection.doubts cause = false) :
    (c.recordFailure cause).needsReconnect = c.needsReconnect := by
  rw [(Connection.alike_recordFailure c cause).needsReconnect, hd, Bool.or_false]

theorem patient_limit {own : Option Duration} (hp : c.config.Patient patience) (ho : Patient patience own) :
    ∃ limit, c.limit own = .ok limit ∧ Patient patience limit := by
  cases own with
  | some d => exact ⟨some d, rfl, ho⟩
  | none => exact hp.execute

/-! ## Calls -/

theorem calm_opening {x : Except NativeError Unit} (hc : Calming others patience client.id)
    (hl : Patient patience limit) (h : Opening others limit client w x client' w') : x = .ok () := by
  cases h with
  | late d w₁ hs hd hslow =>
    have := hl d hd
    have := (hc _ _ hs).2.connect
    omega
  | refused n w₁ w₂ _ hs hn => exact absurd ((hc _ _ hs).2.welcome.symm.trans hn) (by simp)
  | opened _ _ _ _ => rfl

theorem calm_preparing {text : String} {x : Except NativeError Nat} (hc : Calming others patience client.id)
    (hl : Patient patience limit) (h : Preparing others limit client text w x client' w') :
    w'.database client.id = w.database client.id ∧
      ((∃ cause, x = .error cause ∧ Connection.doubts cause = false ∧ client' = client) ∨
        x = .ok client.nextHandle ∧ client' = client.withPrepared text) := by
  cases h with
  | late d w₁ hs hd hslow =>
    have := hl d hd
    have := (hc _ _ hs).2.prepare
    omega
  | failed cause rest w₁ w₂ w₃ hs hs' hs'' hf =>
    have hdb : w₃.database client.id = w.database client.id := by
      rw [hc.database hs'', database_received, hc.database hs', hc.database hs]
    refine ⟨?_, .inl ⟨cause, rfl, (hc _ _ hs'').2.prepared cause (by rw [hf]; simp), rfl⟩⟩
    rw [database_failed]
    exact hdb
  | prepared w₁ w₂ w₃ hs hs' hs'' =>
    refine ⟨?_, .inr ⟨rfl, rfl⟩⟩
    rw [database_prepared, hc.database hs'', database_received, hc.database hs', hc.database hs]

/-- the end of a request: it is performed, or fails for a reason of its own -/
theorem calm_answering {request : Request} {s : Statement} {x : Except NativeError Reply}
    (hc : Calming others patience client.id) (h : Answering others client request w x client' w')
    (hr : ∀ db : Database, db.note (.succeeded client.session request) = db.perform s) :
    client' = client ∧
      ((∃ cause rest w₁, others w w₁ ∧ w₁.server.runFailures = cause :: rest ∧ x = .error cause ∧
          Connection.doubts cause = false ∧ w'.database client.id = w.database client.id) ∨
        ∃ reply, x = .ok reply ∧ w'.database client.id = (w.database client.id).perform s) := by
  cases h with
  | failed cause rest w₁ hs hf =>
    have hd : Connection.doubts cause = false := (hc _ _ hs).2.run cause (by rw [hf]; simp)
    refine ⟨?_, .inl ⟨cause, rest, w₁, hs, hf, rfl, hd, ?_⟩⟩
    · rw [Connection.doubts, Bool.or_eq_false_iff] at hd
      rw [Client.told, hd.1]
      rfl
    · have hdb : w₁.database client.id = w.database client.id := hc.database hs
      rw [database_failed]
      exact hdb
  | answered reply w₁ hs =>
    refine ⟨rfl, .inr ⟨reply, rfl, ?_⟩⟩
    rw [database_succeeded, hr, hc.database hs]

theorem calm_executing {handle : Nat} {text : String} {binds : List Datum} {x : Except NativeError Reply}
    (hc : Calming others patience client.id) (hl : Patient patience limit)
    (hk : client.prepared.lookup handle = some text)
    (h : Executing others limit client handle binds w x client' w') :
    client' = client ∧
      ((∃ cause, x = .error cause ∧ Connection.doubts cause = false ∧
          w'.database client.id = w.database client.id) ∨
        ∃ reply, x = .ok reply ∧ w'.database client.id = (w.database client.id).perform ⟨text, binds⟩) := by
  cases h with
  | unknown hn => exact absurd (hn.symm.trans hk) (by simp)
  | late d _ w₁ w₂ _ _ hs hd hslow =>
    have := hl d hd
    have := (hc _ _ hs).2.execute
    omega
  | run text' w₁ w₂ w' x client' hk' hs hs' h =>
    cases hk.symm.trans hk'
    have hdb : w₂.database client.id = w.database client.id := by
      rw [hc.database hs', database_received, hc.database hs]
    obtain ⟨hclient, ⟨cause, _, _, _, _, hx, hd, hdb'⟩ | ⟨reply, hx, hdb'⟩⟩ :=
      calm_answering (s := ⟨text, binds⟩) hc h fun _ => rfl
    · exact ⟨hclient, .inl ⟨cause, hx, hd, hdb'.trans hdb⟩⟩
    · exact ⟨hclient, .inr ⟨reply, hx, by rw [hdb', hdb]⟩⟩

theorem calm_querying {text : String} {x : Except NativeError Reply} (hc : Calming others patience client.id)
    (hl : Patient patience limit) (h : Querying others limit client text w x client' w') :
    client' = client ∧
      ∃ reply, x = .ok reply ∧ w'.database client.id = (w.database client.id).perform (.ofText text) := by
  cases h with
  | late d w₁ hs hd hslow =>
    have := hl d hd
    have := (hc _ _ hs).2.query
    omega
  | run w₁ w₂ w' x client' hs hs' h =>
    have hown : (w₂.note (.received client.session (.query text) limit)).own client.id =
        w₂.own client.id ++ [.received client.session (.query text) limit] := own_note rfl rfl
    obtain ⟨hclient, ⟨cause, rest, w₃, hs'', hf, -⟩ | ⟨reply, hx, hdb⟩⟩ :=
      calm_answering (s := .ofText text) hc h fun _ => rfl
    · obtain ⟨hown', hcalm⟩ := hc _ _ hs''
      have hnone : w₃.server.runFailures = [] := hcalm.queried (by rw [hown', hown]; simp [Entry.isQuery])
      exact absurd (hnone.symm.trans hf) (by simp)
    · refine ⟨hclient, reply, hx, ?_⟩
      rw [hdb, database_received, hc.database hs', hc.database hs]

/-! ## Operations -/

namespace Op

theorem ends_undisturbed {α : Type} {id now : Nat} {op : Op α} {run : (Except Error α × Connection) × Nat × World}
    (h : (op c).run now w = run) (hP : (op c).Throughout (Calm patience id) w) :
    Ends (Undisturbed patience id) op c w run.1.1 run.1.2 run.2.2 :=
  ends_of_run (fun _ hc => ⟨rfl, hc⟩) h hP

theorem peaceful_opened {r : Except Error Unit} (hc : Calming others patience c.client.id)
    (hp : Peaceful patience c w) (hn : c.client.connected = false) (h : Opened others 0 c w r c' w') :
    r = .ok () ∧ Passed patience c c' w' (w.database c.client.id) := by
  obtain ⟨limit, hlimit, hpatient⟩ := hp.patient.connect
  cases h with
  | failed e refused c' w' _ _ _ hcause =>
    obtain he | ⟨limit', cause, w₁, w₂, hlimit', hopening, -⟩ := hcause
    · cases he.symm.trans hlimit
    · cases hlimit.symm.trans hlimit'
      cases calm_opening hc hpatient hopening
  | opened refused c' w' hr _ halike hown =>
    have hlive : c'.client.connected = true := by rw [halike.client]; rfl
    have hid : c'.client.id = c.client.id := by rw [halike.client]; rfl
    have hdb : w'.database c.client.id = w.database c.client.id := by
      rw [List.append_assoc] at hown
      rw [database_of_news hown, List.foldl_append, Database.note_refusals hr]
      exact Database.rollback_of_settled (hp.settled hn)
    refine ⟨rfl, ⟨halike.needsReconnect, halike.config ▸ hp.patient, fun hf => ?_⟩, hid, halike.depth, hlive, hdb⟩
    cases hf.symm.trans hlive
  | lost refused c' w' _ hlost _ _ => cases hlost

theorem peaceful_connect {r : Except Error Unit} (hc : Calming others patience c.client.id)
    (hp : Peaceful patience c w) (h : Connected others c w r c' w') :
    r = .ok () ∧ Passed patience c c' w' (w.database c.client.id) := by
  cases h with
  | live _ hl => exact ⟨rfl, .of_live hp hl⟩
  | fresh r c' w' _ hn ho => exact peaceful_opened hc hp hn ho
  | again gone w₁ r c' w' hdoubt _ _ _ => cases hdoubt.symm.trans hp.sure

/-- a statement begins in a session, with a limit that keeps -/
theorem peaceful_begin {statement : Statement} {own : Option Duration} {x : Except Error (Option Duration)}
    (hc : Calming others patience c.client.id) (hp : Peaceful patience c w) (ho : Patient patience own)
    (h : Begun others statement own c w x c' w') :
    (∃ limit, x = .ok limit ∧ Patient patience limit) ∧ Passed patience c c' w' (w.database c.client.id) := by
  cases h with
  | unconnected e c' w' hconn => cases (peaceful_connect hc hp hconn).1
  | connected c₁ w₁ hconn =>
    have hpass := (peaceful_connect hc hp hconn).2
    exact ⟨patient_limit hpass.peaceful.patient ho, hpass.kept rfl rfl rfl rfl rfl hpass.database⟩

theorem peaceful_query {text : String} {own : Option Duration} {r : Except Error RowSet}
    (hc : Calming others patience c.client.id) (hp : Peaceful patience c w) (ho : Patient patience own)
    (h : Ends others (query text own) c w r c' w') :
    (∃ rows, r = .ok rows) ∧ Passed patience c c' w' ((w.database c.client.id).perform (.ofText text)) := by
  obtain ⟨e, hb, -⟩ | ⟨limit, c₁, w₁, x, client, w₂, reply, hb, hq, hconc, hown, hr⟩ := ends_query h hc.apart
  · obtain ⟨⟨_, heq, -⟩, -⟩ := peaceful_begin hc hp ho hb
    cases heq
  obtain ⟨⟨_, heq, hl⟩, hpass⟩ := peaceful_begin hc hp ho hb
  cases heq
  obtain ⟨rfl, reply', rfl, hdb⟩ := calm_querying (hpass.id.symm ▸ hc) hl hq
  cases hconc with
  | answered reply =>
    refine ⟨⟨_, hr⟩, hpass.kept rfl rfl rfl rfl rfl ?_⟩
    rw [hpass.id] at hdb
    rw [database_of_own hown, hdb, hpass.database]

theorem peaceful_prepare {statement : Statement} {own : Option Duration} {r : Except Error Prepared}
    (hc : Calming others patience c.client.id) (hp : Peaceful patience c w) (ho : Patient patience own)
    (h : Ends others (prepare statement own) c w r c' w') :
    aborts r = false ∧ Passed patience c c' w' (w.database c.client.id) := by
  obtain ⟨e, hb, -⟩ | ⟨limit, c₁, w₁, x, client, w₂, hb, hprep, hk, hown⟩ := ends_prepare h hc.apart
  · obtain ⟨⟨_, heq, -⟩, -⟩ := peaceful_begin hc hp ho hb
    cases heq
  obtain ⟨⟨_, heq, hl⟩, hpass⟩ := peaceful_begin hc hp ho hb
  cases heq
  obtain ⟨hdb, hx⟩ := calm_preparing (hpass.id.symm ▸ hc) hl hprep
  have hdb' : w'.database c.client.id = w.database c.client.id := by
    rw [hpass.id] at hdb
    rw [database_of_own hown, hdb, hpass.database]
  obtain ⟨cause, rfl, hd, rfl⟩ | ⟨rfl, rfl⟩ := hx
  · cases hk with
    | failed cause e blamed =>
      exact ⟨blamed.goesOn fun _ => rfl, hpass.kept rfl rfl rfl (sure_recordFailure hd) rfl hdb'⟩
  · cases hk with
    | prepared handle => exact ⟨rfl, hpass.kept rfl rfl rfl rfl rfl hdb'⟩

/-- a statement is performed, or leaves everything as it was -/
theorem peaceful_execute {statement : Statement} {own : Option Duration} {r : Except Error Reply}
    (hc : Calming others patience c.client.id) (hp : Peaceful patience c w) (ho : Patient patience own)
    (h : Ends others (execute statement own) c w r c' w') :
    (∃ reply, r = .ok reply ∧ Passed patience c c' w' ((w.database c.client.id).perform statement)) ∨
      ∃ e, r = .error e ∧ e.isAbort = false ∧ Passed patience c c' w' (w.database c.client.id) := by
  obtain ⟨e, he, -⟩ | ⟨e, hprep, hr⟩ | ⟨limit, p, c₁, w₁, x, client, w₂, hlimit, hprep, hx, hconc, hown⟩ :=
    ends_execute h hc.apart
  · obtain ⟨limit, hlimit, -⟩ := patient_limit hp.patient ho
    cases he.symm.trans hlimit
  · exact .inr ⟨e, hr, peaceful_prepare hc hp ho hprep⟩
  have hpass := (peaceful_prepare hc hp ho hprep).2
  obtain ⟨_, heq, hl⟩ := patient_limit hp.patient ho
  cases heq.symm.trans hlimit
  obtain ⟨hknown, -⟩ := (stated_prepare (T := fun _ => True) hprep hc.apart trivial).2 p rfl
  obtain ⟨rfl, ⟨cause, rfl, hd, hdb⟩ | ⟨reply, rfl, hdb⟩⟩ := calm_executing (hpass.id.symm ▸ hc) hl hknown hx
  · cases hconc with
    | failed cause e blamed =>
      refine .inr ⟨e, rfl, blamed.goesOn fun _ => rfl, hpass.kept rfl rfl rfl (sure_recordFailure hd) rfl ?_⟩
      rw [hpass.id] at hdb
      rw [database_of_own hown, hdb, hpass.database]
  · cases hconc with
    | answered reply =>
      refine .inl ⟨reply, rfl, hpass.kept rfl rfl rfl rfl rfl ?_⟩
      rw [hpass.id] at hdb
      rw [database_of_own hown, hdb, hpass.database]

end Op

end SqlSession
