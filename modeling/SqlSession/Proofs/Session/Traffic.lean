/-
What the operations on a connection leave in the server's ledger.

`World.own` is the part of the ledger that one client made. Others, who share the world, add nothing to it (`Apart`).
From an operation's end follow its result, what is left of the connection (`Alike` but for a few fields), and the
entries it made:
- `ends_connect`: sessions that are made sure of;
- `ends_prepare`, `ends_execute`, `ends_executePrepared`, `ends_query`: statements.
-/
import SqlSession.Proofs.Session.Calls

namespace SqlSession

/-- the client that an entry is about -/
def Entry.client : Entry → Nat
  | .opened session => session.client
  | .refused client => client
  | .received session _ _ => session.client
  | .succeeded session _ => session.client
  | .failed session _ _ => session.client
  | .closed session => session.client

/-- the entries that a client made -/
def World.own (w : World) (id : Nat) : List Entry :=
  w.server.ledger.filter fun entry => entry.client == id

theorem own_note {w : World} {entry : Entry} {id : Nat} {entries : List Entry} (h : w.own id = entries)
    (he : entry.client = id) : (w.note entry).own id = entries ++ [entry] := by
  have hfilter : (w.note entry).own id = w.own id ++ [entry] := by
    simp [World.own, World.note, World.arrange, Server.note, List.filter_append, he]
  rw [hfilter, h]

theorem own_note_pair {w : World} {a b : Entry} {id : Nat} {entries : List Entry} (h : w.own id = entries ++ [a])
    (hb : b.client = id) : (w.note b).own id = entries ++ [a, b] :=
  (own_note h hb).trans (List.append_assoc _ _ _)

/-- the text of what a server is asked for -/
def Request.text : Request → String
  | .prepare text => text
  | .execute statement => statement.text
  | .query text => text

/-- the session and the request that an entry is about -/
def Entry.request? : Entry → Option (SessionId × Request)
  | .received session request _ => some (session, request)
  | .succeeded session request => some (session, request)
  | .failed session request _ => some (session, request)
  | _ => none

def Entry.isOpening : Entry → Bool
  | .opened _ => true
  | _ => false

/-- others who step in leave alone what a client has done -/
def Apart (others : World → World → Prop) (id : Nat) : Prop :=
  ∀ w w', others w w' → w'.own id = w.own id

/-- two connections that agree on session, open transactions and settings -/
structure Connection.Alike (c c' : Connection) : Prop where
  client : c'.client = c.client
  depth : c'.depth = c.depth
  needsReconnect : c'.needsReconnect = c.needsReconnect
  config : c'.config = c.config

namespace Connection

theorem Alike.refl (c : Connection) : Alike c c := ⟨rfl, rfl, rfl, rfl⟩

theorem alike_beginStatement (c : Connection) (statement : Statement) : Alike c (c.beginStatement statement) :=
  ⟨rfl, rfl, rfl, rfl⟩

theorem alike_recordSuccess (c : Connection) (reply : Reply) : Alike c (c.recordSuccess reply) := ⟨rfl, rfl, rfl, rfl⟩

/-- the session is not to be relied on behind this failure -/
def doubts (cause : NativeError) : Bool :=
  isLossText cause.message || cause.errno == errnoTimeout

theorem alike_recordFailure (c : Connection) (cause : NativeError) :
    Alike { c with needsReconnect := c.needsReconnect || doubts cause } (c.recordFailure cause) :=
  ⟨rfl, rfl, Bool.or_assoc _ _ _, rfl⟩

end Connection

/-- the client behind the end of its session, if it has one -/
def Client.shut (client : Client) : Client :=
  if client.connected then client.close else client

theorem session_shut (client : Client) : client.shut.session = client.session := by
  unfold Client.shut; split <;> rfl

theorem id_shut (client : Client) : client.shut.id = client.id := congrArg SessionId.client (session_shut client)

theorem openings_shut (client : Client) : client.shut.openings = client.openings :=
  congrArg SessionId.opening (session_shut client)

theorem connected_shut (client : Client) : client.shut.connected = false := by
  unfold Client.shut
  split
  · rfl
  · next hc => exact Bool.eq_false_iff.2 hc

theorem nextHandle_shut (client : Client) : client.shut.nextHandle = client.nextHandle := by
  unfold Client.shut; split <;> rfl

theorem prepared_shut {client : Client} : ∀ e ∈ client.shut.prepared, e ∈ client.prepared := by
  intro e he
  unfold Client.shut at he
  split at he
  · cases he
  · exact he

namespace Op

open Connection (Alike)

variable {others : World → World → Prop} {c c' : Connection} {w w' : World}

/-! ## Bookkeeping -/

theorem ends_notify_bind {β : Type} {heard : Heard} {f : Unit → Op β} {r : Except Error β} {id : Nat}
    (h : Ends others (notify heard >>= f) c w r c' w') (ha : Apart others id) :
    ∃ w₁, w₁.own id = w.own id ∧ Ends others (f ()) c w₁ r c' w' := by
  have hn : ∀ r c₁ w₁, Ends others (notify heard) c w r c₁ w₁ → r = .ok () ∧ c₁ = c ∧ w₁.own id = w.own id := by
    intro r c₁ w₁ hn
    rw [notify, ends_get_bind] at hn
    obtain ⟨x, rfl, rfl, hn⟩ := ends_shared.1 hn
    obtain ⟨w₂, hs, hn⟩ := Timed.ends_act.1 hn
    obtain ⟨rfl, rfl⟩ := Timed.ends_done.1 hn
    have hown : w₂.own id = w.own id := ha _ _ hs
    exact ⟨rfl, rfl, hown⟩
  rcases ends_bind.1 h with ⟨e, h, -⟩ | ⟨_, c₁, w₁, h, hf⟩
  · cases (hn _ _ _ h).1
  · obtain ⟨-, rfl, hown⟩ := hn _ _ _ h
    exact ⟨w₁, hown, hf⟩

/-- what a caller is told of a failure: that time ran out, or what the kind of statement makes of the cause -/
inductive Blamed (kind : NativeError → String → Error) (cause : NativeError) : Error → Prop
  | timeout (statement : String) (out : cause.errno = errnoTimeout) : Blamed kind cause (.timeout cause statement)
  | refusal (statement : String) (other : cause.errno ≠ errnoTimeout) : Blamed kind cause (kind cause statement)

/-- a failure that is told of is no abort -/
theorem Blamed.goesOn {kind : NativeError → String → Error} {cause : NativeError} {e : Error}
    (h : Blamed kind cause e) (hkind : ∀ statement, (kind cause statement).isAbort = false) : e.isAbort = false := by
  cases h with
  | timeout statement _ => rfl
  | refusal statement _ => exact hkind statement

theorem ends_failWith {α : Type} {kind : NativeError → String → Error} {cause : NativeError} {r : Except Error α}
    {id : Nat} (h : Ends others (failWith kind cause) c w r c' w') (ha : Apart others id) :
    (∃ e, r = .error e ∧ Blamed kind cause e) ∧ c' = c.recordFailure cause ∧ w'.own id = w.own id := by
  rw [failWith, ends_get_bind, ends_modify_bind] at h
  obtain ⟨w₁, hown, h⟩ := ends_notify_bind h ha
  split at h
  · next hout =>
    obtain ⟨rfl, rfl, rfl⟩ := ends_throw.1 h
    exact ⟨⟨_, rfl, .timeout _ hout⟩, rfl, hown⟩
  · next hother =>
    obtain ⟨rfl, rfl, rfl⟩ := ends_throw.1 h
    exact ⟨⟨_, rfl, .refusal _ hother⟩, rfl, hown⟩

/-- how the end of a statement is recorded -/
inductive Concluded (c : Connection) : Except NativeError Reply → Except Error Reply → Connection → Prop
  | failed (cause : NativeError) (e : Error) (blamed : Blamed .execute cause e) :
      Concluded c (.error cause) (.error e) (c.recordFailure cause)
  | answered (reply : Reply) : Concluded c (.ok reply) (.ok reply) (c.recordSuccess reply)

theorem Concluded.kept {x : Except NativeError Reply} {r : Except Error Reply} (h : Concluded c x r c') :
    c'.client = c.client ∧ c'.depth = c.depth ∧ c'.config = c.config := by
  cases h with
  | failed cause e _ =>
    have halike := Connection.alike_recordFailure c cause
    exact ⟨halike.client, halike.depth, halike.config⟩
  | answered reply =>
    have halike := Connection.alike_recordSuccess c reply
    exact ⟨halike.client, halike.depth, halike.config⟩

theorem ends_conclude {x : Except NativeError Reply} {r : Except Error Reply} {id : Nat}
    (h : Ends others (conclude x) c w r c' w') (ha : Apart others id) : Concluded c x r c' ∧ w'.own id = w.own id := by
  cases x with
  | error cause =>
    obtain ⟨⟨e, rfl, hb⟩, rfl, hown⟩ := ends_failWith h ha
    exact ⟨.failed cause e hb, hown⟩
  | ok reply =>
    rw [conclude, ends_modify_bind, ends_get_bind] at h
    obtain ⟨w₁, hown, h⟩ := ends_notify_bind h ha
    obtain ⟨rfl, rfl, rfl⟩ := ends_pure.1 h
    exact ⟨.answered reply, hown⟩

/-! ## Sessions -/

theorem ends_disconnect {r : Except Error Unit} (h : Ends others disconnect c w r c' w')
    (ha : Apart others c.client.id) :
    r = .ok () ∧ c' = { c with client := c.client.shut } ∧
      ∃ gone, (∀ e ∈ gone, e = .closed c.client.session) ∧ w'.own c.client.id = w.own c.client.id ++ gone := by
  rw [disconnect, ends_get_bind] at h
  unfold Client.shut
  dsimp only at h
  split at h
  · next hc =>
    obtain ⟨_, w₁, hm, h⟩ := ends_shared_bind.1 h
    obtain ⟨w₂, hs, hm⟩ := Timed.ends_act.1 hm
    obtain ⟨-, rfl⟩ := Timed.ends_done.1 hm
    obtain ⟨rfl, rfl, rfl⟩ := ends_modify.1 h
    refine ⟨rfl, by rw [if_pos hc], [.closed c.client.session], by simp, ?_⟩
    exact own_note (ha _ _ hs) rfl
  · next hc =>
    obtain ⟨rfl, rfl, rfl⟩ := ends_pure.1 h
    exact ⟨rfl, by rw [if_neg hc], [], by simp, by simp⟩

/-- the entries of connects that were refused -/
def Refusals (id : Nat) (entries : List Entry) : Prop := ∀ e ∈ entries, e = .refused id

/-- one try leaves the client as it was, or opens its next session -/
theorem own_opening {limit : Option Duration} {client client' : Client} {x : Except NativeError Unit}
    (h : Opening others limit client w x client' w') (ha : Apart others client.id) :
    ∃ refused, Refusals client.id refused ∧
      ((∃ cause, x = .error cause ∧ client' = client ∧ w'.own client.id = w.own client.id ++ refused) ∨
        x = .ok () ∧ client' = client.opened ∧
          w'.own client.id = w.own client.id ++ refused ++ [.opened client.opened.session]) := by
  cases h with
  | late d w₁ hs _ _ => exact ⟨[], by simp [Refusals], .inl ⟨_, rfl, rfl, by simp [ha _ _ hs]⟩⟩
  | refused n w₁ w₂ hs hs' _ =>
    refine ⟨[.refused client.id], by simp [Refusals], .inl ⟨_, rfl, rfl, ?_⟩⟩
    have hown : w₂.own client.id = w.own client.id := (ha _ _ hs').trans (ha _ _ hs)
    exact own_note hown rfl
  | opened w₁ w₂ hs hs' =>
    refine ⟨[], by simp [Refusals], .inr ⟨rfl, rfl, ?_⟩⟩
    have hown : w₂.own client.id = w.own client.id := (ha _ _ hs').trans (ha _ _ hs)
    rw [List.append_nil]
    exact own_note hown rfl

theorem ends_tryOpen {limit : Option Duration} {spare : Nat} {r : Except Error (Except NativeError Unit)}
    (h : Ends others (tryOpen limit spare) c w r c' w') (ha : Apart others c.client.id) :
    ∃ n refused, Refusals c.client.id refused ∧
      ((∃ cause, r = .ok (.error cause) ∧ c' = { c with retries := n } ∧
          (∃ w₁ w₂, Opening others limit c.client w₁ (.error cause) c.client w₂) ∧
          w'.own c.client.id = w.own c.client.id ++ refused) ∨
        r = .ok (.ok ()) ∧ c' = { c with client := c.client.opened, retries := n } ∧
          w'.own c.client.id = w.own c.client.id ++ refused ++ [.opened c.client.opened.session]) := by
  induction spare generalizing c w with
  | zero =>
    rw [tryOpen] at h
    obtain ⟨x, client, rfl, rfl, hc⟩ := ends_call h
    have ho := ends_opening hc
    obtain ⟨refused, hr, ⟨cause, rfl, rfl, hown⟩ | ⟨rfl, rfl, hown⟩⟩ := own_opening ho ha
    · exact ⟨c.retries, refused, hr, .inl ⟨cause, rfl, rfl, ⟨w, w', ho⟩, hown⟩⟩
    · exact ⟨c.retries, refused, hr, .inr ⟨rfl, rfl, hown⟩⟩
  | succ spare ih =>
    rw [tryOpen] at h
    obtain ⟨x, client, w₁, hc, h⟩ := ends_call_bind h
    have ho := ends_opening hc
    obtain ⟨refused, hr, ⟨cause, rfl, rfl, hown⟩ | ⟨rfl, rfl, hown⟩⟩ := own_opening ho ha
    · rw [ends_modify_bind] at h
      obtain ⟨n, more, hm, hend⟩ := ih h ha
      refine ⟨n, refused ++ more, fun e he => (List.mem_append.1 he).elim (hr e) (hm e), ?_⟩
      simpa only [hown, List.append_assoc] using hend
    · obtain ⟨rfl, rfl, rfl⟩ := ends_pure.1 h
      exact ⟨c.retries, refused, hr, .inr ⟨rfl, rfl, hown⟩⟩

/-- how a session is opened while a transaction at depth `lost` may be lost: nothing but refusals, or a session, which
is a failure all the same if there was such a transaction -/
inductive Opened (others : World → World → Prop) (lost : Nat) (c : Connection) (w : World) :
    Except Error Unit → Connection → World → Prop
  | failed (e : Error) (refused : List Entry) (c' : Connection) (w' : World) (refusals : Refusals c.client.id refused)
      (alike : Alike c c') (own : w'.own c.client.id = w.own c.client.id ++ refused)
      (cause : c.config.connectLimit = .error e ∨ ∃ limit cause w₁ w₂, c.config.connectLimit = .ok limit ∧
        Opening others limit c.client w₁ (.error cause) c.client w₂ ∧ e = .connect c.config.target cause) :
      Opened others lost c w (.error e) c' w'
  | opened (refused : List Entry) (c' : Connection) (w' : World) (refusals : Refusals c.client.id refused)
      (none : lost = 0) (alike : Alike { c with client := c.client.opened, needsReconnect := false } c')
      (own : w'.own c.client.id = w.own c.client.id ++ refused ++ [.opened c.client.opened.session]) :
      Opened others lost c w (.ok ()) c' w'
  | lost (refused : List Entry) (c' : Connection) (w' : World) (refusals : Refusals c.client.id refused)
      (some : 0 < lost)
      (alike : Alike { c with client := c.client.opened, needsReconnect := false, depth := 0 } c')
      (own : w'.own c.client.id = w.own c.client.id ++ refused ++ [.opened c.client.opened.session]) :
      Opened others lost c w (.error (.transactionLost lost)) c' w'

theorem ends_openSession {lost : Nat} {r : Except Error Unit} (h : Ends others (openSession lost) c w r c' w')
    (ha : Apart others c.client.id) : Opened others lost c w r c' w' := by
  rw [openSession, ends_get_bind] at h
  obtain ⟨e, he, rfl, rfl, rfl⟩ | ⟨limit, hl, h⟩ := ends_ofExcept_bind.1 h
  · exact .failed e [] _ _ (by simp [Refusals]) (.refl _) (by simp) (.inl he)
  rcases ends_bind.1 h with ⟨e, ht, -⟩ | ⟨x, c₁, w₁, ht, h⟩
  · obtain ⟨_, _, _, ⟨_, heq, -⟩ | ⟨heq, -⟩⟩ := ends_tryOpen ht ha <;> cases heq
  obtain ⟨n, refused, hr, ⟨cause, heq, rfl, ⟨w₂, w₃, ho⟩, hown⟩ | ⟨heq, rfl, hown⟩⟩ := ends_tryOpen ht ha
  · cases heq
    rw [ends_modify_bind] at h
    obtain ⟨rfl, rfl, rfl⟩ := ends_throw.1 h
    exact .failed _ refused _ _ hr ⟨rfl, rfl, rfl, rfl⟩ hown (.inr ⟨limit, cause, w₂, w₃, hl, ho, rfl⟩)
  · cases heq
    rw [ends_modify_bind] at h
    split at h
    · next hn =>
      rw [ends_modify_bind] at h
      obtain ⟨rfl, rfl, rfl⟩ := ends_throw.1 h
      exact .lost refused _ _ hr hn ⟨rfl, rfl, rfl, rfl⟩ hown
    · next hn =>
      obtain ⟨rfl, rfl, rfl⟩ := ends_pure.1 h
      exact .opened refused _ _ hr (by omega) ⟨rfl, rfl, rfl, rfl⟩ hown

/-- how a session is made sure of: it is there, it is opened for the first time, or it is opened again -/
inductive Connected (others : World → World → Prop) (c : Connection) (w : World) :
    Except Error Unit → Connection → World → Prop
  | live (sure : c.needsReconnect = false) (live : c.client.connected = true) : Connected others c w (.ok ()) c w
  | fresh (r : Except Error Unit) (c' : Connection) (w' : World) (sure : c.needsReconnect = false)
      (closed : c.client.connected = false) (opened : Opened others 0 c w r c' w') : Connected others c w r c' w'
  | again (gone : List Entry) (w₁ : World) (r : Except Error Unit) (c' : Connection) (w' : World)
      (doubtful : c.needsReconnect = true) (closed : ∀ e ∈ gone, e = .closed c.client.session)
      (own : w₁.own c.client.id = w.own c.client.id ++ gone)
      (opened : Opened others c.depth { c with client := c.client.shut } w₁ r c' w') : Connected others c w r c' w'

theorem ends_connect {r : Except Error Unit} (h : Ends others (connect false) c w r c' w')
    (ha : Apart others c.client.id) : Connected others c w r c' w' := by
  rw [connect, ends_get_bind] at h
  simp only [Bool.false_eq_true, ite_false] at h
  split_ifs at h with hn hc
  · rcases ends_bind.1 h with ⟨e, hd, -⟩ | ⟨_, c₁, w₁, hd, h⟩
    · cases (ends_disconnect hd ha).1
    obtain ⟨-, rfl, gone, hg, hown⟩ := ends_disconnect hd ha
    exact .again gone w₁ r c' w' hn hg hown (ends_openSession h (by rwa [id_shut]))
  · exact .fresh r c' w' (by simpa using hn) (by simpa using hc) (ends_openSession h ha)
  · obtain ⟨rfl, rfl, rfl⟩ := ends_pure.1 h
    exact .live (by simpa using hn) (by simpa using hc)

/-- a connect that succeeds leaves a live session -/
theorem Connected.ready (h : Connected others c w (.ok ()) c' w') :
    c'.needsReconnect = false ∧ c'.client.connected = true ∧ c'.depth = c.depth := by
  have hopened : ∀ {lost c₀ w₀}, Opened others lost c₀ w₀ (.ok ()) c' w' →
      c'.needsReconnect = false ∧ c'.client.connected = true ∧ c'.depth = c₀.depth := by
    intro lost c₀ w₀ h
    cases h with
    | opened refused _ _ _ _ alike _ => exact ⟨alike.needsReconnect, by rw [alike.client]; rfl, alike.depth⟩
  cases h with
  | live hs hl => exact ⟨hs, hl, rfl⟩
  | fresh _ _ _ _ _ h => exact hopened h
  | again _ _ _ _ _ _ _ _ h =>
    obtain ⟨hs, hl, hd⟩ := hopened h
    exact ⟨hs, hl, hd⟩

/-- a live session is left as it is -/
theorem Connected.of_live {r : Except Error Unit} (h : Connected others c w r c' w') (hs : c.needsReconnect = false)
    (hl : c.client.connected = true) : r = .ok () ∧ c' = c ∧ w' = w := by
  cases h with
  | live _ _ => exact ⟨rfl, rfl, rfl⟩
  | fresh _ _ _ _ hclosed _ => exact absurd (hclosed.symm.trans hl) (by decide)
  | again _ _ _ _ _ hdoubt _ _ _ => exact absurd (hdoubt.symm.trans hs) (by decide)

/-! ## Statements -/

/-- how the preparations for a statement end: without a session, without a limit, or with both -/
inductive Begun (others : World → World → Prop) (statement : Statement) (own : Option Duration) (c : Connection)
    (w : World) : Except Error (Option Duration) → Connection → World → Prop
  | unconnected (e : Error) (c' : Connection) (w' : World) (connected : Connected others c w (.error e) c' w') :
      Begun others statement own c w (.error e) c' w'
  | connected (c₁ : Connection) (w₁ : World) (connected : Connected others c w (.ok ()) c₁ w₁) :
      Begun others statement own c w (c₁.limit own) (c₁.beginStatement statement) w₁

/-- every statement begins like this -/
theorem ends_begin {β : Type} {statement : Statement} {own : Option Duration} {k : Option Duration → Op β}
    {r : Except Error β}
    (h : Ends others (beginning statement own k) c w r c' w') (ha : Apart others c.client.id) :
    (∃ e, Begun others statement own c w (.error e) c' w' ∧ r = .error e) ∨
      ∃ limit c₁ w₁, Begun others statement own c w (.ok limit) c₁ w₁ ∧ Ends others (k limit) c₁ w₁ r c' w' := by
  rcases ends_bind.1 h with ⟨e, hc, rfl⟩ | ⟨_, c₁, w₁, hc, h⟩
  · exact .inl ⟨e, .unconnected e _ _ (ends_connect hc ha), rfl⟩
  have hb : Begun others statement own c w (c₁.limit own) (c₁.beginStatement statement) w₁ :=
    .connected c₁ w₁ (ends_connect hc ha)
  rw [ends_modify_bind, ends_get_bind] at h
  obtain ⟨e, he, rfl, rfl, rfl⟩ | ⟨limit, hl, h⟩ := ends_ofExcept_bind.1 h
  · have he' : c₁.limit own = .error e := he
    exact .inl ⟨e, he' ▸ hb, rfl⟩
  · have hl' : c₁.limit own = .ok limit := hl
    exact .inr ⟨limit, _, w₁, hl' ▸ hb, h⟩

theorem ends_call_conclude {limit : Option Duration} {late : Duration → NativeError} {k : Call Reply}
    {r : Except Error Reply} {id : Nat}
    (h : Ends others (do conclude (← call limit late k)) c w r c' w') (ha : Apart others id) :
    ∃ x client w₁, Timed.Ends others ((k c.client).within limit fun d => (.error (late d), c.client)) w (x, client) w₁ ∧
      Concluded { c with client } x r c' ∧ w'.own id = w₁.own id := by
  obtain ⟨x, client, w₁, hx, h⟩ := ends_call_bind h
  obtain ⟨hc, hown⟩ := ends_conclude h ha
  exact ⟨x, client, w₁, hx, hc, hown⟩

/-- how the preparation of a statement is recorded -/
inductive Kept (c : Connection) (statement : Statement) :
    Except NativeError Nat → Except Error Prepared → Connection → Prop
  | failed (cause : NativeError) (e : Error) (blamed : Blamed .prepare cause e) :
      Kept c statement (.error cause) (.error e) (c.recordFailure cause)
  | prepared (handle : Nat) : Kept c statement (.ok handle) (.ok ⟨handle, statement⟩) c

theorem Kept.ok {statement : Statement} {x : Except NativeError Nat} {p : Prepared}
    (h : Kept c statement x (.ok p) c') : x = .ok p.handle ∧ p.statement = statement ∧ c' = c := by
  cases h with
  | prepared handle => exact ⟨rfl, rfl, rfl⟩

theorem ends_prepare {statement : Statement} {own : Option Duration} {r : Except Error Prepared}
    (h : Ends others (prepare statement own) c w r c' w') (ha : Apart others c.client.id) :
    (∃ e, Begun others statement own c w (.error e) c' w' ∧ r = .error e) ∨
      ∃ limit c₁ w₁ x client w₂, Begun others statement own c w (.ok limit) c₁ w₁ ∧
        Preparing others limit c₁.client statement.text w₁ x client w₂ ∧
        Kept { c₁ with client } statement x r c' ∧ w'.own c.client.id = w₂.own c.client.id := by
  obtain hb | ⟨limit, c₁, w₁, hb, h⟩ := ends_begin h ha
  · exact .inl hb
  obtain ⟨x, client, w₂, hx, h⟩ := ends_call_bind h
  refine .inr ⟨limit, c₁, w₁, x, client, w₂, hb, ends_preparing hx, ?_⟩
  cases x with
  | error cause =>
    obtain ⟨⟨e, rfl, hb⟩, rfl, hown⟩ := ends_failWith h ha
    exact ⟨.failed cause e hb, hown⟩
  | ok handle =>
    obtain ⟨rfl, rfl, rfl⟩ := ends_pure.1 h
    exact ⟨.prepared handle, rfl⟩

theorem ends_executePrepared {p : Prepared} {own : Option Duration} {r : Except Error Reply}
    (h : Ends others (executePrepared p own) c w r c' w') (ha : Apart others c.client.id) :
    (∃ e, Begun others p.statement own c w (.error e) c' w' ∧ r = .error e) ∨
      ∃ limit c₁ w₁ x client w₂, Begun others p.statement own c w (.ok limit) c₁ w₁ ∧
        Executing others limit c₁.client p.handle p.statement.binds w₁ x client w₂ ∧
        Concluded { c₁ with client } x r c' ∧ w'.own c.client.id = w₂.own c.client.id := by
  obtain hb | ⟨limit, c₁, w₁, hb, h⟩ := ends_begin h ha
  · exact .inl hb
  obtain ⟨x, client, w₂, hx, hc, hown⟩ := ends_call_conclude h ha
  exact .inr ⟨limit, c₁, w₁, x, client, w₂, hb, ends_executing hx, hc, hown⟩

theorem ends_query {text : String} {own : Option Duration} {r : Except Error RowSet}
    (h : Ends others (query text own) c w r c' w') (ha : Apart others c.client.id) :
    (∃ e, Begun others (.ofText text) own c w (.error e) c' w' ∧ r = .error e) ∨
      ∃ limit c₁ w₁ x client w₂ reply, Begun others (.ofText text) own c w (.ok limit) c₁ w₁ ∧
        Querying others limit c₁.client text w₁ x client w₂ ∧ Concluded { c₁ with client } x reply c' ∧
        w'.own c.client.id = w₂.own c.client.id ∧ r = reply.map Reply.rows := by
  obtain hb | ⟨limit, c₁, w₁, hb, h⟩ := ends_begin h ha
  · exact .inl hb
  obtain ⟨x, client, w₂, hx, h⟩ := ends_call_bind h
  refine .inr ⟨limit, c₁, w₁, x, client, w₂, ?_⟩
  rcases ends_bind.1 h with ⟨e, hc, rfl⟩ | ⟨reply, c₂, w₃, hc, h⟩
  · obtain ⟨hr, hown⟩ := ends_conclude hc ha
    exact ⟨.error e, hb, ends_querying hx, hr, hown, rfl⟩
  · obtain ⟨hr, hown⟩ := ends_conclude hc ha
    obtain ⟨rfl, rfl, rfl⟩ := ends_pure.1 h
    exact ⟨.ok reply, hb, ends_querying hx, hr, hown, rfl⟩

theorem ends_execute {statement : Statement} {own : Option Duration} {r : Except Error Reply}
    (h : Ends others (execute statement own) c w r c' w') (ha : Apart others c.client.id) :
    (∃ e, c.limit own = .error e ∧ r = .error e ∧ c' = c ∧ w' = w) ∨
      (∃ e, Ends others (prepare statement own) c w (.error e) c' w' ∧ r = .error e) ∨
      ∃ limit p c₁ w₁ x client w₂, c.limit own = .ok limit ∧ Ends others (prepare statement own) c w (.ok p) c₁ w₁ ∧
        Executing others limit c₁.client p.handle statement.binds w₁ x client w₂ ∧
        Concluded { c₁ with client } x r c' ∧ w'.own c.client.id = w₂.own c.client.id := by
  rw [execute, ends_get_bind] at h
  obtain ⟨e, he, rfl, rfl, rfl⟩ | ⟨limit, hl, h⟩ := ends_ofExcept_bind.1 h
  · exact .inl ⟨e, he, rfl, rfl, rfl⟩
  rcases ends_bind.1 h with ⟨e, hp, rfl⟩ | ⟨p, c₁, w₁, hp, h⟩
  · exact .inr (.inl ⟨e, hp, rfl⟩)
  obtain ⟨x, client, w₂, hx, hc, hown⟩ := ends_call_conclude h ha
  exact .inr (.inr ⟨limit, p, c₁, w₁, x, client, w₂, hl, hp, ends_executing hx, hc, hown⟩)

theorem ends_fetchTotalCount {r : Except Error Unit} (h : Ends others fetchTotalCount c w r c' w')
    (ha : Apart others c.client.id) :
    (∃ e, c.config.executeLimit = .error e ∧ r = .error e ∧ c' = c ∧ w' = w) ∨
      ∃ limit x client w₁, c.config.executeLimit = .ok limit ∧
        Querying others limit c.client foundRowsText w x client w₁ ∧ w'.own c.client.id = w₁.own c.client.id ∧
        ((∃ cause e, x = .error cause ∧ r = .error e ∧ Blamed .execute cause e ∧
            c' = { c with client }.recordFailure cause) ∨
          ∃ reply count, x = .ok reply ∧ r = .ok () ∧ c' = { c with client, totalCount := count }) := by
  rw [fetchTotalCount, ends_get_bind] at h
  obtain ⟨e, he, rfl, rfl, rfl⟩ | ⟨limit, hl, h⟩ := ends_ofExcept_bind.1 h
  · exact .inl ⟨e, he, rfl, rfl, rfl⟩
  obtain ⟨x, client, w₁, hx, h⟩ := ends_call_bind h
  refine .inr ⟨limit, x, client, w₁, hl, ends_querying hx, ?_⟩
  cases x with
  | error cause =>
    obtain ⟨⟨e, rfl, hb⟩, rfl, hown⟩ := ends_failWith h ha
    exact ⟨hown, .inl ⟨cause, e, rfl, rfl, hb, rfl⟩⟩
  | ok reply =>
    obtain ⟨rfl, rfl, rfl⟩ := ends_modify.1 h
    exact ⟨rfl, .inr ⟨reply, _, rfl, rfl, rfl⟩⟩

end Op

end SqlSession
