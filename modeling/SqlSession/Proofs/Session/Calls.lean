/-
How the calls of a client can end.

Each call waits once, and nothing that it does behind the wait takes time. So a limit either ends the call during that
wait or does not matter. There is one inductive description for each call, whose cases hold what the server was like
when it decided:
- `Opening`: a session, from `ends_opening`;
- `Preparing`: a prepared statement, from `ends_preparing`;
- `Executing`, `Querying`: a statement that was run, from `ends_executing` and `ends_querying`.
-/
import SqlSession.Proofs.Session.Ends
import SqlSession.Session.Execute

namespace SqlSession

namespace Timed

variable {σ α : Type} {others : σ → σ → Prop}

/-- the program never waits -/
def Prompt : Timed σ α → Prop
  | done _ => True
  | act _ rest => ∀ s, (rest s).Prompt
  | wait _ _ => False

theorem withinTicks_prompt {t : Timed σ α} (h : t.Prompt) (late : α) (left : Nat) : withinTicks late left t = t := by
  induction t with
  | done x => rfl
  | act change rest ih =>
    rw [withinTicks]
    congr 1
    funext s
    exact ih s (h s)
  | wait millis rest ih => exact h.elim

theorem within_act (limit : Option Duration) (late : Duration → α) (change : σ → σ) (rest : σ → Timed σ α) :
    (act change rest).within limit late = act change fun s => (rest s).within limit late := by
  cases limit <;> rfl

/-- under a limit, a wait with nothing but changes behind it is either longer than the limit or not affected -/
theorem ends_within_wait {limit : Option Duration} {late : Duration → α} {millis : Nat} {rest : Timed σ α}
    {s s' : σ} {x : α} (h : Ends others ((wait millis rest).within limit late) s x s') (hp : rest.Prompt) :
    (∃ d, limit = some d ∧ d.ticks < millis ∧ x = late d ∧ s = s') ∨ Ends others rest s x s' := by
  cases limit with
  | none => exact .inr (ends_wait.1 h)
  | some d =>
    simp only [within, withinTicks] at h
    split_ifs at h with hm
    · rw [withinTicks_prompt hp] at h
      exact .inr (ends_wait.1 h)
    · obtain ⟨rfl, rfl⟩ := ends_done.1 (ends_wait.1 h)
      exact .inl ⟨d, rfl, by omega, rfl, rfl⟩

end Timed

namespace Client

/-- the client with one more session, which is open -/
def opened (client : Client) : Client :=
  { client with openings := client.openings + 1, connected := true }

/-- the client behind a failure: a report of loss ends its session -/
def told (client : Client) (cause : NativeError) : Client :=
  if isLossText cause.message then { client with connected := false } else client

end Client

/-- the world with one more entry in the ledger -/
def World.note (entry : Entry) (w : World) : World :=
  w.arrange fun s => s.note entry

/-! ## Calls as programs -/

namespace Call

open Timed

variable {α β : Type}

theorem get_bind (k : Client → Call α) (client : Client) : (get >>= k) client = k client client := rfl

theorem pause_bind (delay : Delays → Nat) (k : Unit → Call α) (client : Client) :
    (pause delay >>= k) client = act id fun w => wait (delay w.server.delays) (k () client) := rfl

theorem tell_bind (f : Server → α × Server) (k : α → Call β) (client : Client) :
    (tell f >>= k) client = act (fun w => (World.onServer f w).2) fun w => k (f w.server).1 client := rfl

theorem openSession_eq (client : Client) :
    openSession client = act id fun w => wait w.server.delays.connect
      (act (fun w => (World.onServer (Server.accept client.opened.session) w).2) fun w =>
        done (match (Server.accept client.opened.session w.server).1 with
          | some cause => (.error cause, client)
          | none => (.ok (), client.opened))) := by
  have hnext : (⟨client.id, client.openings + 1⟩ : SessionId) = client.opened.session := rfl
  rw [openSession, pause_bind, get_bind, get_bind, tell_bind, hnext]
  congr 1
  funext w
  congr 2
  funext w
  cases (Server.accept client.opened.session w.server).1 <;> rfl

theorem prepare_eq (text : String) (limit : Option Duration) (client : Client) :
    prepare text limit client = act id fun w => wait w.server.delays.prepare
      (act (World.note (.received client.session (.prepare text) limit)) fun _ =>
        act (fun w => (World.onServer (Server.endPrepare client.session text) w).2) fun w =>
          done (match (Server.endPrepare client.session text w.server).1 with
            | some cause => (.error cause, client)
            | none => (.ok client.nextHandle, client.withPrepared text))) := by
  rw [prepare, pause_bind, get_bind, tell_bind, tell_bind]
  congr 1
  funext w
  congr 2
  funext w
  congr 1
  funext w
  cases (Server.endPrepare client.session text w.server).1 <;> rfl

theorem finish_eq (request : Request) (text : String) (client : Client) :
    finish request text client =
      act (fun w => (World.onServer (Server.endRun client.session request text) w).2) fun w =>
        done (match (Server.endRun client.session request text w.server).1 with
          | .error cause => (.error cause, client.told cause)
          | .ok reply => (.ok reply, client)) := by
  rw [finish, get_bind, tell_bind]
  congr 1
  funext w
  cases (Server.endRun client.session request text w.server).1 with
  | ok reply => rfl
  | error cause =>
    unfold Client.told
    by_cases h : isLossText cause.message
    · simp only [h, ite_true]
      rfl
    · simp only [h]
      rfl

theorem execute_eq {handle : Nat} {text : String} (binds : List Datum) (limit : Option Duration) {client : Client}
    (h : client.prepared.lookup handle = some text) :
    execute handle binds limit client =
      act (World.note (.received client.session (.execute ⟨text, binds⟩) limit)) fun _ => act id fun w =>
        wait w.server.delays.execute (finish (.execute ⟨text, binds⟩) text client) := by
  rw [execute, get_bind, h]
  rfl

theorem execute_eq_none {handle : Nat} (binds : List Datum) (limit : Option Duration) {client : Client}
    (h : client.prepared.lookup handle = none) :
    execute handle binds limit client = done (.error unknownHandle, client) := by
  rw [execute, get_bind, h]
  rfl

theorem query_eq (text : String) (limit : Option Duration) (client : Client) :
    query text limit client = act id fun w => wait w.server.delays.query
      (act (World.note (.received client.session (.query text) limit)) fun _ => finish (.query text) text client) :=
  rfl

theorem prompt_finish (request : Request) (text : String) (client : Client) : (finish request text client).Prompt := by
  rw [finish_eq]
  exact fun _ => trivial

end Call

/-! ## How they end -/

section

variable (others : World → World → Prop) (limit : Option Duration) (client : Client)

/-- the ways to open a session under a limit -/
inductive Opening (w : World) : Except NativeError Unit → Client → World → Prop
  | late (d : Duration) (w₁ : World) (shared : others w w₁) (limited : limit = some d)
      (slow : d.ticks < w₁.server.delays.connect) : Opening w (.error (Op.connectLate d)) client w₁
  | refused (n : Nat) (w₁ w₂ : World) (shared : others w w₁) (shared' : others w₁ w₂)
      (refusals : w₂.server.refusals = n + 1) :
      Opening w (.error Server.refusal) client
        ((w₂.arrange fun s => { s with refusals := n }).note (.refused client.id))
  | opened (w₁ w₂ : World) (shared : others w w₁) (shared' : others w₁ w₂) :
      Opening w (.ok ()) client.opened (w₂.note (.opened client.opened.session))

/-- the ways to prepare a statement under a limit -/
inductive Preparing (text : String) (w : World) : Except NativeError Nat → Client → World → Prop
  | late (d : Duration) (w₁ : World) (shared : others w w₁) (limited : limit = some d)
      (slow : d.ticks < w₁.server.delays.prepare) : Preparing text w (.error (Op.statementLate d)) client w₁
  | failed (cause : NativeError) (rest : List NativeError) (w₁ w₂ w₃ : World) (shared : others w w₁)
      (shared' : others w₁ w₂) (shared'' : others (w₂.note (.received client.session (.prepare text) limit)) w₃)
      (failures : w₃.server.prepareFailures = cause :: rest) :
      Preparing text w (.error cause) client
        ((w₃.arrange fun s => { s with prepareFailures := rest }).note (.failed client.session (.prepare text) cause))
  | prepared (w₁ w₂ w₃ : World) (shared : others w w₁) (shared' : others w₁ w₂)
      (shared'' : others (w₂.note (.received client.session (.prepare text) limit)) w₃) :
      Preparing text w (.ok client.nextHandle) (client.withPrepared text)
        (w₃.note (.succeeded client.session (.prepare text)))

/-- the ways in which a statement that the server has received can end -/
inductive Answering (request : Request) (w : World) : Except NativeError Reply → Client → World → Prop
  | failed (cause : NativeError) (rest : List NativeError) (w₁ : World) (shared : others w w₁)
      (failures : w₁.server.runFailures = cause :: rest) :
      Answering request w (.error cause) (client.told cause)
        ((w₁.arrange fun s => { s with runFailures := rest }).note (.failed client.session request cause))
  | answered (reply : Reply) (w₁ : World) (shared : others w w₁) :
      Answering request w (.ok reply) client (w₁.note (.succeeded client.session request))

/-- the ways to run a prepared statement under a limit -/
inductive Executing (handle : Nat) (binds : List Datum) (w : World) :
    Except NativeError Reply → Client → World → Prop
  | unknown (unknown : client.prepared.lookup handle = none) :
      Executing handle binds w (.error Call.unknownHandle) client w
  | late (d : Duration) (text : String) (w₁ w₂ : World) (known : client.prepared.lookup handle = some text)
      (shared : others w w₁)
      (shared' : others (w₁.note (.received client.session (.execute ⟨text, binds⟩) limit)) w₂)
      (limited : limit = some d) (slow : d.ticks < w₂.server.delays.execute) :
      Executing handle binds w (.error (Op.statementLate d)) client w₂
  | run (text : String) (w₁ w₂ w' : World) (x : Except NativeError Reply) (client' : Client)
      (known : client.prepared.lookup handle = some text) (shared : others w w₁)
      (shared' : others (w₁.note (.received client.session (.execute ⟨text, binds⟩) limit)) w₂)
      (answer : Answering others client (.execute ⟨text, binds⟩) w₂ x client' w') :
      Executing handle binds w x client' w'

/-- the ways to run a statement without preparing it under a limit -/
inductive Querying (text : String) (w : World) : Except NativeError Reply → Client → World → Prop
  | late (d : Duration) (w₁ : World) (shared : others w w₁) (limited : limit = some d)
      (slow : d.ticks < w₁.server.delays.query) : Querying text w (.error (Op.statementLate d)) client w₁
  | run (w₁ w₂ w' : World) (x : Except NativeError Reply) (client' : Client) (shared : others w w₁)
      (shared' : others w₁ w₂)
      (answer : Answering others client (.query text) (w₂.note (.received client.session (.query text) limit)) x client'
        w') :
      Querying text w x client' w'

end

section

variable {others : World → World → Prop} {limit : Option Duration} {client client' : Client} {w w' : World}

theorem ends_answering {request : Request} {text : String} {x : Except NativeError Reply}
    (h : Timed.Ends others (Call.finish request text client) w (x, client') w') :
    Answering others client request w x client' w' := by
  rw [Call.finish_eq] at h
  obtain ⟨w₁, hs, h⟩ := Timed.ends_act.1 h
  obtain ⟨heq, rfl⟩ := Timed.ends_done.1 h
  unfold World.onServer Server.endRun at *
  cases hf : w₁.server.runFailures with
  | nil =>
    simp only [hf] at heq ⊢
    obtain ⟨rfl, rfl⟩ := Prod.mk.inj heq
    exact .answered _ w₁ hs
  | cons cause rest =>
    simp only [hf] at heq ⊢
    obtain ⟨rfl, rfl⟩ := Prod.mk.inj heq
    exact .failed cause rest w₁ hs hf

theorem ends_opening {x : Except NativeError Unit}
    (h : Timed.Ends others ((Call.openSession client).within limit fun d => (.error (Op.connectLate d), client))
      w (x, client') w') :
    Opening others limit client w x client' w' := by
  rw [Call.openSession_eq, Timed.within_act] at h
  obtain ⟨w₁, hs, h⟩ := Timed.ends_act.1 h
  rcases Timed.ends_within_wait h (fun _ => trivial) with ⟨d, hd, hlate, heq, rfl⟩ | h
  · obtain ⟨rfl, rfl⟩ := Prod.mk.inj heq
    exact .late d w₁ hs hd hlate
  · obtain ⟨w₂, hs', h⟩ := Timed.ends_act.1 h
    obtain ⟨heq, rfl⟩ := Timed.ends_done.1 h
    unfold World.onServer Server.accept at *
    cases hr : w₂.server.refusals with
    | zero =>
      simp only [hr] at heq ⊢
      obtain ⟨rfl, rfl⟩ := Prod.mk.inj heq
      exact .opened w₁ w₂ hs hs'
    | succ n =>
      simp only [hr] at heq ⊢
      obtain ⟨rfl, rfl⟩ := Prod.mk.inj heq
      exact .refused n w₁ w₂ hs hs' hr

theorem ends_preparing {text : String} {x : Except NativeError Nat}
    (h : Timed.Ends others
      ((Call.prepare text limit client).within limit fun d => (.error (Op.statementLate d), client)) w (x, client') w') :
    Preparing others limit client text w x client' w' := by
  rw [Call.prepare_eq, Timed.within_act] at h
  obtain ⟨w₁, hs, h⟩ := Timed.ends_act.1 h
  rcases Timed.ends_within_wait h (fun _ _ => trivial) with ⟨d, hd, hlate, heq, rfl⟩ | h
  · obtain ⟨rfl, rfl⟩ := Prod.mk.inj heq
    exact .late d w₁ hs hd hlate
  · obtain ⟨w₂, hs', h⟩ := Timed.ends_act.1 h
    obtain ⟨w₃, hs'', h⟩ := Timed.ends_act.1 h
    obtain ⟨heq, rfl⟩ := Timed.ends_done.1 h
    unfold World.onServer Server.endPrepare at *
    cases hf : w₃.server.prepareFailures with
    | nil =>
      simp only [hf] at heq ⊢
      obtain ⟨rfl, rfl⟩ := Prod.mk.inj heq
      exact .prepared w₁ w₂ w₃ hs hs' hs''
    | cons cause rest =>
      simp only [hf] at heq ⊢
      obtain ⟨rfl, rfl⟩ := Prod.mk.inj heq
      exact .failed cause rest w₁ w₂ w₃ hs hs' hs'' hf

theorem ends_executing {handle : Nat} {binds : List Datum} {x : Except NativeError Reply}
    (h : Timed.Ends others
      ((Call.execute handle binds limit client).within limit fun d => (.error (Op.statementLate d), client))
      w (x, client') w') :
    Executing others limit client handle binds w x client' w' := by
  cases hl : client.prepared.lookup handle with
  | none =>
    rw [Call.execute_eq_none binds limit hl] at h
    have hd : Timed.Ends others (.done (.error Call.unknownHandle, client)) w (x, client') w' := by
      cases limit <;> exact h
    obtain ⟨heq, rfl⟩ := Timed.ends_done.1 hd
    obtain ⟨rfl, rfl⟩ := Prod.mk.inj heq
    exact .unknown hl
  | some text =>
    rw [Call.execute_eq binds limit hl, Timed.within_act] at h
    obtain ⟨w₁, hs, h⟩ := Timed.ends_act.1 h
    rw [Timed.within_act] at h
    obtain ⟨w₂, hs', h⟩ := Timed.ends_act.1 h
    rcases Timed.ends_within_wait h (Call.prompt_finish _ _ _) with ⟨d, hd, hlate, heq, rfl⟩ | h
    · obtain ⟨rfl, rfl⟩ := Prod.mk.inj heq
      exact .late d text w₁ w₂ hl hs hs' hd hlate
    · exact .run text w₁ w₂ w' x client' hl hs hs' (ends_answering h)

theorem ends_querying {text : String} {x : Except NativeError Reply}
    (h : Timed.Ends others ((Call.query text limit client).within limit fun d => (.error (Op.statementLate d), client))
      w (x, client') w') :
    Querying others limit client text w x client' w' := by
  rw [Call.query_eq, Timed.within_act] at h
  obtain ⟨w₁, hs, h⟩ := Timed.ends_act.1 h
  rcases Timed.ends_within_wait h (fun _ => Call.prompt_finish _ _ _) with ⟨d, hd, hlate, heq, rfl⟩ | h
  · obtain ⟨rfl, rfl⟩ := Prod.mk.inj heq
    exact .late d w₁ hs hd hlate
  · obtain ⟨w₂, hs', h⟩ := Timed.ends_act.1 h
    exact .run w₁ w₂ w' x client' hs hs' (ends_answering h)

end

namespace Op

variable {α β : Type} {others : World → World → Prop} {limit : Option Duration} {late : Duration → NativeError}
  {call : Call α} {c c' : Connection} {w w' : World}

/-- a call leaves everything of the connection but its client as it was -/
theorem ends_call {r : Except Error (Except NativeError α)} (h : Ends others (Op.call limit late call) c w r c' w') :
    ∃ x client, r = .ok x ∧ c' = { c with client } ∧
      Timed.Ends others ((call c.client).within limit fun d => (.error (late d), c.client)) w (x, client) w' := by
  obtain ⟨⟨x, client⟩, w₁, hx, h⟩ := Timed.ends_bind.1 h
  obtain ⟨heq, rfl⟩ := Timed.ends_done.1 h
  obtain ⟨rfl, rfl⟩ := Prod.mk.inj heq
  exact ⟨x, client, rfl, rfl, hx⟩

theorem ends_call_bind {f : Except NativeError α → Op β} {r : Except Error β}
    (h : Ends others (Op.call limit late call >>= f) c w r c' w') :
    ∃ x client w₁,
      Timed.Ends others ((call c.client).within limit fun d => (.error (late d), c.client)) w (x, client) w₁ ∧
        Ends others (f x) { c with client } w₁ r c' w' := by
  rcases ends_bind.1 h with ⟨e, hc, -⟩ | ⟨x, c₁, w₁, hc, h⟩
  · obtain ⟨_, _, heq, -⟩ := ends_call hc
    cases heq
  · obtain ⟨x, client, heq, rfl, hc⟩ := ends_call hc
    cases heq
    exact ⟨x, client, w₁, hc, h⟩

end Op

end SqlSession
