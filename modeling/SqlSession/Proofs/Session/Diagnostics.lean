/-
What a connection tells of the call that ended last.

A `Task` is a call that prepares or runs one statement. What went wrong in it is on record behind it, and nothing behind
a success. The statement on record is its own from the moment on when its session is sure.
- `assures_connect`: a session that cannot be made sure of leaves the statement before on record;
- `assures_failWith`, `assures_conclude`: a failure goes on record, and is told of, under the statement there;
- `assures_task`: the record behind every end of a task;
- `diagnosed_calls`: what is told behind it.
So the failure of a connect, or the loss of a transaction, is told of with the statement of an earlier call
(`diagnosed_calls_refused`).
-/
import SqlSession.Proofs.Session.Isolation

namespace SqlSession

/-- what is put on record of an error: what the other side reported, else its own text -/
def Error.native (e : Error) : NativeError := e.cause?.getD ⟨0, e.message⟩

/-- how a failure is told of: not at all without code and text, else with its text trimmed -/
def NativeError.shown (cause : NativeError) (statement : String) : Option String :=
  if cause.errno = 0 ∧ cause.message.isEmpty then none
  else some (NativeError.text ⟨cause.errno, Text.trimmed cause.message⟩ ++ " with statement -> " ++ statement)

theorem Error.unnamed_of_isUnconnected {e : Error} (h : e.isUnconnected = true) : e.statement? = none := by
  cases e with
  | connect target cause => rfl
  | transactionLost depth => rfl
  | _ => cases h

namespace Connection

/-- the failure on record; zero and empty if there is none -/
def fault (c : Connection) : NativeError := ⟨c.lastErrno, c.lastError⟩

theorem failure?_fault (c : Connection) : c.failure? = c.fault.shown c.lastQuery := rfl

theorem fault_beginStatement (c : Connection) (statement : Statement) :
    (c.beginStatement statement).fault = ⟨0, ""⟩ := rfl

theorem fault_recordSuccess (c : Connection) (reply : Reply) : (c.recordSuccess reply).fault = c.fault := rfl

theorem fault_recordFailure (c : Connection) (cause : NativeError) : (c.recordFailure cause).fault = cause := rfl

end Connection

/-! ## Sessions -/

/-- what is on record behind an attempt to make sure of a session -/
inductive Served (c : Connection) : Except Error Unit → Connection → Prop
  | sure (c' : Connection) : Served c (.ok ()) c'
  | unserved (e : Error) (c' : Connection) (unconnected : e.isUnconnected = true) (fault : c'.fault = e.native)
      (last : c'.last = c.last) : Served c (.error e) c'
  | overflow (c' : Connection) : Served c (.error .secondsOverflow) c'

theorem Served.of_last {c c₁ c' : Connection} {r : Except Error Unit} (h : Served c₁ r c') (hlast : c₁.last = c.last) :
    Served c r c' := by
  cases h with
  | sure _ => exact .sure c'
  | unserved e _ unconnected fault last => exact .unserved e c' unconnected fault (last.trans hlast)
  | overflow _ => exact .overflow c'

namespace Op

variable {α : Type}

/-- tries to open a session are no failure of the operation, and leave the statement on record alone -/
theorem assures_tryOpen (limit : Option Duration) (spare : Nat) (c : Connection) :
    (tryOpen limit spare).Assures c fun r c' => (∃ x, r = .ok x) ∧ c'.last = c.last := by
  induction spare generalizing c with
  | zero => exact assures_call fun x _ => ⟨⟨x, rfl⟩, rfl⟩
  | succ spare ih =>
    refine assures_bind.2 (assures_call fun x client => ?_)
    cases x with
    | ok _ => exact assures_pure.2 ⟨⟨_, rfl⟩, rfl⟩
    | error cause => exact assures_modify_bind.2 (ih _)

theorem assures_openSession (lost : Nat) (c : Connection) : (openSession lost).Assures c (Served c) := by
  refine assures_get_bind.2 (assures_bind.2 (assures_ofExcept.2 ?_))
  cases hl : c.config.connectLimit with
  | error e =>
    obtain rfl := span_error hl
    exact .overflow c
  | ok limit =>
    refine assures_bind.2 ((assures_tryOpen limit _ c).mono ?_)
    rintro _ c₁ ⟨⟨x, rfl⟩, hlast⟩
    cases x with
    | error cause =>
      refine assures_modify_bind.2 (assures_throw.2 ?_)
      exact .unserved _ _ rfl (Connection.fault_recordFailure c₁ cause) hlast
    | ok _ =>
      refine assures_modify_bind.2 ?_
      split
      · refine assures_modify_bind.2 (assures_throw.2 ?_)
        exact .unserved _ _ rfl rfl hlast
      · exact assures_pure.2 (.sure _)

theorem assures_disconnect (c : Connection) :
    disconnect.Assures c fun r c' => r = .ok () ∧ c'.last = c.last := by
  refine assures_get_bind.2 ?_
  dsimp only
  split
  · exact assures_bind.2 (assures_shared fun _ => assures_modify.2 ⟨rfl, rfl⟩)
  · exact assures_pure.2 ⟨rfl, rfl⟩

/-- **Sessions.** One that cannot be made sure of leaves its failure on record, and the statement that was there. -/
theorem assures_connect (force : Bool) (c : Connection) : (connect force).Assures c (Served c) := by
  refine assures_get_bind.2 ?_
  split_ifs
  · refine assures_bind.2 ((assures_disconnect c).mono ?_)
    rintro _ c₁ ⟨rfl, hlast⟩
    exact assures_modify_bind.2 ((assures_openSession 0 _).mono fun _ _ h => h.of_last hlast)
  · refine assures_bind.2 ((assures_disconnect c).mono ?_)
    rintro _ c₁ ⟨rfl, hlast⟩
    exact (assures_openSession c.depth c₁).mono fun _ _ h => h.of_last hlast
  · exact assures_openSession 0 c
  · exact assures_pure.2 (.sure c)

/-! ## Statements -/

/-- failures of this kind carry their cause and the statement -/
structure Carries (kind : NativeError → String → Error) : Prop where
  cause : ∀ cause statement, (kind cause statement).cause? = some cause
  statement : ∀ cause statement, (kind cause statement).statement? = some statement

theorem carries_prepare : Carries Error.prepare := ⟨fun _ _ => rfl, fun _ _ => rfl⟩

theorem carries_execute : Carries Error.execute := ⟨fun _ _ => rfl, fun _ _ => rfl⟩

theorem carries_timeout : Carries Error.timeout := ⟨fun _ _ => rfl, fun _ _ => rfl⟩

/-- what is on record behind a statement that has begun -/
inductive Recorded (c : Connection) : Except Error α → Connection → Prop
  | succeeded (x : α) (c' : Connection) (fault : c'.fault = c.fault) (last : c'.last = c.last) : Recorded c (.ok x) c'
  | failed (e : Error) (c' : Connection) (fault : c'.fault = e.native) (last : c'.last = c.last)
      (named : e.statement? = some c.lastQuery) : Recorded c (.error e) c'

theorem recorded_failure {kind : NativeError → String → Error} (h : Carries kind) (cause : NativeError)
    (c : Connection) : Recorded c (.error (kind cause c.lastQuery) : Except Error α) (c.recordFailure cause) := by
  refine .failed _ _ ?_ rfl (h.statement _ _)
  rw [Connection.fault_recordFailure, Error.native, h.cause]
  rfl

theorem assures_notify_bind {heard : Heard} {k : Unit → Op α} {c : Connection}
    {Q : Except Error α → Connection → Prop} (h : (k ()).Assures c Q) : (notify heard >>= k).Assures c Q :=
  assures_bind.2 (assures_get_bind.2 (assures_shared fun _ => h))

theorem assures_failWith {kind : NativeError → String → Error} (h : Carries kind) (cause : NativeError)
    (c : Connection) : (failWith kind cause : Op α).Assures c (Recorded c) := by
  refine assures_get_bind.2 (assures_modify_bind.2 (assures_notify_bind ?_))
  split
  · exact assures_throw.2 (recorded_failure carries_timeout cause c)
  · exact assures_throw.2 (recorded_failure h cause c)

theorem assures_conclude (outcome : Except NativeError Reply) (c : Connection) :
    (conclude outcome).Assures c (Recorded c) := by
  cases outcome with
  | error cause => exact assures_failWith carries_execute cause c
  | ok reply =>
    refine assures_modify_bind.2 (assures_get_bind.2 (assures_notify_bind ?_))
    exact assures_pure.2 (.succeeded reply _ (Connection.fault_recordSuccess c reply) rfl)

end Op

/-! ## Tasks -/

/-- a call that prepares or runs one statement -/
inductive Task where
  | prepare (statement : Statement)
  | execute (statement : Statement)
  | executePrepared (p : Prepared)
  | query (text : String)

namespace Task

def Value : Task → Type
  | prepare _ => Prepared
  | execute _ => Reply
  | executePrepared _ => Reply
  | query _ => RowSet

def statement : Task → Statement
  | prepare s => s
  | execute s => s
  | executePrepared p => p.statement
  | query text => .ofText text

/-- the call with its own limit, if it has one -/
def op (own : Option Duration) : (task : Task) → Op task.Value
  | prepare s => Op.prepare s own
  | execute s => Op.execute s own
  | executePrepared p => Op.executePrepared p own
  | query text => Op.query text own

end Task

/-- what is on record behind a call for a statement -/
inductive Diagnosed {α : Type} (c : Connection) (statement : Statement) : Except Error α → Connection → Prop
  | succeeded (x : α) (c' : Connection) (fault : c'.fault = ⟨0, ""⟩) (last : c'.last = statement) :
      Diagnosed c statement (.ok x) c'
  | failed (e : Error) (c' : Connection) (fault : c'.fault = e.native) (last : c'.last = statement)
      (named : e.statement? = some statement.filled) : Diagnosed c statement (.error e) c'
  | unserved (e : Error) (c' : Connection) (unconnected : e.isUnconnected = true) (fault : c'.fault = e.native)
      (last : c'.last = c.last) : Diagnosed c statement (.error e) c'
  | overflow (c' : Connection) : Diagnosed c statement (.error .secondsOverflow) c'

namespace Op

variable {α β : Type} {c c₁ c' : Connection} {statement : Statement}

theorem Recorded.diagnosed {r : Except Error α} (h : Recorded c₁ r c') (hfault : c₁.fault = ⟨0, ""⟩)
    (hlast : c₁.last = statement) : Diagnosed c statement r c' := by
  cases h with
  | succeeded x _ fault last => exact .succeeded x c' (fault.trans hfault) (last.trans hlast)
  | failed e _ fault last named =>
    refine .failed e c' fault (last.trans hlast) ?_
    rw [named, Connection.lastQuery, hlast]

/-- every statement begins like this -/
theorem assures_begin {own : Option Duration} {k : Option Duration → Op α}
    (hk : ∀ limit (c₁ : Connection), c₁.fault = ⟨0, ""⟩ → c₁.last = statement →
      (k limit).Assures c₁ (Diagnosed c statement)) :
    (beginning statement own k).Assures c (Diagnosed c statement) := by
  refine assures_bind.2 ((assures_connect false c).mono fun r c₁ h => ?_)
  cases h with
  | unserved e _ unconnected fault last => exact .unserved e c₁ unconnected fault last
  | overflow _ => exact .overflow c₁
  | sure _ =>
    refine assures_modify_bind.2 (assures_get_bind.2 (assures_bind.2 (assures_ofExcept.2 ?_)))
    cases hl : (c₁.beginStatement statement).limit own with
    | error e =>
      obtain rfl := limit_error hl
      exact .overflow _
    | ok limit => exact hk limit _ (Connection.fault_beginStatement c₁ statement) rfl

/-- a call whose outcome is recorded as that of the statement -/
theorem assures_call_conclude {limit : Option Duration} {late : Duration → NativeError} {call : Call Reply}
    (hfault : c₁.fault = ⟨0, ""⟩) (hlast : c₁.last = statement) :
    (do conclude (← Op.call limit late call)).Assures c₁ (Diagnosed c statement) := by
  refine assures_bind.2 (assures_call fun x client => ?_)
  exact (assures_conclude x _).mono fun _ _ h => h.diagnosed hfault hlast

theorem assures_prepare (own : Option Duration) :
    (prepare statement own).Assures c (Diagnosed c statement) := by
  refine assures_begin fun limit c₁ hfault hlast => assures_bind.2 (assures_call fun x client => ?_)
  cases x with
  | ok handle => exact assures_pure.2 (.succeeded _ _ hfault hlast)
  | error cause => exact (assures_failWith carries_prepare cause _).mono fun _ _ h => h.diagnosed hfault hlast

theorem assures_execute (own : Option Duration) :
    (execute statement own).Assures c (Diagnosed c statement) := by
  refine assures_get_bind.2 (assures_bind.2 (assures_ofExcept.2 ?_))
  cases hl : c.limit own with
  | error e =>
    obtain rfl := limit_error hl
    exact .overflow c
  | ok limit =>
    refine assures_bind.2 ((assures_prepare own).mono fun r c₁ h => ?_)
    cases h with
    | succeeded p _ fault last => exact assures_call_conclude fault last
    | failed e _ fault last named => exact .failed e c₁ fault last named
    | unserved e _ unconnected fault last => exact .unserved e c₁ unconnected fault last
    | overflow _ => exact .overflow c₁

theorem assures_executePrepared (p : Prepared) (own : Option Duration) :
    (executePrepared p own).Assures c (Diagnosed c p.statement) :=
  assures_begin fun _ _ hfault hlast => assures_call_conclude hfault hlast

theorem assures_query (text : String) (own : Option Duration) :
    (query text own).Assures c (Diagnosed c (.ofText text)) := by
  refine assures_begin fun limit c₁ hfault hlast => assures_bind.2 (assures_call fun x client => ?_)
  refine assures_bind.2 ((assures_conclude x _).mono fun r c₂ h => ?_)
  have hd : Diagnosed c (.ofText text) r c₂ := h.diagnosed hfault hlast
  cases hd with
  | succeeded reply _ fault last => exact assures_pure.2 (.succeeded _ _ fault last)
  | failed e _ fault last named => exact .failed e c₂ fault last named
  | unserved e _ unconnected fault last => exact .unserved e c₂ unconnected fault last
  | overflow _ => exact .overflow c₂

/-- **Tasks.** The record behind a call for a statement, whatever state the connection was in. -/
theorem assures_task (task : Task) (own : Option Duration) (c : Connection) :
    (task.op own).Assures c (Diagnosed c task.statement) := by
  cases task with
  | prepare s => exact assures_prepare own
  | execute s => exact assures_execute own
  | executePrepared p => exact assures_executePrepared p own
  | query text => exact assures_query text own

end Op

/-! ## What is told -/

/-- **What a connection tells of the call that ended.** Behind a success it tells nothing. Behind a failure it has the
code and the text of this very failure on record. It tells of them with the statement of this very call, which is the one
that the error names, if there was a session for it. If there was none, the error names no statement, and the failure is
told of with the statement of an earlier call, whatever this call's statement is. (A configured time that no span can
hold is no failure of the call.) -/
theorem diagnosed_calls {others : World → World → Prop} {c c' : Connection} {w w' : World} (task : Task)
    (own : Option Duration) {r : Except Error task.Value} (h : Op.Ends others (task.op own) c w r c' w')
    (hr : r ≠ .error .secondsOverflow) :
    (∀ x, r = .ok x → c'.failure? = none ∧ c'.lastErrno = 0) ∧
      ∀ e, r = .error e →
        c'.lastErrno = e.native.errno ∧ c'.lastError = e.native.message ∧
          ((e.isUnconnected = false ∧ e.statement? = some task.statement.filled ∧ c'.lastQuery = task.statement.filled ∧
              c'.failure? = e.native.shown task.statement.filled) ∨
            (e.isUnconnected = true ∧ e.statement? = none ∧ c'.lastQuery = c.lastQuery ∧
              c'.failure? = e.native.shown c.lastQuery)) := by
  have hd := (Op.assures_task task own c).ends h
  cases hd with
  | succeeded x _ fault last =>
    refine ⟨fun _ _ => ⟨?_, congrArg NativeError.errno fault⟩, fun e he => (nomatch he)⟩
    rw [Connection.failure?_fault, fault]
    rfl
  | failed e _ fault last named =>
    refine ⟨fun x hx => (nomatch hx), fun e' he => ?_⟩
    cases he
    have hquery : c'.lastQuery = task.statement.filled := congrArg Statement.filled last
    refine ⟨congrArg NativeError.errno fault, congrArg NativeError.message fault, .inl ⟨?_, named, hquery, ?_⟩⟩
    · refine Bool.eq_false_iff.2 fun hu => ?_
      rw [Error.unnamed_of_isUnconnected hu] at named
      cases named
    · rw [Connection.failure?_fault, fault, hquery]
  | unserved e _ unconnected fault last =>
    refine ⟨fun x hx => (nomatch hx), fun e' he => ?_⟩
    cases he
    have hquery : c'.lastQuery = c.lastQuery := congrArg Statement.filled last
    refine ⟨congrArg NativeError.errno fault, congrArg NativeError.message fault, .inr ⟨unconnected, ?_, hquery, ?_⟩⟩
    · exact Error.unnamed_of_isUnconnected unconnected
    · rw [Connection.failure?_fault, fault, hquery]
  | overflow _ => exact absurd rfl hr

/-- `SELECT 1` has run and its session has been closed; now no session can be had for `SELECT 2`, and its failure is
told of with `SELECT 1` -/
theorem diagnosed_calls_refused :
    let c : Connection := { Connection.new (.new 0) .standard .empty with last := .ofText "SELECT 1" }
    let w := World.fresh.arrange fun s => { s with refusals := 2 }
    let run := ((Task.execute (.ofText "SELECT 2")).op none c).run 0 w
    run.1.1 = .error (.connect Config.standard.target Server.refusal) ∧
      run.1.2.lastQuery = "SELECT 1" ∧
      run.1.2.failure? = some "[2002] Can't connect to MySQL server with statement -> SELECT 1" := by
  intro c w
  generalize hrun : ((Task.execute (.ofText "SELECT 2")).op none c).run 0 w = run
  have hr : run.1.1 = .error (.connect Config.standard.target Server.refusal) := by
    rw [← hrun]
    rfl
  have hends : Op.Ends (· = ·) ((Task.execute (.ofText "SELECT 2")).op none) c w run.1.1 run.1.2 run.2.2 :=
    Op.ends_of_run (fun _ _ => rfl) hrun (Timed.throughout_of_forall (fun _ => trivial) _ _)
  rw [hr] at hends
  have htold := diagnosed_calls _ none hends nofun
  obtain ⟨-, -, ⟨-, hnamed, -⟩ | ⟨-, -, hlast, hshown⟩⟩ := htold.2 _ rfl
  · cases hnamed
  · have hquery : c.lastQuery = "SELECT 1" := by decide +kernel
    have htext : Server.refusal.shown "SELECT 1" =
        some "[2002] Can't connect to MySQL server with statement -> SELECT 1" := by decide +kernel
    rw [hquery] at hlast hshown
    exact ⟨hr, hlast, hshown.trans htext⟩

end SqlSession
