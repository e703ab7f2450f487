/-
Operations on connections, and opening, closing and revalidating sessions.

Opening a session that is live already does nothing. A session that is lost is reopened, but if a transaction was open
in it the caller hears of that instead of going on outside any transaction.
-/
import SqlSession.Session.Connection

namespace SqlSession

open Query (Clause)

/-- an operation on a connection in a world that it shares -/
abbrev Op := ExceptT Error (StateT Connection (Timed World))

namespace Op

/-- a result as a value for what goes on behind it; behind an abort nothing goes on -/
def caught {α : Type} : Except Error α → Except Error (Except Error α)
  | .ok x => .ok (.ok x)
  | .error e => if e.isAbort then .error e else .ok (.error e)

/-- the operation with its error as a value, unless it is aborted -/
def attempt {α : Type} (op : Op α) : Op (Except Error α) :=
  fun c => do
    let (result, c) ← op.run.run c
    pure (caught result, c)

/-- a look at the world or a change of it -/
def shared {α : Type} (t : Timed World α) : Op α :=
  fun c => do
    let x ← t
    pure (.ok x, c)

/-- the value of a computation without effects -/
def ofExcept {α : Type} : Except Error α → Op α
  | .ok x => pure x
  | .error e => throw e

/-- a call of the client; if the limit ends first, the client is left as it was before the call -/
def call {α : Type} (limit : Option Duration) (late : Duration → NativeError) (call : Call α) :
    Op (Except NativeError α) :=
  fun c => do
    let (result, client) ← (call.run.run c.client).within limit fun d => (.error (late d), c.client)
    pure (.ok result, { c with client })

/-- every listener hears of a statement -/
def notify (heard : Heard) : Op Unit := do
  let listeners := (← get).registry.listeners
  shared (.change fun w => { w with heard := w.heard ++ List.replicate listeners heard })

/-! ## Sessions -/

def disconnect : Op Unit := do
  let client := (← get).client
  if client.connected then
    shared (.change (World.arrange fun s => s.note (.closed client.session)))
    modify fun c => { c with client := c.client.close }

def connectLate (d : Duration) : NativeError :=
  ⟨errnoConnectTimeout, "connect timed out after " ++ d.text⟩

/-- tries to open a session, and after a failure again as often as there are `spare` tries; each of these counts -/
def tryOpen (limit : Option Duration) : Nat → Op (Except NativeError Unit)
  | 0 => call limit connectLate Call.openSession
  | spare + 1 => do
    match ← call limit connectLate Call.openSession with
    | .ok () => pure (.ok ())
    | .error _ =>
      modify fun c => { c with retries := c.retries + 1 }
      tryOpen limit spare

/-- opens a session; the transaction that was open at `lost` in the last one is reported as lost -/
def openSession (lost : Nat) : Op Unit := do
  let c ← get
  let limit ← ofExcept c.config.connectLimit
  match ← tryOpen limit (c.config.maxRetries - c.retries) with
  | .error cause =>
    modify fun c => { c with lastErrno := cause.errno, lastError := cause.message }
    throw (.connect c.config.target cause)
  | .ok () =>
    modify Connection.recordOpened
    if 0 < lost then
      modify fun c => c.recordLostTransaction lost
      throw (.transactionLost lost)

/-- makes sure of a session; with `force`, of a new one -/
def connect (force : Bool) : Op Unit := do
  let c ← get
  if force then
    disconnect
    modify fun c => { c with retries := 0 }
    openSession 0
  else if c.needsReconnect then
    disconnect
    openSession c.depth
  else if !c.client.connected then
    openSession 0

end Op

end SqlSession
