/-
Clients: one end of a session, and the calls it can make.

A client holds the handles of what it has prepared. Closing the session forgets them; losing it does not. A call is not
stopped by a limit here: who makes it races it against the limit.
-/
import SqlSession.Session.Server
import SqlSession.Timed

namespace SqlSession

structure Client where
  id : Nat
  /-- sessions opened so far -/
  openings : Nat
  connected : Bool
  /-- texts by their handles -/
  prepared : List (Nat × String)
  nextHandle : Nat
  deriving Repr

namespace Client

def new (id : Nat) : Client := ⟨id, 0, false, [], 1⟩

/-- the session that is or was open last -/
def session (c : Client) : SessionId := ⟨c.id, c.openings⟩

/-- the client behind the end of its session -/
def close (c : Client) : Client :=
  { c with connected := false, prepared := [] }

/-- the client with one more prepared statement, whose handle was the next one -/
def withPrepared (c : Client) (text : String) : Client :=
  { c with prepared := (c.nextHandle, text) :: c.prepared, nextHandle := c.nextHandle + 1 }

end Client

/-- a call of a client: it may fail with what the server reports -/
abbrev Call := ExceptT NativeError (StateT Client (Timed World))

namespace Call

/-- waits as long as such a call takes -/
def pause (delay : Delays → Nat) : Call Unit :=
  fun client => do
    Timed.pause (← Timed.look fun w : World => delay w.server.delays)
    pure (.ok (), client)

/-- a change on the server's side -/
def tell {α : Type} (f : Server → α × Server) : Call α :=
  fun client => do
    let x ← Timed.exchange (World.onServer f)
    pure (.ok x, client)

def openSession : Call Unit := do
  pause Delays.connect
  let next : SessionId := ⟨(← get).id, (← get).openings + 1⟩
  match ← tell (Server.accept next) with
  | some cause => throw cause
  | none => modify fun client => { client with openings := next.opening, connected := true }

/-- the handle of a new prepared statement -/
def prepare (text : String) (limit : Option Duration) : Call Nat := do
  pause Delays.prepare
  let client ← get
  tell fun s => ((), s.receive client.session (.prepare text) limit)
  match ← tell (Server.endPrepare client.session text) with
  | some cause => throw cause
  | none =>
    set (client.withPrepared text)
    pure client.nextHandle

/-- the end of a statement that the server has received; a report of loss ends the session -/
def finish (request : Request) (text : String) : Call Reply := do
  match ← tell (Server.endRun (← get).session request text) with
  | .ok reply => pure reply
  | .error cause =>
    if isLossText cause.message then modify fun client => { client with connected := false }
    throw cause

def unknownHandle : NativeError := ⟨1243, "Unknown prepared statement handler"⟩

/-- runs what a handle stands for -/
def execute (handle : Nat) (binds : List Datum) (limit : Option Duration) : Call Reply := do
  let client ← get
  match client.prepared.lookup handle with
  | none => throw unknownHandle
  | some text =>
    let request := Request.execute ⟨text, binds⟩
    tell fun s => ((), s.receive client.session request limit)
    pause Delays.execute
    finish request text

/-- runs a statement without preparing it -/
def query (text : String) (limit : Option Duration) : Call Reply := do
  pause Delays.query
  let client ← get
  tell fun s => ((), s.receive client.session (.query text) limit)
  finish (.query text) text

end Call

end SqlSession
