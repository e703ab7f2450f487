/-
Connections: a client with the bookkeeping of the calls made through it.

Here are the state of a connection, the changes that beginning and ending a statement make to it, and what it tells
about its last failure. Operations that reach the server are `Op` programs, in the modules behind this one.
-/
import SqlSession.Config
import SqlSession.Log
import SqlSession.Query.Clause
import SqlSession.Session.Client

namespace SqlSession

open Query (Draft Registry)

structure Connection where
  client : Client
  config : Config
  registry : Registry
  /-- clauses of the query that is being put together -/
  draft : Draft
  log : Log
  /-- connects that failed since the last success -/
  retries : Nat
  /-- the session is lost or cannot be relied on -/
  needsReconnect : Bool
  /-- open transactions, each inside the one before it. A counter of 32 bits is never full: each level takes a `start`
  that came back and that nothing has undone, and no session goes through `2 ^ 32` of those -/
  depth : Nat
  fieldCase : FieldCase
  lockMethod : LockMethod
  /-- the last statement -/
  last : Statement
  affected : Nat
  insertId : Nat
  /-- rows that the last query which asked for their count would have had without a limit -/
  totalCount : Nat
  /-- code and text of the last failure; zero and empty after a success -/
  lastErrno : Nat
  lastError : String

namespace Connection

def new (client : Client) (config : Config) (registry : Registry) : Connection :=
  { client, config, registry
    draft := .fresh config.tablePrefix
    log := .empty config.logCapacity
    retries := 0
    needsReconnect := false
    depth := 0
    fieldCase := config.fieldCase
    lockMethod := .read
    last := .ofText ""
    affected := 0
    insertId := 0
    totalCount := 0
    lastErrno := 0
    lastError := "" }

/-! ## What it tells -/

def lastQuery (c : Connection) : String := c.last.filled

/-- the text of the last failure without blanks around it -/
def errorText (c : Connection) : String := Text.trimmed c.lastError

/-- code, text and statement of the last failure; none after a success -/
def failure? (c : Connection) : Option String :=
  if c.lastErrno = 0 ∧ c.lastError.isEmpty then none
  else some (NativeError.text ⟨c.lastErrno, c.errorText⟩ ++ " with statement -> " ++ c.lastQuery)

/-- the connection as diagnostics show it -/
def describe (c : Connection) : String :=
  "Connection \x7b target: " ++ Text.quoted c.config.target ++ ", connected: " ++ toString c.client.connected
    ++ ", trans_depth: " ++ toString c.depth ++ ", needs_reconnect: " ++ toString c.needsReconnect ++ ", .. \x7d"

/-! ## What happens to it -/

def clearDraft (c : Connection) : Connection :=
  { c with draft := c.draft.reset }

/-- a statement begins: counts and errors are those of nothing yet -/
def beginStatement (c : Connection) (statement : Statement) : Connection :=
  { c with last := statement, lastErrno := 0, lastError := "", affected := 0, totalCount := 0 }

/-- a statement failed; a report of loss or a timeout makes the session unreliable -/
def recordFailure (c : Connection) (cause : NativeError) : Connection :=
  { c with
    lastErrno := cause.errno
    lastError := cause.message
    needsReconnect := c.needsReconnect || isLossText cause.message || cause.errno == errnoTimeout
    log := c.log.push .debug (cause.text ++ " with statement -> " ++ c.lastQuery) }

/-- a statement succeeded; an insert id stays until there is another one -/
def recordSuccess (c : Connection) (reply : Reply) : Connection :=
  { c with
    affected := reply.affected
    insertId := if reply.insertId = 0 then c.insertId else reply.insertId
    log := c.log.push .statement (Log.timed c.lastQuery) }

/-- a connect succeeded -/
def recordOpened (c : Connection) : Connection :=
  { c with retries := 0, needsReconnect := false }

/-- the transaction that was open in a lost session is given up -/
def recordLostTransaction (c : Connection) (depth : Nat) : Connection :=
  { c with depth := 0, lastErrno := 0, lastError := (Error.transactionLost depth).message }

/-- the limit of a call: its own or the configured one -/
def limit (c : Connection) (own : Option Duration) : Except Error (Option Duration) :=
  match own with
  | some d => .ok (some d)
  | none => c.config.executeLimit

end Connection

end SqlSession
