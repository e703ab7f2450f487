/-
The server's side of sessions, arranged in advance.

A `Server` refuses connects, fails statements and answers them as it was told to, and keeps a ledger of all that happens
to it, the oldest entry first. A `World` is a server with the listeners and the names that the connections to it share.
-/
import SqlSession.Error
import SqlSession.Rows
import SqlSession.Statement

namespace SqlSession

/-- a session: the client, and how many sessions that client has opened up to it -/
structure SessionId where
  client : Nat
  opening : Nat
  deriving DecidableEq, Repr

/-- what a client asks a server for -/
inductive Request where
  | prepare (text : String)
  /-- a prepared statement with values -/
  | execute (statement : Statement)
  /-- a statement that was not prepared -/
  | query (text : String)
  deriving Repr

/-- what happens to a server -/
inductive Entry where
  | opened (session : SessionId)
  /-- a client was not let in -/
  | refused (client : Nat)
  | received (session : SessionId) (request : Request) (limit : Option Duration)
  | succeeded (session : SessionId) (request : Request)
  | failed (session : SessionId) (request : Request) (cause : NativeError)
  | closed (session : SessionId)
  deriving Repr

/-- milliseconds that calls take -/
structure Delays where
  connect : Nat
  prepare : Nat
  execute : Nat
  query : Nat
  deriving DecidableEq, Repr

structure Server where
  ledger : List Entry
  /-- entries of the ledger, from the first on, that nobody is told of any more -/
  forgotten : Nat
  clients : Nat
  /-- connects that are still going to be refused -/
  refusals : Nat
  prepareFailures : List NativeError
  /-- failures of executed and queried statements -/
  runFailures : List NativeError
  /-- rows for statements by how they begin -/
  responses : List (String × RowSet)
  delays : Delays
  /-- counts of statements that have no rows -/
  affected : Nat
  insertId : Nat
  savepoints : Bool
  deriving Repr

namespace Server

/-- a server that nobody has talked to and that nothing is arranged with -/
def fresh : Server where
  ledger := []
  forgotten := 0
  clients := 0
  refusals := 0
  prepareFailures := []
  runFailures := []
  responses := []
  delays := ⟨0, 0, 0, 0⟩
  affected := 0
  insertId := 0
  savepoints := true

/-- the server with one more entry in its ledger -/
def note (s : Server) (entry : Entry) : Server :=
  { s with ledger := s.ledger ++ [entry] }

/-- nobody is told of what has happened so far -/
def forget (s : Server) : Server :=
  { s with forgotten := s.ledger.length }

/-- a number for one more client -/
def welcome (s : Server) : Nat × Server :=
  (s.clients, { s with clients := s.clients + 1 })

/-! ## What clients do to it -/

def refusal : NativeError := ⟨2002, "Can't connect to MySQL server"⟩

/-- lets a session begin unless connects are refused -/
def accept (session : SessionId) (s : Server) : Option NativeError × Server :=
  match s.refusals with
  | 0 => (none, s.note (.opened session))
  | n + 1 => (some refusal, { s with refusals := n }.note (.refused session.client))

def receive (session : SessionId) (request : Request) (limit : Option Duration) (s : Server) : Server :=
  s.note (.received session request limit)

/-- whether the statement begins like this, in any case of ASCII letters -/
def beginsWith (start text : String) : Bool :=
  (Text.asciiUpper start).toList.isPrefixOf (Text.asciiUpper text).toList

/-- of two responses the one for the longer beginning; of equally long ones the later -/
def longer (best : Option (String × RowSet)) (entry : String × RowSet) : Option (String × RowSet) :=
  match best with
  | some b => if b.1.utf8ByteSize ≤ entry.1.utf8ByteSize then some entry else some b
  | none => some entry

/-- rows arranged for a statement count as affected; without any, the arranged counts are the answer -/
def reply (s : Server) (text : String) : Reply :=
  match (s.responses.filter fun entry => beginsWith entry.1 text).foldl longer none with
  | some (_, rows) => ⟨rows, rows.size, 0⟩
  | none => ⟨.empty, s.affected, s.insertId⟩

/-- the outcome of preparing a statement -/
def endPrepare (session : SessionId) (text : String) (s : Server) : Option NativeError × Server :=
  match s.prepareFailures with
  | [] => (none, s.note (.succeeded session (.prepare text)))
  | cause :: rest => (some cause, { s with prepareFailures := rest }.note (.failed session (.prepare text) cause))

/-- the outcome of running a statement -/
def endRun (session : SessionId) (request : Request) (text : String) (s : Server) :
    Except NativeError Reply × Server :=
  match s.runFailures with
  | [] => (.ok (s.reply text), s.note (.succeeded session request))
  | cause :: rest => (.error cause, { s with runFailures := rest }.note (.failed session request cause))

/-! ## What the ledger tells -/

/-- texts that were to be prepared or queried -/
def statementText? : Entry → Option String
  | .received _ (.prepare text) _ => some text
  | .received _ (.query text) _ => some text
  | _ => none

/-- statements that were run, with their values -/
def executed? : Entry → Option Statement
  | .received _ (.execute statement) _ => some statement
  | .received _ (.query text) _ => some (.ofText text)
  | _ => none

def isAttempt : Entry → Bool
  | .opened _ => true
  | .refused _ => true
  | _ => false

/-- connects so far -/
def attempts (s : Server) : Nat := s.ledger.countP isAttempt

/-- entries behind the first `seen` ones that have not been forgotten -/
def since (s : Server) (seen : Nat) : List Entry := s.ledger.drop (max seen s.forgotten)

end Server

/-- what listeners hear of a statement that has run -/
structure Heard where
  text : String
  affected : Nat
  errno : Option Nat
  deriving DecidableEq, Repr

/-- a statement prepared on the server -/
structure Prepared where
  handle : Nat
  statement : Statement
  deriving Repr

structure World where
  server : Server
  /-- what the listeners have heard, the oldest first -/
  heard : List Heard
  /-- prepared statements by the names their callers gave them -/
  named : List (String × Prepared)

namespace World

def fresh : World := ⟨.fresh, [], []⟩

/-- a change on the server's side -/
def onServer {α : Type} (f : Server → α × Server) (w : World) : α × World :=
  ((f w.server).1, { w with server := (f w.server).2 })

def arrange (f : Server → Server) (w : World) : World :=
  { w with server := f w.server }

def keep (name : String) (p : Prepared) (w : World) : World :=
  { w with named := (name, p) :: w.named }

end World

end SqlSession
