/-
Running statements.

Every statement runs in a session that is made sure of first, under its own limit or the configured one. What it ends
with is recorded in the connection, logged, and told to the listeners, once for each statement that was run and for each
that could not be prepared.
-/
import SqlSession.Session.Connect

namespace SqlSession.Op

def statementLate (d : Duration) : NativeError :=
  ⟨errnoTimeout, "statement exceeded " ++ d.text⟩

/-- records a failure and fails; `kind` makes the error of one that is no timeout -/
def failWith {α : Type} (kind : NativeError → String → Error) (cause : NativeError) : Op α := do
  let statement := (← get).lastQuery
  modify fun c => c.recordFailure cause
  notify ⟨statement, 0, some cause.errno⟩
  if cause.errno = errnoTimeout then throw (.timeout cause statement) else throw (kind cause statement)

/-- records the end of a statement that was run -/
def conclude (outcome : Except NativeError Reply) : Op Reply := do
  match outcome with
  | .error cause => failWith .execute cause
  | .ok reply =>
    modify fun c => c.recordSuccess reply
    notify ⟨(← get).lastQuery, reply.affected, none⟩
    pure reply

/-- prepares a statement without running it -/
def prepare (statement : Statement) (own : Option Duration) : Op Prepared := do
  connect false
  modify fun c => c.beginStatement statement
  let limit ← ofExcept ((← get).limit own)
  match ← call limit statementLate (Call.prepare statement.text limit) with
  | .ok handle => pure ⟨handle, statement⟩
  | .error cause => failWith .prepare cause

/-- prepares and runs a statement -/
def execute (statement : Statement) (own : Option Duration) : Op Reply := do
  let limit ← ofExcept ((← get).limit own)
  let prepared ← prepare statement own
  conclude (← call limit statementLate (Call.execute prepared.handle statement.binds limit))

/-- runs a statement that was prepared before -/
def executePrepared (p : Prepared) (own : Option Duration) : Op Reply := do
  connect false
  modify fun c => c.beginStatement p.statement
  let limit ← ofExcept ((← get).limit own)
  conclude (← call limit statementLate (Call.execute p.handle p.statement.binds limit))

/-- runs a statement without preparing it -/
def query (text : String) (own : Option Duration) : Op RowSet := do
  connect false
  modify fun c => c.beginStatement (.ofText text)
  let limit ← ofExcept ((← get).limit own)
  let reply ← conclude (← call limit statementLate (Call.query text limit))
  pure reply.rows

/-- the rows of a statement -/
def fetch (statement : Statement) : Op RowSet := do
  pure (← execute statement none).rows

/-- the text as it may stand in a quoted literal -/
def escape (text : String) : Op String := do
  connect false
  pure (addSlashes text)

/-! ## Plans -/

/-- a row as names and values -/
def planRow (r : Record) : String :=
  Text.joinWith " " (r.pairs.map fun p => p.1 ++ "=" ++ p.2.plain?.getD "NULL")

/-- asks how a statement would be run, and logs the answer -/
def explain (statement : Statement) : Op RowSet := do
  let plan ← fetch ⟨"EXPLAIN " ++ statement.text, statement.binds⟩
  let rows := Text.joinWith "; " (plan.records.map planRow)
  modify fun c => { c with log := c.log.push .explain (statement.filled ++ " => " ++ rows) }
  pure plan

/-! ## Counts -/

def foundRowsText : String := "SELECT FOUND_ROWS() as count"

/-- a whole number of 64 bits without a sign, or with a plus -/
def natural? (s : String) : Option Nat :=
  let digits := match s.toList with
    | '+' :: rest => rest
    | cs => cs
  if digits.isEmpty || !digits.all Char.isDigit then none
  else
    let n := Text.digitsValue digits
    if n ≤ Json.wholeMax then some n else none

/-- the number that a value counts, zero if it counts none -/
def countOf : Datum → Nat
  | .int n => n.toNat
  | other => (other.plain?.bind natural?).getD 0

/-- asks for the number of rows that the statement before would have had without a limit; it takes the place of no other
statement in the connection's records unless it fails -/
def fetchTotalCount : Op Unit := do
  let limit ← ofExcept (← get).config.executeLimit
  match ← call limit statementLate (Call.query foundRowsText limit) with
  | .error cause => failWith .execute cause
  | .ok reply =>
    let count := ((reply.rows.first?.bind fun r => r.get? "count").map countOf).getD 0
    modify fun c => { c with totalCount := count }

end SqlSession.Op
