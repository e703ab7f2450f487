/-
Uses of a connection as data: what is done with it, in order, and what comes of that.

`Operation.perform` is the operation that each stands for. A transaction is a list of operations of its own; it ends
with the first that fails.
-/
import SqlSession.Session.Describe

namespace SqlSession

open Query (Clause InsertVerb Row)

/-- how a query that was put together ends -/
inductive Ending where
  /-- its clauses stay for the next one -/
  | unfinished
  /-- it is compiled and not run, and its clauses stay -/
  | compile
  | select
  /-- the rows, none of a statement that was only prepared -/
  | selectRows
  | first
  | value (column : String)
  | column (name : String)
  | insert (verb : InsertVerb) (row : Except Error Row)
  | update (row : Except Error Row) (force : Bool)
  | delete (force : Bool)

/-- a query put together on a connection -/
structure BoundQuery where
  limit : Option Duration
  /-- prepare a SELECT instead of running it -/
  asHandle : Bool
  clauses : List (Except Error Clause)
  ending : Ending
  /-- the name to keep a prepared statement under -/
  name : String

inductive Operation where
  /-- the server's side changes -/
  | arrange (change : Server → Server)
  /-- something that cannot even be asked for -/
  | unreadable (reason : Error)
  | connect (force : Bool)
  | disconnect
  | beforeUse
  | clearDraft
  | start
  | commit
  | rollback
  | lock (tables : List String)
  | unlock
  | sleep (millis : Nat)
  /-- the prepared statement is kept under a name -/
  | prepare (name : String) (statement : Statement) (limit : Option Duration)
  | executePrepared (name : String) (limit : Option Duration)
  | execute (statement : Statement) (limit : Option Duration)
  | query (text : String) (limit : Option Duration)
  | fetch (statement : Statement)
  | fetchFirst (statement : Statement)
  | explain (statement : Statement)
  | escape (text : String)
  | batch (statements : List Statement)
  | setLockMethod (method : LockMethod)
  | setFieldCase (name : String)
  | columns (table : String)
  | tables (database : Option String)
  | tablesExist (tables : List String)
  | expandTables (text : String)
  | showLog
  | clearLog
  | describe
  | target
  | bound (query : BoundQuery)
  /-- operations, and a failure behind them unless there is none -/
  | transaction (body : List Operation) (failure : Option String)
  deriving Inhabited

/-- what comes of an operation -/
inductive Answer where
  | unit
  | flag (value : Bool)
  | number (value : Nat)
  | text (value : String)
  | texts (values : List String)
  | rows (rows : RowSet)
  | maybeRows (rows : Option RowSet)
  | record? (record : Option Record)
  | datum? (value : Option Datum)
  | data (values : List Datum)
  | reply (reply : Reply)
  | prepared (prepared : Prepared)
  | selection (selection : Selection)
  | compiled (statement : Statement)
  | columns (columns : List Schema.Column)
  /-- what came of the operations in a transaction, and of the transaction -/
  | transaction (inner : List (Except Error Answer)) (result : Except Error Nat)
  deriving Inhabited

namespace Op

/-- an operation that tells nothing but that it succeeded -/
def silent (op : Op Unit) : Op Answer := do
  op
  pure .unit

def giving {α : Type} (f : α → Answer) (op : Op α) : Op Answer := do
  pure (f (← op))

def unknownName (name : String) : Error :=
  .invalidArgument ("no prepared statement is called " ++ name)

/-- the statement that was prepared under a name -/
def named (name : String) : Op Prepared := do
  match ← shared (.look fun w => w.named.lookup name) with
  | some p => pure p
  | none => throw (unknownName name)

def keep (name : String) (p : Prepared) : Op Unit :=
  shared (.change (World.keep name p))

/-- the ending of a query whose clauses are recorded -/
def finish (q : BoundQuery) : Op Answer := do
  match q.ending with
  | .unfinished => pure .unit
  | .compile => pure (.compiled (← ofExcept (← get).draft.compileSelect))
  | .select =>
    let selection ← select q.asHandle q.limit
    match selection with
    | .handle p => keep q.name p
    | .rows _ => pure ()
    pure (.selection selection)
  | .selectRows => pure (.maybeRows (← select q.asHandle q.limit).rows?)
  | .first => giving .record? (first q.limit)
  | .value name => giving .datum? (value name q.limit)
  | .column name => giving .data (column name q.limit)
  | .insert verb row => do giving .number (insert verb (← ofExcept row) q.limit)
  | .update row force => do giving .number (update (← ofExcept row) force q.limit)
  | .delete force => giving .number (delete force q.limit)

def bound (q : BoundQuery) : Op Answer := do
  recordAll q.clauses
  finish q

/-- the case that a name stands for from now on -/
def setFieldCase (name : String) : Op Answer := do
  match FieldCase.ofName? name with
  | none => throw (.json .mistyped)
  | some mode =>
    modify fun c => { c with fieldCase := mode }
    pure (.text mode.name)

/-- the result of a transaction's body: its failure if it has one, else the rows affected last -/
def bodyResult (failure : Option String) : Except Error Unit → Op (Except Error Nat)
  | .error e => pure (.error e)
  | .ok () => do
    match failure with
    | some reason => pure (.error (.other reason))
    | none => pure (.ok (← get).affected)

end Op

namespace Operation

mutual

def perform : Operation → Op Answer
  | arrange change => Op.silent (Op.shared (.change (World.arrange change)))
  | unreadable reason => throw reason
  | connect force => Op.silent (Op.connect force)
  | disconnect => Op.silent Op.disconnect
  | beforeUse => Op.silent Op.beforeUse
  | clearDraft => Op.silent (modify Connection.clearDraft)
  | start => Op.silent Op.start
  | commit => Op.silent Op.commit
  | rollback => Op.silent Op.rollback
  | lock names => Op.silent (Op.lock names)
  | unlock => Op.silent Op.unlock
  | sleep millis => Op.silent (Op.shared (.pause millis))
  | prepare name statement limit => do
    let p ← Op.prepare statement limit
    Op.keep name p
    pure (.prepared p)
  | executePrepared name limit => do
    Op.giving .reply (Op.executePrepared (← Op.named name) limit)
  | execute statement limit => Op.giving .reply (Op.execute statement limit)
  | query text limit => Op.giving .rows (Op.query text limit)
  | fetch statement => Op.giving .rows (Op.fetch statement)
  | fetchFirst statement => Op.giving (fun rows => .record? rows.first?) (Op.fetch statement)
  | explain statement => Op.giving .rows (Op.explain statement)
  | escape text => Op.giving .text (Op.escape text)
  | batch statements => Op.giving .number (Op.batch statements)
  | setLockMethod method => do
    modify fun c => { c with lockMethod := method }
    pure (.text method.text)
  | setFieldCase name => Op.setFieldCase name
  | columns table => Op.giving .columns (Op.columns table)
  | tables database => Op.giving .texts (Op.tables database)
  | tablesExist names => Op.giving .flag (Op.tablesExist names)
  | expandTables text => do pure (.text (Schema.expandTables (← get).config.tablePrefix text))
  | showLog => do pure (.texts (← get).log.lines)
  | clearLog => Op.silent (modify fun c => { c with log := c.log.clear })
  | describe => do pure (.text (← get).describe)
  | target => do pure (.text (← get).config.target)
  | bound q => Op.bound q
  | transaction body failure => do
    match ← Op.attempt Op.start with
    | .error e => pure (.transaction [] (.error e))
    | .ok () =>
      let (inner, outcome) ← performAll body
      let result ← Op.bodyResult failure outcome
      pure (.transaction inner (← Op.attempt (Op.settle result)))

/-- the operations up to the first that fails: what came of each, and that failure -/
def performAll : List Operation → Op (List (Except Error Answer) × Except Error Unit)
  | [] => pure ([], .ok ())
  | operation :: rest => do
    match ← Op.attempt (perform operation) with
    | .error e => pure ([.error e], .error e)
    | .ok answer =>
      let (inner, outcome) ← performAll rest
      pure (.ok answer :: inner, outcome)

end

end Operation

end SqlSession
