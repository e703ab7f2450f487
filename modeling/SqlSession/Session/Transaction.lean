/-
Transactions.

The outermost transaction is the server's; those inside it are savepoints, or only counted where there are none.
`transaction` commits what its work did, or rolls it back if the work fails, whose error it then gives back.
-/
import SqlSession.Session.Execute

namespace SqlSession.Op

def savepointName (depth : Nat) : String :=
  "trans" ++ toString depth

def hasSavepoints : Op Bool :=
  shared (.look fun w => w.server.savepoints)

/-- the statement that opens a transaction at this depth -/
def startStatement (depth : Nat) : Op Unit := do
  if depth = 1 then discard (query "BEGIN" none)
  else if ← hasSavepoints then discard (query ("SAVEPOINT " ++ savepointName depth) none)

/-- opens a transaction, inside the one that is open if there is one -/
def start : Op Unit := do
  connect false
  let depth := (← get).depth + 1
  modify fun c => { c with depth }
  match ← attempt (startStatement depth) with
  | .ok () => pure ()
  | .error e =>
    modify fun c => { c with depth := c.depth - 1 }
    throw e

/-- leaves the innermost transaction: its depth, in a session that is made sure of -/
def leave : Op Nat := do
  if 0 < (← get).depth then connect false
  let depth := (← get).depth
  modify fun c => { c with depth := depth - 1 }
  pure depth

/-- makes the outermost transaction last; an inner one is only left -/
def commit : Op Unit := do
  if (← leave) = 1 then discard (query "COMMIT" none)

/-- undoes the innermost transaction, as far as the server can -/
def rollback : Op Unit := do
  let depth ← leave
  if depth = 1 then discard (query "ROLLBACK" none)
  else if 1 < depth then
    if ← hasSavepoints then discard (query ("ROLLBACK TO SAVEPOINT " ++ savepointName depth) none)

/-- ends a transaction as its work ended; a rollback that fails too is not told of -/
def settle {α : Type} : Except Error α → Op α
  | .ok x => do
    commit
    pure x
  | .error e => do
    discard (attempt rollback)
    throw e

/-- work that lasts as a whole or not at all -/
def transaction {α : Type} (work : Op α) : Op α := do
  start
  settle (← attempt work)

/-- the statements in order; the rows that they affected -/
def executeAll : List Statement → Op Nat
  | [] => pure 0
  | statement :: rest => do
    let reply ← execute statement none
    pure (reply.affected + (← executeAll rest))

/-- the statements in order in a transaction -/
def batch (statements : List Statement) : Op Nat := do
  if statements.isEmpty then pure 0 else transaction (executeAll statements)

/-- makes a connection ready for another holder: no clauses, a session that can be relied on, no open transaction -/
def beforeUse : Op Unit := do
  modify Connection.clearDraft
  if (← get).needsReconnect then
    connect true
    modify fun c => { c with depth := 0 }
  if 0 < (← get).depth then
    modify fun c => { c with depth := 1 }
    rollback

/-! ## Locks -/

/-- locks tables, each name with the prefix, by the method of the connection -/
def lock (tables : List String) : Op Unit := do
  let c ← get
  if tables.isEmpty then throw (.invalidArgument "lock needs at least one table")
  let locked := tables.map fun table => c.config.tablePrefix ++ table ++ " " ++ c.lockMethod.text
  discard (query ("LOCK TABLES " ++ Text.joinWith ", " locked) none)

def unlock : Op Unit :=
  discard (query "UNLOCK TABLES" none)

end SqlSession.Op
