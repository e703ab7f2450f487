/-
Queries put together on a connection and run there.

The clauses gather in the connection's draft. An ending takes the draft, whether what follows succeeds or not, compiles
it before anything is sent, and runs the statement.
-/
import SqlSession.Query.Compile
import SqlSession.Session.Transaction

namespace SqlSession

open Query (Clause Draft InsertVerb Row)

/-- what a SELECT comes to -/
inductive Selection where
  | rows (rows : RowSet)
  /-- prepared and not run -/
  | handle (prepared : Prepared)
  deriving Repr

/-- the rows of a selection that was run -/
def Selection.rows? : Selection → Option RowSet
  | rows s => some s
  | handle _ => none

namespace Op

/-- records one more clause -/
def record (clause : Clause) : Op Unit :=
  fun c =>
    let (draft, result) := c.draft.recordIn (some c.registry) clause
    pure (result, { c with draft })

/-- records clauses up to the first that is refused or could not be made -/
def recordAll : List (Except Error Clause) → Op Unit
  | [] => pure ()
  | clause :: rest => do
    record (← ofExcept clause)
    recordAll rest

/-- the draft, which is gone from the connection -/
def takeDraft : Op Draft := do
  let draft := (← get).draft
  modify Connection.clearDraft
  pure draft

/-- runs the draft as a SELECT, or only prepares it -/
def select (asHandle : Bool) (own : Option Duration) : Op Selection := do
  let draft ← takeDraft
  let statement ← ofExcept draft.compileSelect
  if asHandle then
    pure (.handle (← prepare statement own))
  else
    let reply ← execute statement own
    if draft.wantsTotalCount then fetchTotalCount
    pure (.rows reply.rows)

/-- the rows of the draft as a SELECT -/
def selectRows (own : Option Duration) : Op RowSet := do
  pure ((← select false own).rows?.getD .empty)

def first (own : Option Duration) : Op (Option Record) := do
  record (.limit ⟨none, 1⟩)
  pure (← selectRows own).first?

/-- the column's value in the first row -/
def value (column : String) (own : Option Duration) : Op (Option Datum) := do
  record (.fields [column])
  record (.limit ⟨none, 1⟩)
  pure ((← selectRows own).first?.bind fun r => r.get? column)

/-- the column's values in all rows -/
def column (name : String) (own : Option Duration) : Op (List Datum) := do
  record (.fields [name])
  pure ((← selectRows own).column name)

/-- runs the draft as a change of tables -/
def change (compile : Draft → Except Error Statement) (own : Option Duration) : Op Reply := do
  let draft ← takeDraft
  execute (← ofExcept (compile draft)) own

/-- the id that the server gave to an inserted row -/
def insert (verb : InsertVerb) (row : Row) (own : Option Duration) : Op Nat := do
  pure (← change (fun d => d.compileInsert verb row) own).insertId

/-- the number of rows that an update changed -/
def update (row : Row) (force : Bool) (own : Option Duration) : Op Nat := do
  pure (← change (fun d => d.compileUpdate row force) own).affected

/-- the number of rows that are gone -/
def delete (force : Bool) (own : Option Duration) : Op Nat := do
  pure (← change (fun d => d.compileDelete force) own).affected

end Op

end SqlSession
