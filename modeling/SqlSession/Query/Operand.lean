/-
What stands where a statement has a value: in a list of data or on the right of a condition.

An operand renders to a piece of statement for the column it is given to: a placeholder and its value, an expression
with values of its own, or a sub-query whose text and values are taken over as they are.
-/
import SqlSession.Query.Interval
import SqlSession.Statement

namespace SqlSession.Query

/-- a compiled query inside another one -/
structure SubQuery where
  statement : Statement
  /-- the name it goes by where it stands for a table -/
  label : Option String
  deriving Repr

namespace SubQuery

/-- the query in parentheses, with its label if it has one that is not empty -/
def render (q : SubQuery) : Statement :=
  let name := match q.label with
    | some label => if label.isEmpty then "" else " " ++ label
    | none => ""
  ⟨"(" ++ q.statement.text ++ ")" ++ name, q.statement.binds⟩

/-- the query in parentheses -/
def enclosed (q : SubQuery) : Statement :=
  ⟨"(" ++ q.statement.text ++ ")", q.statement.binds⟩

end SubQuery

/-- a column name in backticks, a qualifier in front of its first point left bare; names with backticks are kept -/
def quoteColumn (column : String) : String :=
  let cs := column.toList
  let table := cs.takeWhile (· != '.')
  if cs.contains '`' then column
  else match cs.drop table.length with
    | [] => "`" ++ column ++ "`"
    | _ :: name => String.ofList table ++ ".`" ++ String.ofList name ++ "`"

inductive Operand where
  /-- a value for a placeholder -/
  | bind (value : Datum)
  /-- a column, by default the one assigned to, plus a whole number -/
  | step (column : Option String) (amount : Int)
  /-- an expression and the values for its placeholders -/
  | func (expression : String) (binds : List Datum)
  /-- the negation of a name, by default of the column assigned to -/
  | negation (name : Option String)
  | sub (query : SubQuery)
  deriving Repr

namespace Operand

/-- the opposite of a whole number of 64 bits; the least one has none and gives the greatest -/
def opposite (n : Int) : Int :=
  if n = int64Min then int64Max else -n

def increase (amount : Int) : Operand := step none amount

def decrease (amount : Int) : Operand := step none (opposite amount)

/-- the current time shifted by a text -/
def now (diff : Option String) : Except Error Operand := do
  .ok (func (← Interval.apply diff "NOW()") [])

/-- the piece of statement for this operand at a column -/
def render (column : String) : Operand → Statement
  | bind value => ⟨"?", [value]⟩
  | step target amount =>
    let target := quoteColumn (target.getD column)
    .ofText (if amount < 0 then target ++ " - " ++ toString amount.natAbs else target ++ " + " ++ toString amount)
  | func expression binds => ⟨expression, binds⟩
  | negation (some name) => .ofText ("!" ++ name)
  | negation none => .ofText ("!" ++ quoteColumn column)
  | sub query => query.render

end Operand

/-- columns and their values, in order -/
abbrev Row := List (String × Operand)

namespace Row

/-- the operands alone, separated by commas -/
def values (row : Row) : Statement :=
  .join ", " (row.map fun entry => entry.2.render entry.1)

/-- an assignment a column, separated by commas -/
def assignments (row : Row) : Statement :=
  .join ", " (row.map fun entry => .ofText (quoteColumn entry.1 ++ " = ") ++ entry.2.render entry.1)

end Row

end SqlSession.Query
