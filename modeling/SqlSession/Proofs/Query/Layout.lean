/-
Statements as their clauses lay them out: each value written where the clause it belongs to has its place.

Nothing here counts placeholders or collects values. An operand, a condition or a section gives the text it stands for,
with its own values in it; the layout of a statement is these in the order of its sections. Callers' texts that bring
values of their own (expressions, sub-queries, raw conditions) are laid out by their own placeholders.

`Tidy` says what callers' texts have to be like for that: closed, and with placeholders for their own values only.
-/
import SqlSession.Proofs.Scan.Layout
import SqlSession.Proofs.Query.Command

namespace SqlSession.Query

/-! ## Layouts -/

namespace SubQuery

/-- the name behind the parentheses -/
def labelText (q : SubQuery) : String :=
  match q.label with
  | some label => if label.isEmpty then "" else " " ++ label
  | none => ""

/-- the query in parentheses, with its name -/
def layout (q : SubQuery) : Layout :=
  .ofText "(" ++ q.statement.layout ++ .ofText ")" ++ .ofText q.labelText

def enclosedLayout (q : SubQuery) : Layout :=
  .ofText "(" ++ q.statement.layout ++ .ofText ")"

end SubQuery

/-- an operand for a column; a step and a negation have no values -/
def Operand.layout (column : String) : Operand → Layout
  | bind value => .ofDatum value
  | step target amount => .ofText ((step target amount).render column).text
  | func expression binds => Statement.layout ⟨expression, binds⟩
  | negation name => .ofText ((negation name).render column).text
  | sub query => query.layout

def assignmentLayout (column : String) (value : Operand) : Layout :=
  .ofText (quoteColumn column ++ " = ") ++ value.layout column

namespace Condition

/-- the right side, behind the operator -/
def sideLayouts (c : Condition) : List Layout :=
  let op := Layout.ofText c.trimmedOperator
  match c.kind, c.comparand with
  | .membership, .list items => [op, .ofText "( " ++ .join ", " (items.map .ofDatum) ++ .ofText " )"]
  | .membership, .operand (.sub query) => [op, query.enclosedLayout]
  | .membership, .operand value => [op, .ofText "( " ++ value.layout c.field ++ .ofText " )"]
  | .range, .list [low, high] =>
    [op ++ .ofText " " ++ .ofDatum low ++ .ofText " AND " ++ .ofDatum high]
  | .existence, .operand (.sub query) => [op, query.layout]
  | .other, .null => [op ++ .ofText " NULL"]
  | .other, .operand value => [op, value.layout c.field]
  | _, _ => []

/-- a condition; a list beside an operator of no special kind holds the values of the field -/
def layout (c : Condition) : Layout :=
  match c.kind, c.comparand with
  | .other, .list items => Statement.layout ⟨c.field, items⟩
  | _, _ => .join " " ((if c.field.isEmpty then [] else [.ofText c.field]) ++ c.sideLayouts)

/-- a condition with its connective -/
def linked (c : Condition) : Layout := .ofText (c.connective.text ++ " ") ++ c.layout

/-- the conditions that are not unset, all with their connectives or all but the first -/
def chainLayouts (keep : Bool) (conditions : List Condition) : List Layout :=
  match keep, visible conditions with
  | false, first :: rest => first.layout :: rest.map linked
  | _, shown => shown.map linked

def chainLayout (keep : Bool) (conditions : List Condition) : Layout :=
  .join " " (chainLayouts keep conditions)

end Condition

/-- one part, unless there is nothing in it -/
def partOf (l : Layout) : List Layout := if l.isEmpty then [] else [l]

def JoinTarget.layout : JoinTarget → Layout
  | table name => .ofText name
  | sub query => query.layout

namespace Draft

def joinLayouts (conditions : List (String × Condition)) (join : Join) : List Layout :=
  [.ofText (joinWords join.kind), join.target.layout] ++ (onParts join.condition).map .ofText
    ++ partOf (Condition.chainLayout true (conditionsOf conditions join.target.render.text))

def dataLayouts : Data → List Layout
  | .none => []
  | .values row =>
    (if row.isEmpty then [] else [.ofText ("(" ++ Text.joinWith ", " (row.map fun e => quoteColumn e.1) ++ ")")])
      ++ [.ofText "VALUES (" ++ .join ", " (row.map fun e => e.2.layout e.1) ++ .ofText ")"]
  | .set row => [.ofText "SET", .join ", " (row.map fun e => assignmentLayout e.1 e.2)]

def conditionLayouts (keyword : String) (conditions : List Condition) : List Layout :=
  (partOf (Condition.chainLayout false conditions)).map fun body => .ofText (keyword ++ " ") ++ body

/-- what a column is assigned when the row is there: its own value or the one that was to be inserted -/
def duplicateLayout (inserted : Row) (entry : String × Option Operand) : Layout :=
  match entry.2.or (inserted.lookup entry.1) with
  | some value => assignmentLayout entry.1 value
  | none => []

def duplicateLayouts (d : Draft) : Data → List Layout
  | .values inserted =>
    match d.onDuplicate with
    | none => []
    | some dup =>
      let insertId := dup.insertId.toList.map fun id => Layout.ofText (id ++ "=LAST_INSERT_ID (" ++ id ++ ")")
      let columns := if dup.columns.isEmpty then [] else [.join ", " (dup.columns.map (duplicateLayout inserted))]
      if (insertId ++ columns).isEmpty then []
      else [.ofText "ON DUPLICATE KEY UPDATE", .join ", " (insertId ++ columns)]
  | _ => []

/-- the parts of a statement in order -/
def partLayouts (d : Draft) (head : List String) (data : Data) : List Layout :=
  head.map .ofText ++ d.joins.flatMap (joinLayouts d.joinConditions) ++ dataLayouts data
    ++ conditionLayouts "WHERE" d.wheres ++ (groupSection d.groups).parts.map .ofText
    ++ conditionLayouts "HAVING" d.havings ++ (orderSection d.orders).parts.map .ofText
    ++ (limitSection d.limit).parts.map .ofText ++ d.duplicateLayouts data ++ (lockSection d.lock).parts.map .ofText

/-- the statement of a draft with its values in their places; without a table there is none -/
def layout (d : Draft) (command : Command) : Layout :=
  match d.target with
  | .ok table => .join " " (d.partLayouts (command.head d table) command.data)
  | .error _ => []

end Draft

/-! ## Callers' texts -/

/-- a sub-query whose text has placeholders for its values, and whose name is quiet -/
structure SubQuery.Tidy (q : SubQuery) : Prop where
  statement : q.statement.Aligned
  label : ∀ label ∈ q.label, Quiet label

/-- the texts of an operand at a column are quiet, but for the placeholders of its own values -/
def Operand.Tidy (column : String) : Operand → Prop
  | bind _ => True
  | step target _ => Quiet (quoteColumn (target.getD column))
  | func expression binds => Statement.Aligned ⟨expression, binds⟩
  | negation (some name) => Quiet name
  | negation none => Quiet (quoteColumn column)
  | sub query => query.Tidy

/-- the texts of a condition, as far as they are written -/
def Condition.Tidy (c : Condition) : Prop :=
  match c.kind, c.comparand with
  | _, .unset => True
  | .other, .list items => Statement.Aligned ⟨c.field, items⟩
  | .membership, .operand (.sub query) => Quiet c.field ∧ Quiet c.trimmedOperator ∧ query.statement.Aligned
  | _, .operand value => Quiet c.field ∧ Quiet c.trimmedOperator ∧ value.Tidy c.field
  | _, _ => Quiet c.field ∧ Quiet c.trimmedOperator

def JoinTarget.Tidy : JoinTarget → Prop
  | table name => Quiet name
  | sub query => query.Tidy

/-- the names that a caller gave and that stand in the head -/
def Command.names (d : Draft) (table : String) : Command → List String
  | select => [d.columns, table]
  | delete _ => table :: if d.joins.isEmpty then [] else [Draft.targetName table]
  | _ => [table]

structure OnDuplicate.Tidy (dup : OnDuplicate) : Prop where
  insertId : ∀ id ∈ dup.insertId, Quiet id
  columns : ∀ e ∈ dup.columns, Quiet (quoteColumn e.1)
  values : ∀ e ∈ dup.columns, ∀ value ∈ e.2, value.Tidy e.1

/-- every text that a caller wrote, as it stands in the statement, is closed and has placeholders for its own values
only -/
structure Draft.Tidy (d : Draft) (command : Command) : Prop where
  names : ∀ table, d.target = .ok table → ∀ name ∈ command.names d table, Quiet name
  targets : ∀ j ∈ d.joins, j.target.Tidy
  joins : ∀ j ∈ d.joins, Quiet j.condition
  joinConditions : ∀ j ∈ d.joins, ∀ c ∈ conditionsOf d.joinConditions j.target.render.text, c.Tidy
  wheres : ∀ c ∈ d.wheres, c.Tidy
  havings : ∀ c ∈ d.havings, c.Tidy
  groups : ∀ g ∈ d.groups, Quiet g
  orders : ∀ o ∈ d.orders, Quiet o.1
  row : ∀ e ∈ command.row, Quiet (quoteColumn e.1) ∧ e.2.Tidy e.1
  duplicates : ∀ verb row, command = .insert verb row → ∀ dup ∈ d.onDuplicate, dup.Tidy

end SqlSession.Query
