/-
Drafts of statements: the clauses recorded for one logical query.

A draft holds one field for each family of clauses, so clauses of different families can be recorded in any order. Only
the table prefix survives `Draft.reset`.
-/
import SqlSession.Query.Condition

namespace SqlSession.Query

inductive JoinKind where
  | plain
  | left
  | right
  | outer
  | inner
  | leftOuter
  | rightOuter
  | natural
  deriving DecidableEq, Repr

namespace JoinKind

def all : List JoinKind := [plain, left, right, outer, inner, leftOuter, rightOuter, natural]

/-- the words in front of JOIN -/
def text : JoinKind → String
  | plain => ""
  | left => "LEFT"
  | right => "RIGHT"
  | outer => "OUTER"
  | inner => "INNER"
  | leftOuter => "LEFT OUTER"
  | rightOuter => "RIGHT OUTER"
  | natural => "NATURAL"

def ofText? (s : String) : Option JoinKind :=
  all.find? fun kind => kind.text == s

end JoinKind

/-- what a query is joined with -/
inductive JoinTarget where
  | table (name : String)
  | sub (query : SubQuery)
  deriving Repr

def JoinTarget.render : JoinTarget → Statement
  | table name => .ofText name
  | sub query => query.render

structure Join where
  kind : JoinKind
  target : JoinTarget
  condition : String
  deriving Repr

inductive Direction where
  | ascending
  | descending
  deriving DecidableEq, Repr

def Direction.text : Direction → String
  | ascending => "ASC"
  | descending => "DESC"

structure Limit where
  offset : Option Nat
  count : Nat
  deriving DecidableEq, Repr

/-- what an insert does when the row is there already -/
structure OnDuplicate where
  /-- columns and their values; without one the value being inserted is used again -/
  columns : List (String × Option Operand)
  /-- the column that the insert id is taken from -/
  insertId : Option String
  deriving Repr

/-- words that modify the verb of a statement -/
inductive Modifier where
  | all
  | distinct
  | distinctRow
  | highPriority
  | straightJoin
  | smallResult
  | bigResult
  | bufferResult
  | cache
  | noCache
  | calcFoundRows
  | lowPriority
  | ignore
  | quick
  deriving DecidableEq, Repr

namespace Modifier

def every : List Modifier :=
  [all, distinct, distinctRow, highPriority, straightJoin, smallResult, bigResult, bufferResult, cache, noCache,
   calcFoundRows, lowPriority, ignore, quick]

def text : Modifier → String
  | all => "ALL"
  | distinct => "DISTINCT"
  | distinctRow => "DISTINCTROW"
  | highPriority => "HIGH_PRIORITY"
  | straightJoin => "STRAIGHT_JOIN"
  | smallResult => "SQL_SMALL_RESULT"
  | bigResult => "SQL_BIG_RESULT"
  | bufferResult => "SQL_BUFFER_RESULT"
  | cache => "SQL_CACHE"
  | noCache => "SQL_NO_CACHE"
  | calcFoundRows => "SQL_CALC_FOUND_ROWS"
  | lowPriority => "LOW_PRIORITY"
  | ignore => "IGNORE"
  | quick => "QUICK"

def ofText? (s : String) : Option Modifier :=
  every.find? fun modifier => modifier.text == s

end Modifier

/-- locks that a statement takes on the rows it reads -/
inductive RowLock where
  | forUpdate
  | shareMode
  deriving DecidableEq, Repr

namespace RowLock

def text : RowLock → String
  | forUpdate => "FOR UPDATE"
  | shareMode => "LOCK IN SHARE MODE"

def ofText? (s : String) : Option RowLock :=
  [forUpdate, shareMode].find? fun lock => lock.text == s

end RowLock

structure Draft where
  tablePrefix : String
  table : Option String
  columns : String
  joins : List Join
  /-- further conditions of joins, each with the prefixed name of the joined table -/
  joinConditions : List (String × Condition)
  wheres : List Condition
  havings : List Condition
  groups : List String
  /-- expressions, each once, and their directions -/
  orders : List (String × Option Direction)
  limit : Option Limit
  onDuplicate : Option OnDuplicate
  modifiers : List Modifier
  lock : Option RowLock
  deriving Repr

namespace Draft

/-- the draft with no clause -/
def fresh (tablePrefix : String) : Draft where
  tablePrefix
  table := none
  columns := "*"
  joins := []
  joinConditions := []
  wheres := []
  havings := []
  groups := []
  orders := []
  limit := none
  onDuplicate := none
  modifiers := []
  lock := none

/-- no clause is left, the prefix is -/
def reset (d : Draft) : Draft := fresh d.tablePrefix

/-- whether any clause has been recorded -/
def isDirty (d : Draft) : Bool :=
  d.table.isSome || d.columns != "*" || !d.joins.isEmpty || !d.joinConditions.isEmpty || !d.wheres.isEmpty
    || !d.havings.isEmpty || !d.groups.isEmpty || !d.orders.isEmpty || d.limit.isSome || d.onDuplicate.isSome
    || !d.modifiers.isEmpty || d.lock.isSome

/-- whether any WHERE condition is not unset -/
def hasEffectiveWhere (d : Draft) : Bool :=
  d.wheres.any fun c => !c.isUnset

/-- whether the count of rows without the limit is asked for -/
def wantsTotalCount (d : Draft) : Bool :=
  d.modifiers.contains .calcFoundRows

/-- a table name with the prefix, unless it names its schema -/
def prefixed (d : Draft) (table : String) : String :=
  if d.tablePrefix.isEmpty || table.toList.contains '.' then table else d.tablePrefix ++ table

end Draft

end SqlSession.Query
