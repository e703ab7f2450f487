/-
From drafts to statements.

A statement is its head and the sections of its draft in a fixed order: joins with their conditions, data, WHERE, GROUP
BY, HAVING, ORDER BY, LIMIT, ON DUPLICATE KEY UPDATE, row lock. Every section is a function of its own clauses; it gives
its parts, which are separated by single spaces, and its values in the order of their placeholders.
-/
import SqlSession.Query.Clause

namespace SqlSession.Query

/-- parts of a statement's text and the values for their placeholders -/
structure Section where
  parts : List String
  binds : List Datum
  deriving Repr

namespace Section

def none : Section := ⟨[], []⟩

def ofParts (parts : List String) : Section := ⟨parts, []⟩

/-- one part -/
def ofStatement (s : Statement) : Section := ⟨[s.text], s.binds⟩

/-- one part unless its text is empty; its values stay -/
def ofBody (s : Statement) : Section := ⟨if s.text.isEmpty then [] else [s.text], s.binds⟩

def append (a b : Section) : Section := ⟨a.parts ++ b.parts, a.binds ++ b.binds⟩

instance : Append Section := ⟨append⟩

/-- the statement with one space between parts -/
def statement (s : Section) : Statement := ⟨Text.joinWith " " s.parts, s.binds⟩

end Section

/-- what an insert does when a row with the same key is there -/
inductive InsertVerb where
  | insert
  | replace
  deriving DecidableEq, Repr

def InsertVerb.text : InsertVerb → String
  | insert => "INSERT"
  | replace => "REPLACE"

namespace Draft

/-! ## Sections -/

/-- the prefixed table without blanks around its name -/
def target (d : Draft) : Except Error String :=
  match d.table.map Text.trimmed with
  | some table => if table.isEmpty then .error .tableNotSet else .ok (d.prefixed table)
  | none => .error .tableNotSet

/-- a join condition that brings its own keyword -/
def namesUsing (condition : String) : Bool :=
  Text.contains (Text.lower condition) "using"

def joinWords (kind : JoinKind) : String :=
  match kind with
  | .plain => "JOIN"
  | kind => kind.text ++ " JOIN"

def onParts (condition : String) : List String :=
  if condition.isEmpty then []
  else if namesUsing condition then [condition]
  else ["on", condition]

/-- further conditions recorded for a joined table -/
def conditionsOf (conditions : List (String × Condition)) (table : String) : List Condition :=
  (conditions.filter fun entry => entry.1 == table).map Prod.snd

def joinSection (conditions : List (String × Condition)) (join : Join) : Except Error Section := do
  let target := join.target.render
  let chain ← Condition.chain true (conditionsOf conditions target.text)
  .ok (⟨[joinWords join.kind, target.text] ++ onParts join.condition, target.binds⟩ ++ .ofBody chain)

def joinSections (conditions : List (String × Condition)) : List Join → Except Error Section
  | [] => .ok .none
  | join :: rest => do
    let first ← joinSection conditions join
    .ok (first ++ (← joinSections conditions rest))

/-- conditions behind their keyword, which is left out with an empty text -/
def conditionSection (keyword : String) (conditions : List Condition) : Except Error Section := do
  let body ← Condition.chain false conditions
  .ok (.ofBody (if body.text.isEmpty then body else .ofText (keyword ++ " ") ++ body))

def groupSection (groups : List String) : Section :=
  if groups.isEmpty then .none else .ofParts ["GROUP BY " ++ Text.joinWith ", " groups]

def orderText (entry : String × Option Direction) : String :=
  match entry.2 with
  | some direction => entry.1 ++ " " ++ direction.text
  | none => entry.1

def orderSection (orders : List (String × Option Direction)) : Section :=
  if orders.isEmpty then .none else .ofParts ["ORDER BY " ++ Text.joinWith ", " (orders.map orderText)]

def limitSection : Option Limit → Section
  | none => .none
  | some ⟨none, count⟩ => .ofParts ["LIMIT " ++ toString count]
  | some ⟨some offset, count⟩ => .ofParts ["LIMIT " ++ toString offset ++ ", " ++ toString count]

def lockSection : Option RowLock → Section
  | none => .none
  | some lock => .ofParts [lock.text]

/-- columns and values of an inserted row -/
def valuesSection (row : Row) : Section :=
  let columns := if row.isEmpty then [] else ["(" ++ Text.joinWith ", " (row.map fun e => quoteColumn e.1) ++ ")"]
  .ofParts columns ++ .ofStatement (.ofText "VALUES (" ++ row.values ++ .ofText ")")

/-- assignments of an update -/
def setSection (row : Row) : Section :=
  .ofParts ["SET"] ++ .ofStatement row.assignments

/-- the value for a column of ON DUPLICATE: its own, or the one being inserted -/
def duplicateValue (inserted : Row) (entry : String × Option Operand) : Except Error (String × Operand) :=
  match entry.2, inserted.lookup entry.1 with
  | some value, _ => .ok (entry.1, value)
  | none, some value => .ok (entry.1, value)
  | none, none => .error (.invalidArgument ("on duplicate column `" ++ entry.1 ++ "` has no inserted value"))

def duplicateSection (inserted : Row) : Option OnDuplicate → Except Error Section
  | none => .ok .none
  | some dup => do
    let row : Row ← dup.columns.mapM (duplicateValue inserted)
    let insertId := dup.insertId.toList.map fun id => Statement.ofText (id ++ "=LAST_INSERT_ID (" ++ id ++ ")")
    let pieces := insertId ++ if row.isEmpty then [] else [row.assignments]
    if pieces.isEmpty then .ok .none
    else .ok (.ofParts ["ON DUPLICATE KEY UPDATE"] ++ .ofStatement (.join ", " pieces))

/-! ## Statements -/

/-- what a statement carries besides its clauses -/
inductive Data where
  | none
  | values (row : Row)
  | set (row : Row)

def dataSection : Data → Section
  | .none => .none
  | .values row => valuesSection row
  | .set row => setSection row

/-- only an insert can find its row there already -/
def duplicateSectionOf (d : Draft) : Data → Except Error Section
  | .values row => duplicateSection row d.onDuplicate
  | _ => .ok .none

/-- the head of a statement and the sections behind it -/
def assemble (d : Draft) (head : List String) (data : Data) : Except Error Statement := do
  let joins ← joinSections d.joinConditions d.joins
  let wheres ← conditionSection "WHERE" d.wheres
  let havings ← conditionSection "HAVING" d.havings
  let duplicate ← d.duplicateSectionOf data
  .ok (Section.ofParts head ++ joins ++ dataSection data ++ wheres ++ groupSection d.groups ++ havings
    ++ orderSection d.orders ++ limitSection d.limit ++ duplicate ++ lockSection d.lock).statement

def modifierWords (d : Draft) : List String :=
  d.modifiers.map Modifier.text

def compileSelect (d : Draft) : Except Error Statement := do
  let table ← d.target
  d.assemble (["SELECT"] ++ d.modifierWords ++ [d.columns, "FROM", table]) .none

def compileInsert (d : Draft) (verb : InsertVerb) (row : Row) : Except Error Statement := do
  let table ← d.target
  d.assemble ([verb.text] ++ d.modifierWords ++ ["INTO", table]) (.values row)

/-- a change of a whole table has to be forced -/
def compileUpdate (d : Draft) (row : Row) (force : Bool) : Except Error Statement := do
  if !force && !d.hasEffectiveWhere then .error (.emptyCondition "update")
  else if row.isEmpty then .error (.invalidArgument "update needs at least one column")
  else
    let table ← d.target
    d.assemble (["UPDATE"] ++ d.modifierWords ++ [table]) (.set row)

/-- the name by which a deletion from several tables calls its target: the last word of the table -/
def targetName (table : String) : String :=
  (Text.words table).getLast?.getD table

/-- the clearing of a whole table has to be forced -/
def compileDelete (d : Draft) (force : Bool) : Except Error Statement := do
  if !force && !d.hasEffectiveWhere then .error (.emptyCondition "delete")
  else
    let table ← d.target
    let name := if d.joins.isEmpty then [] else [targetName table]
    d.assemble (["DELETE"] ++ d.modifierWords ++ name ++ ["FROM", table]) .none

end Draft

end SqlSession.Query
