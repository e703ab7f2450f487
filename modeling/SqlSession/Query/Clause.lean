/-
Clauses, and what recording them does to a draft.

`Draft.record` checks a clause and records it; a clause that is refused leaves the draft as it was. Scopes are named
lists of clauses, looked up in a `Registry`; `Draft.recordIn` records them one by one and keeps those before the first
that is refused.
-/
import SqlSession.Query.Draft
import SqlSession.Query.Sanitize

namespace SqlSession.Query

inductive Clause where
  | table (name : String)
  | fields (columns : List String)
  | filter (condition : Condition)
  | having (condition : Condition)
  | join (target : JoinTarget) (condition kind : String)
  | joinFilter (table : String) (condition : Condition)
  | order (field direction : String)
  /-- order by the position of a field's value in a list -/
  | orderList (field : String) (values : List String) (direction : String)
  /-- order by whether a field matches a pattern -/
  | orderPattern (field pattern direction : String)
  | group (field : String)
  | limit (bounds : Limit)
  | onDuplicate (columns : List String)
  | onDuplicateSet (column : String) (value : Operand)
  | onDuplicateInsertId (column : String)
  | option (name : String)
  | totalCount
  | lock (mode : RowLock)
  | scope (name : String) (args : List Datum)
  deriving Repr

namespace Clause

/-- a field in a list or a sub-query -/
def filterIn (field : String) (comparand : Comparand) : Clause :=
  .filter ⟨.and, field, "in", comparand⟩

def filterNotIn (field : String) (comparand : Comparand) : Clause :=
  .filter ⟨.and, field, "not in", comparand⟩

def filterBetween (field : String) (low high : Datum) : Clause :=
  .filter ⟨.and, field, "between", .list [low, high]⟩

def filterNotBetween (field : String) (low high : Datum) : Clause :=
  .filter ⟨.and, field, "not between", .list [low, high]⟩

def filterNull (field : String) : Clause :=
  .filter ⟨.and, field, "IS", .null⟩

def filterNotNull (field : String) : Clause :=
  .filter ⟨.and, field, "IS NOT", .null⟩

def filterExists (query : SubQuery) : Clause :=
  .filter ⟨.and, "", "exists", .operand (.sub query)⟩

def filterNotExists (query : SubQuery) : Clause :=
  .filter ⟨.and, "", "not exists", .operand (.sub query)⟩

/-- an expression and the values for its placeholders -/
def filterRaw (expression : String) (binds : List Datum) : Clause :=
  .filter ⟨.and, expression, "", .list binds⟩

end Clause

/-- a direction in any case, with blanks around it -/
def Direction.read (s : String) : Except Error Direction :=
  let word := Text.upper (Text.trimmed s)
  if word = "ASC" then .ok ascending
  else if word = "DESC" then .ok descending
  else .error (.orderDirection word)

namespace Draft

/-- an expression with its direction; one recorded before keeps its place -/
def putOrder (expression : String) (direction : Option Direction) :
    List (String × Option Direction) → List (String × Option Direction)
  | [] => [(expression, direction)]
  | entry :: rest =>
    if entry.1 = expression then (expression, direction) :: rest
    else entry :: putOrder expression direction rest

def withOrder (d : Draft) (expression : String) (direction : Option Direction) : Draft :=
  { d with orders := putOrder expression direction d.orders }

def isRandom (field : String) : Bool :=
  Text.sameIgnoringAsciiCase (String.ofList (field.toList.filter (· != ' '))) "rand()"

/-- the field of ORDER BY; a random order has no direction -/
def recordOrder (d : Draft) (field : String) (direction : Direction) : Draft :=
  let field := Sanitize.orderField d.tablePrefix field
  if isRandom field then d.withOrder "rand()" none else d.withOrder field (some direction)

def orderListText (d : Draft) (field : String) (values : List String) : String :=
  "FIELD (" ++ Sanitize.orderField d.tablePrefix field ++ ", \""
    ++ Text.joinWith "\",\"" (values.map Sanitize.orderValue) ++ "\")"

def orderPatternText (d : Draft) (field pattern : String) : String :=
  Sanitize.orderField d.tablePrefix field ++ " REGEXP '" ++ addSlashes pattern ++ "'"

def duplicates (d : Draft) : OnDuplicate :=
  d.onDuplicate.getD ⟨[], none⟩

def withModifier (d : Draft) (modifier : Modifier) : Draft :=
  if d.modifiers.contains modifier then d else { d with modifiers := d.modifiers ++ [modifier] }

/-- an option by its words in any case and spacing: a row lock or a modifier -/
def recordOption (d : Draft) (name : String) : Except Error Draft :=
  let words := Text.upper (Text.singleSpaced name)
  match RowLock.ofText? words, Modifier.ofText? words with
  | some lock, _ => .ok { d with lock := some lock }
  | none, some modifier => .ok (d.withModifier modifier)
  | none, none => .error (.wrongOption words)

def recordJoin (d : Draft) (target : JoinTarget) (condition kind : String) : Except Error Draft :=
  let words := Text.upper (Text.trimmed kind)
  match JoinKind.ofText? words with
  | none => .error (.joinKind words)
  | some kind =>
    let target := match target with
      | .table name => .table (d.prefixed name)
      | .sub query => .sub query
    .ok { d with joins := d.joins ++ [⟨kind, target, condition⟩] }

/-- the draft with one more clause; a scope is unknown where there is no registry -/
def record (d : Draft) : Clause → Except Error Draft
  | .table name => .ok { d with table := some name }
  | .fields columns => .ok { d with columns := if columns.isEmpty then "*" else Text.joinWith "," columns }
  | .filter condition => .ok { d with wheres := d.wheres ++ [condition] }
  | .having condition => .ok { d with havings := d.havings ++ [condition] }
  | .join target condition kind => d.recordJoin target condition kind
  | .joinFilter table condition =>
    .ok { d with joinConditions := d.joinConditions ++ [(d.prefixed table, condition)] }
  | .order field direction => do .ok (d.recordOrder field (← Direction.read direction))
  | .orderList field values direction => do
    let direction ← Direction.read direction
    .ok (d.withOrder (d.orderListText field values) (some direction))
  | .orderPattern field pattern direction => do
    let direction ← Direction.read direction
    .ok (d.withOrder (d.orderPatternText field pattern) (some direction))
  | .group field =>
    let field := Sanitize.groupField field
    .ok (if field.isEmpty then d else { d with groups := d.groups ++ [field] })
  | .limit bounds => .ok { d with limit := some bounds }
  | .onDuplicate columns =>
    let fresh := columns.map fun column => (column, none)
    .ok { d with onDuplicate := some { d.duplicates with columns := d.duplicates.columns ++ fresh } }
  | .onDuplicateSet column value =>
    let columns := d.duplicates.columns ++ [(column, some value)]
    .ok { d with onDuplicate := some { d.duplicates with columns := columns } }
  | .onDuplicateInsertId column =>
    .ok { d with onDuplicate := some { d.duplicates with insertId := some column } }
  | .option name => d.recordOption name
  | .totalCount => .ok (d.withModifier .calcFoundRows)
  | .lock mode => .ok { d with lock := some mode }
  | .scope name _ => .error (.unknownScope name)

/-- clauses in order up to the first that is refused or could not be made -/
def recordAll (d : Draft) : List (Except Error Clause) → Draft × Except Error Unit
  | [] => (d, .ok ())
  | .error e :: _ => (d, .error e)
  | .ok clause :: rest =>
    match d.record clause with
    | .error e => (d, .error e)
    | .ok d => recordAll d rest

end Draft

/-- a named bundle of clauses, made for the arguments it is applied to -/
abbrev Scope := List Datum → List (Except Error Clause)

/-- the scopes by name, and how many listeners hear of each statement -/
structure Registry where
  scopes : List (String × Scope)
  listeners : Nat

namespace Registry

def empty : Registry := ⟨[], 0⟩

def scope? (r : Registry) (name : String) : Option Scope := r.scopes.lookup name

/-- the registry with a scope, which replaces one of its name -/
def register (r : Registry) (name : String) (scope : Scope) : Registry :=
  { r with scopes := Json.insertField name scope r.scopes }

/-- the registry as diagnostics show it -/
def describe (r : Registry) : String :=
  "Registry \x7b scopes: " ++ Text.bracketed (r.scopes.map fun entry => Text.quoted entry.1) ++ ", listeners: "
    ++ toString r.listeners ++ " \x7d"

end Registry

namespace Draft

/-- the draft with one more clause, or with the clauses of a scope of the registry -/
def recordIn (registry : Option Registry) (d : Draft) : Clause → Draft × Except Error Unit
  | .scope name args =>
    match registry.bind fun r => r.scope? name with
    | none => (d, .error (.unknownScope name))
    | some scope => d.recordAll (scope args)
  | clause =>
    match d.record clause with
    | .error e => (d, .error e)
    | .ok d => (d, .ok ())

end Draft

end SqlSession.Query
