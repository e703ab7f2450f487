/-
What a connection can find out about tables.
-/
import SqlSession.Schema
import SqlSession.Session.Bound

namespace SqlSession.Op

open Query (Clause Comparand)

/-- the columns of a table, named in the case of the connection -/
def columns (table : String) : Op (List Schema.Column) := do
  let rows ← query ("SHOW COLUMNS FROM " ++ Schema.quotedTable (← get).config.tablePrefix table) none
  let mode := (← get).fieldCase
  pure (rows.records.map (Schema.Column.ofRecord mode))

/-- the tables of a database, by default the current one, whose names begin with the prefix -/
def tables (database : Option String) : Op (List String) := do
  let text := match database with
    | some name => "SHOW TABLES FROM `" ++ name ++ "`"
    | none => "SHOW TABLES"
  let rows ← query text none
  let start := (← get).config.tablePrefix.toList
  let names := rows.records.filterMap fun r => (r.at? 0).bind Datum.plain?
  pure (names.filter fun name => start.isPrefixOf name.toList)

/-- whether as many tables are found as are named, each name with the prefix -/
def tablesExist (tables : List String) : Op Bool := do
  let c ← get
  if tables.isEmpty then throw (.invalidArgument "table_exists needs at least one table")
  let names := tables.map fun table => Datum.text (c.config.tablePrefix ++ table)
  modify Connection.clearDraft
  record (.table "information_schema.tables")
  record (.fields ["table_name"])
  record (.filter ⟨.and, "table_schema", "=", .operand (.bind (.text c.config.database))⟩)
  record (.filterIn "table_name" (.list names))
  record .totalCount
  record (.limit ⟨none, names.length⟩)
  discard (select false none)
  pure ((← get).totalCount == names.length)

end SqlSession.Op
