/-
Tables and columns as a server describes them.

`Binding.ofType` tells how values of a column are bound, by the name of its type. `expandTables` puts real names in
place of marked ones: an upper-case name between two pairs of underscores stands for the table of the prefix and that
name in lower case.
-/
import SqlSession.Mode
import SqlSession.Rows
import SqlSession.Text.Blank

namespace SqlSession.Schema

/-- the kind of value that a column takes -/
inductive Binding where
  | text
  | real
  | whole
  | bool
  deriving DecidableEq, Repr

namespace Binding

/-- a type's name in lower case up to its size or the first blank -/
def baseName (type : String) : String :=
  String.ofList ((Text.asciiLower type).toList.takeWhile fun c => c != '(' && !Text.isBlank c)

def startsWith (s start : String) : Bool :=
  start.toList.isPrefixOf s.toList

def holdsAny (s : String) (parts : List String) : Bool :=
  parts.any fun part => Text.contains s part

def ofType (type : String) : Binding :=
  let base := baseName type
  if startsWith base "set" || startsWith base "enum" then text
  else if holdsAny base ["double", "float", "decimal", "real", "numeric"] then real
  else if holdsAny base ["int", "serial", "bit"] then whole
  else if holdsAny base ["bool"] then bool
  else text

end Binding

/-! ## Names of tables -/

/-- characters of a marked name -/
def isMarkChar (c : Char) : Bool :=
  c.isUpper || c.isDigit || c == '_' || c == '-'

/-- the shortest name that is not empty and ends in front of two underscores; `seen` holds what was read of it, the
last character first -/
def nameFrom? (seen : List Char) : List Char → Option (List Char)
  | [] => none
  | c :: cs =>
    if !seen.isEmpty && ['_', '_'].isPrefixOf (c :: cs) then some seen.reverse
    else if isMarkChar c then nameFrom? (c :: seen) cs
    else none

/-- the name marked at the beginning of the characters -/
def marked? : List Char → Option (List Char)
  | '_' :: '_' :: cs => nameFrom? [] cs
  | _ => none

/-- the characters with marked names replaced; `skip` of them belong to a mark that was replaced already -/
def expandFrom (tablePrefix : List Char) : Nat → List Char → List Char
  | _, [] => []
  | skip + 1, _ :: cs => expandFrom tablePrefix skip cs
  | 0, c :: cs =>
    match marked? (c :: cs) with
    | some name => tablePrefix ++ name.map Char.toLower ++ expandFrom tablePrefix (name.length + 3) cs
    | none => c :: expandFrom tablePrefix 0 cs

/-- the statement with the names of tables in place of marked names -/
def expandTables (tablePrefix sql : String) : String :=
  String.ofList (expandFrom tablePrefix.toList 0 sql.toList)

/-- a table's name in backticks with the prefix, behind its schema if it is written with one -/
def quotedTable (tablePrefix table : String) : String :=
  let cs := table.toList
  let head := cs.takeWhile (· != '.')
  match cs.drop head.length with
  | [] => "`" ++ tablePrefix ++ table ++ "`"
  | _ :: name => "`" ++ String.ofList head ++ "`.`" ++ tablePrefix ++ String.ofList name ++ "`"

/-! ## Columns -/

/-- a column as the server describes it -/
structure Column where
  name : String
  type : String
  notNull : Bool
  fallback : Option String
  primary : Bool
  autoIncrement : Bool
  deriving DecidableEq, Repr

/-- whether a text is there and reads so in any case -/
def reads (word : String) (s : Option String) : Bool :=
  match s with
  | some s => Text.sameIgnoringAsciiCase s word
  | none => false

/-- the column that a row of a description tells of -/
def Column.ofRecord (mode : FieldCase) (r : Record) : Column :=
  let nullable := (r.plain? "Null").getD ""
  ⟨mode.apply ((r.plain? "Field").getD ""), (r.plain? "Type").getD "",
   nullable.isEmpty || Text.sameIgnoringAsciiCase nullable "no", r.plain? "Default",
   reads "pri" (r.plain? "Key"), reads "auto_increment" (r.plain? "Extra")⟩

end SqlSession.Schema
