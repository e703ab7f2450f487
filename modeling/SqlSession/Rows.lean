/-
What a server answers to a statement: rows, and counts.

Every row keeps the names of its columns. A name stands for the last column that is called so, or, if none is, for the
first that is called so but for the case of ASCII letters.
-/
import SqlSession.Datum
import SqlSession.Text.Case

namespace SqlSession

/-- the values of a row and the names of its columns, which need not be as many -/
structure Record where
  columns : List String
  values : List Datum
  deriving Repr

namespace Record

/-- the position of a column -/
def index? (r : Record) (name : String) : Option Nat :=
  match (r.columns.zipIdx.filter fun entry => entry.1 == name).getLast? with
  | some entry => some entry.2
  | none => r.columns.findIdx? fun column => Text.sameIgnoringAsciiCase column name

def at? (r : Record) (index : Nat) : Option Datum :=
  r.values[index]?

def get? (r : Record) (name : String) : Option Datum :=
  (r.index? name).bind r.at?

/-- the text of a column's value without quotes -/
def plain? (r : Record) (name : String) : Option String :=
  (r.get? name).bind Datum.plain?

/-- columns with their values, as far as there are both -/
def pairs (r : Record) : List (String × Datum) :=
  r.columns.zip r.values

end Record

/-- rows, and the names of the columns for rows still to come -/
structure RowSet where
  columns : Option (List String)
  records : List Record
  deriving Repr

namespace RowSet

def empty : RowSet := ⟨none, []⟩

def size (s : RowSet) : Nat := s.records.length

def withColumns (s : RowSet) (columns : List String) : RowSet :=
  { s with columns := some columns }

/-- one more row of the columns named so far; it is dropped if none have been named -/
def pushValues (s : RowSet) (values : List Datum) : RowSet :=
  match s.columns with
  | some columns => { s with records := s.records ++ [⟨columns, values⟩] }
  | none => s

/-- one more row with its own columns, which name those of the set if they have no names yet -/
def push (s : RowSet) (r : Record) : RowSet :=
  ⟨some (s.columns.getD r.columns), s.records ++ [r]⟩

def ofValues (columns : List String) (rows : List (List Datum)) : RowSet :=
  rows.foldl pushValues ⟨some columns, []⟩

def first? (s : RowSet) : Option Record := s.records.head?

/-- the values of a column; rows without it are passed over -/
def column (s : RowSet) (name : String) : List Datum :=
  s.records.filterMap fun r => r.get? name

end RowSet

/-- the rows and counts that a statement comes back with -/
structure Reply where
  rows : RowSet
  affected : Nat
  insertId : Nat
  deriving Repr

namespace Reply

def ofAffected (n : Nat) : Reply := ⟨.empty, n, 0⟩

def ofRows (rows : RowSet) : Reply := ⟨rows, 0, 0⟩

end Reply

end SqlSession
