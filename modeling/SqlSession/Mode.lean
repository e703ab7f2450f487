/-
What a session is switched between: how it writes the names of columns, and how it locks tables.
-/
import SqlSession.Text.Case

namespace SqlSession

/-- the case in which names of columns are given out -/
inductive FieldCase where
  | natural
  | upper
  | lower
  deriving DecidableEq, Repr

namespace FieldCase

def all : List FieldCase := [natural, upper, lower]

def name : FieldCase → String
  | natural => "natural"
  | upper => "upper"
  | lower => "lower"

def ofName? (s : String) : Option FieldCase :=
  all.find? fun mode => mode.name == s

/-- a name in the case of this mode -/
def apply : FieldCase → String → String
  | natural, s => s
  | upper, s => Text.upper s
  | lower, s => Text.lower s

end FieldCase

/-- what other sessions may still do with a locked table -/
inductive LockMethod where
  | read
  | write
  deriving DecidableEq, Repr

namespace LockMethod

def all : List LockMethod := [read, write]

/-- the word behind a table's name -/
def text : LockMethod → String
  | read => "READ"
  | write => "WRITE"

def ofText? (s : String) : Option LockMethod :=
  all.find? fun mode => mode.text == s

end LockMethod

/-- a name as it may be typed: lower-case, or in any case if case is ignored -/
def ofTyped? {α : Type} (name : α → String) (options : List α) (ignoreCase : Bool) (s : String) : Option α :=
  options.find? fun option =>
    let name := Text.asciiLower (name option)
    if ignoreCase then Text.sameIgnoringAsciiCase name s else name == s

end SqlSession
