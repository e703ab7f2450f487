/-
Statements: a text with placeholders and the values for them, in order.

A statement travels to the server as it is. `filled` is the text people read in logs and errors, with each placeholder
replaced by its value as far as there are values.
-/
import SqlSession.Literal
import SqlSession.Scan

namespace SqlSession

/-- a text and the values for its placeholders -/
structure Statement where
  text : String
  binds : List Datum
  deriving Repr, Inhabited

namespace Scan

/-- the characters with the values in place of the placeholders met from a state on -/
def fill : State → List Datum → List Char → List Char
  | _, _, [] => []
  | _, [], cs => cs
  | s, value :: values, c :: cs =>
    if isPlaceholder s c then value.literal.toList ++ fill (step s c) values cs
    else c :: fill (step s c) (value :: values) cs

end Scan

/-- placeholders outside quotes and comments -/
def placeholders (text : String) : Nat :=
  Scan.count .plain text.toList

/-- the text with the values in place of its first placeholders -/
def fill (text : String) (values : List Datum) : String :=
  String.ofList (Scan.fill .plain values text.toList)

namespace Statement

/-- a text that takes no values -/
def ofText (text : String) : Statement := ⟨text, []⟩

def filled (s : Statement) : String := fill s.text s.binds

def placeholders (s : Statement) : Nat := SqlSession.placeholders s.text

def append (s t : Statement) : Statement := ⟨s.text ++ t.text, s.binds ++ t.binds⟩

instance : Append Statement := ⟨append⟩

/-- the statements in order with `separator` between the texts of neighbours -/
def join (separator : String) (parts : List Statement) : Statement :=
  ⟨Text.joinWith separator (parts.map Statement.text), parts.flatMap Statement.binds⟩

end Statement

end SqlSession
