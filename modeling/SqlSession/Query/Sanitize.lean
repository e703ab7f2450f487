/-
Texts of ORDER BY and GROUP BY, cleaned of characters that have no place there.

Each clause keeps the characters of its set and drops the rest. The sets compare letters without their case, so the
long s and the Kelvin sign pass as letters. Backquoted table qualifiers in ORDER BY take the table prefix.
-/
import SqlSession.Query.Operand

namespace SqlSession.Query.Sanitize

/-- a letter A to Z in any case, a digit, or one of the marks; the long s and the Kelvin sign fold to letters -/
def isKept (marks : List Char) (c : Char) : Bool :=
  c.isAlphanum || c == 'ſ' || c == '\u212a' || marks.contains c

def keep (marks : List Char) (s : String) : List Char :=
  s.toList.filter (isKept marks)

/-- marks of an ORDER BY expression -/
def orderMarks : List Char := [' ', '-', '.', '(', ')', ',', '_', '`', '*', '\'', '"']

/-- marks of a value in a custom order -/
def valueMarks : List Char := [' ', '-', '.', '(', ')', ',', '_', '`']

/-- marks of a GROUP BY expression -/
def groupMarks : List Char := ['-', '.', '(', ')', ',', '_', '*', ' ', '<', '>', '=', '!']

/-- characters of a table qualifier in backticks -/
def isQualifier (c : Char) : Bool :=
  c.isAlphanum || c == '_' || c == '`'

/-- whether the characters of a qualifier lead up to a point -/
def leadsToPoint (cs : List Char) : Bool :=
  (cs.dropWhile isQualifier).head? == some '.'

/-- the characters with the prefix behind the first backtick of each qualifier; `inside` from there to its point -/
def qualify (pre : List Char) (inside : Bool) : List Char → List Char
  | [] => []
  | c :: cs =>
    if inside then c :: qualify pre (c != '.') cs
    else if c == '`' && leadsToPoint cs then c :: (pre ++ qualify pre true cs)
    else c :: qualify pre false cs

/-- an ORDER BY field -/
def orderField (tablePrefix field : String) : String :=
  String.ofList (qualify tablePrefix.toList false (keep orderMarks field))

/-- a value of a custom order; characters beyond ASCII stay -/
def orderValue (value : String) : String :=
  String.ofList (value.toList.filter fun c => 0x80 ≤ c.toNat || isKept valueMarks c)

/-- a GROUP BY field -/
def groupField (field : String) : String :=
  Text.trimmed (String.ofList (keep groupMarks field))

end SqlSession.Query.Sanitize
