/-
Values written out in a statement.

Texts stand in single quotes with slashes in front of quotes and backslashes, numbers stand bare, bytes are written in
hexadecimal.
-/
import SqlSession.Datum
import SqlSession.Text.Case

namespace SqlSession

/-- one character between quotes: a backslash in front of quotes and backslashes, and `\0` for the null character -/
def slashed (c : Char) : List Char :=
  if c = '\\' ∨ c = '\'' ∨ c = '"' then ['\\', c]
  else if c = '\x00' then ['\\', '0']
  else [c]

def addSlashes (s : String) : String :=
  String.ofList (s.toList.flatMap slashed)

namespace Datum

/-- two upper-case hexadecimal digits -/
def byteText (b : UInt8) : String :=
  Text.asciiUpper (String.ofList [Nat.digitChar (b.toNat / 16), Nat.digitChar (b.toNat % 16)])

def quotedText (s : String) : String :=
  "'" ++ addSlashes s ++ "'"

/-- the value as it would stand in a statement -/
def literal : Datum → String
  | int value => toString value
  | real value => Decimal.text numberStyle value
  | bool value => if value then "1" else "0"
  | null => "NULL"
  | text value => quotedText value
  | timestamp value => "'" ++ value.text " " ++ value.fractionText ++ "'"
  | json document => quotedText document.render
  | blob bytes => "X'" ++ String.join (bytes.map byteText) ++ "'"

end Datum

end SqlSession
