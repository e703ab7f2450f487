/-
Texts as diagnostics show them: in double quotes, with escapes for what would be unreadable there.
-/
import SqlSession.Text.Concealed

namespace SqlSession.Text

/-- lower-case hexadecimal digits of a number without leading zeros -/
def hexadecimal (n : Nat) : String :=
  String.ofList (Nat.toDigits 16 n)

/-- one character between double quotes -/
def quotedChar (c : Char) : String :=
  match c with
  | '\x00' => "\\0"
  | '\t' => "\\t"
  | '\n' => "\\n"
  | '\r' => "\\r"
  | '"' => "\\\""
  | '\\' => "\\\\"
  | _ => if isConcealed c then "\\u\x7b" ++ hexadecimal c.toNat ++ "\x7d" else c.toString

/-- the text in double quotes; characters that print nothing are shown by number -/
def quoted (s : String) : String :=
  "\"" ++ String.join (s.toList.map quotedChar) ++ "\""

/-- the items in brackets, separated by commas -/
def bracketed (items : List String) : String :=
  "[" ++ ", ".intercalate items ++ "]"

end SqlSession.Text
