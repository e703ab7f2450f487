/-
Compact text of JSON documents: no blanks, fields in the order of the document, numbers in their shortest form.
-/
import SqlSession.Json.Basic
import SqlSession.Decimal.Style
import SqlSession.Text.Quoted

namespace SqlSession.Json

/-- ties go to the even digit, whole numbers keep a point, an exponent is written from `1e+16` up and below `1e-5` -/
def numberStyle : Decimal.Style :=
  ⟨.even, some (-5, 16), true⟩

/-- one character of a text between its quotes -/
def escaped (c : Char) : String :=
  match c with
  | '"' => "\\\""
  | '\\' => "\\\\"
  | '\x08' => "\\b"
  | '\x0c' => "\\f"
  | '\n' => "\\n"
  | '\r' => "\\r"
  | '\t' => "\\t"
  | _ =>
    if c.toNat < 0x20 then "\\u00" ++ (if c.toNat < 0x10 then "0" else "") ++ Text.hexadecimal c.toNat
    else c.toString

/-- a text with its quotes -/
def textLiteral (s : String) : String :=
  "\"" ++ String.join (s.toList.map escaped) ++ "\""

mutual

def render : Json → String
  | null => "null"
  | bool value => if value then "true" else "false"
  | whole value => toString value
  | real value => Decimal.text numberStyle value
  | text value => textLiteral value
  | list items => "[" ++ renderItems items ++ "]"
  | record fields => "\x7b" ++ renderFields fields ++ "\x7d"

def renderItems : List Json → String
  | [] => ""
  | item :: rest => render item ++ renderMoreItems rest

def renderMoreItems : List Json → String
  | [] => ""
  | item :: rest => "," ++ render item ++ renderMoreItems rest

def renderFields : List (String × Json) → String
  | [] => ""
  | (name, value) :: rest => textLiteral name ++ ":" ++ render value ++ renderMoreFields rest

def renderMoreFields : List (String × Json) → String
  | [] => ""
  | (name, value) :: rest => "," ++ textLiteral name ++ ":" ++ render value ++ renderMoreFields rest

end

end SqlSession.Json
