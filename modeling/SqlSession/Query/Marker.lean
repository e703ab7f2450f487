/-
Operands written as JSON.

A record with one of the names `[I]`, `[F]` and `[N]` is a step, an expression or a negation; a document that is no
record is a value.
-/
import SqlSession.Query.Operand

namespace SqlSession.Query.Operand

/-- a whole number of 64 bits in a text, after blanks and plus signs -/
def amountOfText? (s : String) : Option Int :=
  let cs := (Text.trimmed s).toList.dropWhile (· == '+')
  let (negative, digits) := match cs with
    | '-' :: rest => (true, rest)
    | _ => (false, cs)
  if digits.isEmpty || !digits.all Char.isDigit then none
  else
    let n : Int := if negative then -Text.digitsValue digits else Text.digitsValue digits
    if FitsInt64 n then some n else none

/-- the number a step is written with -/
def amount? : Json → Option Int
  | .whole n => if FitsInt64 n then some n else none
  | .text s => amountOfText? s
  | _ => none

def stepOfJson (payload : Json) : Except Error Operand :=
  match amount? payload with
  | some n => .ok (increase n)
  | none => .error (.invalidArgument ("increment step must be a number, got " ++ payload.render))

/-- an expression alone, or a list of an expression and one value or a list of values -/
def funcOfJson : Json → Except Error Operand
  | .text expression => .ok (func expression [])
  | .list (.text expression :: rest) =>
    .ok (func expression (match rest with
      | .list values :: _ => values.map Datum.ofJson
      | .null :: _ => []
      | single :: _ => [Datum.ofJson single]
      | [] => []))
  | .list _ => .error (.invalidArgument "function marker needs an expression")
  | payload =>
    .error (.invalidArgument ("function marker payload must be a string or array, got " ++ payload.render))

/-- the negation of the column assigned to unless a name is given -/
def negationOfJson : Json → Operand
  | .text name => negation (if name.isEmpty then none else some name)
  | _ => negation none

def ofMarker : Json → Except Error Operand
  | .record [(name, payload)] =>
    if name = "[I]" then stepOfJson payload
    else if name = "[F]" then funcOfJson payload
    else if name = "[N]" then .ok (negationOfJson payload)
    else .error (.wrongOperation name)
  | .record _ => .error (.invalidArgument "marker object must have exactly one key")
  | json => .ok (bind (Datum.ofJson json))

end SqlSession.Query.Operand
