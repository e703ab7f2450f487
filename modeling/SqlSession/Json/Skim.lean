/-
Passing over JSON values that nobody asks for.

Skimming checks the outline of a value and no more: nesting may be as deep as the text is long, numbers may be of any
size and escapes may stand for anything. A number that breaks off is malformed even at the end of the text.
-/
import SqlSession.Json.Reader

namespace SqlSession.Json.Skim

/-- what follows an escape behind its backslash -/
def escape : List Char → Except Fault (List Char)
  | [] => .error .unfinished
  | 'u' :: cs => (fourHex cs).map Prod.snd
  | c :: cs => if ['"', '\\', '/', 'b', 'f', 'n', 'r', 't'].contains c then .ok cs else .error .malformed

/-- what follows the closing quote of a text -/
def string : Nat → List Char → Except Fault (List Char)
  | 0, _ => .error .unfinished
  | _ + 1, [] => .error .unfinished
  | _ + 1, '"' :: cs => .ok cs
  | fuel + 1, '\\' :: cs =>
    match escape cs with
    | .error fault => .error fault
    | .ok rest => string fuel rest
  | fuel + 1, c :: cs => if c.toNat < 0x20 then .error .malformed else string fuel cs

/-- what follows at least one digit -/
def digits (cs : List Char) : Except Fault (List Char) :=
  match cs with
  | c :: _ => if c.isDigit then .ok (cs.dropWhile Char.isDigit) else .error .malformed
  | [] => .error .malformed

/-- what follows an exponent, if there is one -/
def exponent (cs : List Char) : Except Fault (List Char) :=
  let power (cs : List Char) : Except Fault (List Char) :=
    match cs with
    | '+' :: cs => digits cs
    | '-' :: cs => digits cs
    | cs => digits cs
  match cs with
  | 'e' :: cs => power cs
  | 'E' :: cs => power cs
  | cs => .ok cs

/-- what follows a number behind its sign -/
def number (cs : List Char) : Except Fault (List Char) := do
  let rest ← match cs with
    | '0' :: c :: cs => if c.isDigit then .error .malformed else .ok (c :: cs)
    | cs => digits cs
  match rest with
  | '.' :: cs => exponent (← digits cs)
  | cs => exponent cs

/-- what follows the items of a list behind its bracket -/
def items (value : List Char → Except Fault (List Char)) : Nat → Bool → List Char → Except Fault (List Char)
  | 0, _, _ => .error .unfinished
  | fuel + 1, first, cs => do
    match ← nextItem first cs with
    | (false, cs) => .ok cs
    | (true, cs) => items value fuel false (← value cs)

/-- what follows the fields of a record behind its brace -/
def fields (value : List Char → Except Fault (List Char)) : Nat → Bool → List Char → Except Fault (List Char)
  | 0, _, _ => .error .unfinished
  | fuel + 1, first, cs => do
    match ← nextField first cs with
    | (false, cs) => .ok cs
    | (true, cs) => fields value fuel false (← value (← colon (← string (cs.length + 1) cs)))

/-- what follows a value nested at most this deep -/
def value : Nat → List Char → Except Fault (List Char)
  | 0, _ => .error .unfinished
  | depth + 1, cs =>
    match skipSpaces cs with
    | [] => .error .unfinished
    | 'n' :: cs => word ['u', 'l', 'l'] cs
    | 't' :: cs => word ['r', 'u', 'e'] cs
    | 'f' :: cs => word ['a', 'l', 's', 'e'] cs
    | '"' :: cs => string (cs.length + 1) cs
    | '[' :: cs => items (value depth) (cs.length + 1) true cs
    | '{' :: cs => fields (value depth) (cs.length + 1) true cs
    | '-' :: cs => number cs
    | c :: cs => if c.isDigit then number (c :: cs) else .error .malformed

/-- what follows a value -/
def any (cs : List Char) : Except Fault (List Char) :=
  value (cs.length + 1) cs

end SqlSession.Json.Skim
