/-
Reading JSON values of an expected kind.

A value of another kind is `mistyped` as far as it is a value at all: its token is read first, so that a text that
breaks off or is no JSON is still called so. A list or a record is refused at its bracket.
-/
import SqlSession.Decimal.Nearest
import SqlSession.Json.Reader

namespace SqlSession.Json.Typed

/-- the fault of a value of the wrong kind -/
def wrongKind (cs : List Char) : Fault :=
  let token {α : Type} (step : Except Fault α) : Fault :=
    match step with
    | .error fault => fault
    | .ok _ => .mistyped
  match skipSpaces cs with
  | [] => .unfinished
  | 'n' :: cs => token (word ['u', 'l', 'l'] cs)
  | 't' :: cs => token (word ['r', 'u', 'e'] cs)
  | 'f' :: cs => token (word ['a', 'l', 's', 'e'] cs)
  | '"' :: cs => token (string cs)
  | '[' :: _ => .mistyped
  | '{' :: _ => .mistyped
  | '-' :: cs => token (number true cs)
  | c :: cs => if c.isDigit then token (number false (c :: cs)) else .malformed

def text (cs : List Char) : Except Fault (String × List Char) :=
  match skipSpaces cs with
  | '"' :: cs => string cs
  | _ => .error (wrongKind cs)

def bool (cs : List Char) : Except Fault (Bool × List Char) :=
  match skipSpaces cs with
  | 't' :: cs => (word ['r', 'u', 'e'] cs).map fun cs => (true, cs)
  | 'f' :: cs => (word ['a', 'l', 's', 'e'] cs).map fun cs => (false, cs)
  | _ => .error (wrongKind cs)

/-- a number of any kind -/
def numeral (cs : List Char) : Except Fault (Numeral × List Char) :=
  match skipSpaces cs with
  | '-' :: cs => number true cs
  | c :: rest => if c.isDigit then number false (c :: rest) else .error (wrongKind cs)
  | [] => .error .unfinished

/-- a whole number from zero to `most` -/
def natural (most : Nat) (cs : List Char) : Except Fault (Nat × List Char) := do
  match ← numeral cs with
  | (.whole n, cs) => if 0 ≤ n ∧ n ≤ most then .ok (n.toNat, cs) else .error .mistyped
  | (.real _, _) => .error .mistyped

def real (cs : List Char) : Except Fault (Float × List Char) := do
  match ← numeral cs with
  | (.whole n, cs) => .ok (Decimal.nearest n, cs)
  | (.real x, cs) => .ok (x, cs)

/-- a value, or none for a null -/
def optional {α : Type} (value : List Char → Except Fault (α × List Char)) (cs : List Char) :
    Except Fault (Option α × List Char) :=
  match skipSpaces cs with
  | 'n' :: cs => (word ['u', 'l', 'l'] cs).map fun cs => (none, cs)
  | _ => do
    let (x, cs) ← value cs
    .ok (some x, cs)

/-- one of some names, alone or as the name of a record's only field, whose value is null -/
def choice {α : Type} (ofName? : String → Option α) (cs : List Char) : Except Fault (α × List Char) := do
  let known (name : String) : Except Fault α :=
    match ofName? name with
    | some x => .ok x
    | none => .error .mistyped
  match skipSpaces cs with
  | [] => .error .unfinished
  | '"' :: cs =>
    let (name, cs) ← string cs
    .ok (← known name, cs)
  | '{' :: cs =>
    let (name, cs) ← text cs
    let x ← known name
    let cs ← match skipSpaces (← colon cs) with
      | 'n' :: cs => word ['u', 'l', 'l'] cs
      | cs => .error (wrongKind cs)
    match skipSpaces cs with
    | [] => .error .unfinished
    | '}' :: cs => .ok (x, cs)
    | _ => .error .malformed
  | _ => .error .malformed

end SqlSession.Json.Typed
