/-
Conditions of WHERE, HAVING and joins.

A condition compares a field by an operator, kept as it was written, with a comparand. The operator's words, in any
case and spacing, decide which comparands it takes: `IN` a list that is not empty or an operand, `BETWEEN` two values,
`EXISTS` a sub-query, every other operator anything. An unset comparand hides its condition.
-/
import SqlSession.Query.Operand

namespace SqlSession.Query

/-- the right side of a condition -/
inductive Comparand where
  | operand (value : Operand)
  /-- the values of a list or a range, or those for the placeholders of the field -/
  | list (items : List Datum)
  | null
  /-- the condition is left out -/
  | unset
  deriving Repr

/-- a null compares with the word, every other value with a placeholder -/
def Comparand.ofDatum (value : Datum) : Comparand :=
  if value.isNull then null else operand (.bind value)

/-- what joins a condition to the one before it -/
inductive Connective where
  | and
  | or
  deriving DecidableEq, Repr

def Connective.text : Connective → String
  | .and => "AND"
  | .or => "OR"

structure Condition where
  connective : Connective
  field : String
  operator : String
  comparand : Comparand
  deriving Repr

/-- what an operator compares with -/
inductive OperatorKind where
  | membership
  | range
  | existence
  | other
  deriving DecidableEq, Repr

/-- the kind of an operator by its words in lower case -/
def OperatorKind.ofText (operator : String) : OperatorKind :=
  let words := Text.lower (Text.singleSpaced operator)
  if words = "in" ∨ words = "not in" then membership
  else if words = "between" ∨ words = "not between" then range
  else if words = "exists" ∨ words = "not exists" then existence
  else other

namespace Condition

def isUnset (c : Condition) : Bool :=
  match c.comparand with
  | .unset => true
  | _ => false

/-- the operator without blanks around it -/
def trimmedOperator (c : Condition) : String :=
  Text.trimmed c.operator

def kind (c : Condition) : OperatorKind :=
  .ofText c.trimmedOperator

/-- the operator and its list or sub-query in parentheses -/
def membershipParts (c : Condition) : Except Error (List Statement) :=
  let op := c.trimmedOperator
  let needs (reason : String) : Except Error (List Statement) :=
    .error (.invalidArgument (op ++ reason))
  match c.comparand with
  | .list [] => needs (" list for `" ++ c.field ++ "` is empty")
  | .list items =>
    .ok [.ofText op, ⟨"( " ++ Text.joinWith ", " (items.map fun _ => "?") ++ " )", items⟩]
  | .operand (.sub query) => .ok [.ofText op, query.enclosed]
  | .operand value => .ok [.ofText op, .ofText "( " ++ value.render c.field ++ .ofText " )"]
  | _ => needs (" for `" ++ c.field ++ "` needs a list or a sub-query")

/-- the operator with two placeholders -/
def rangeParts (c : Condition) : Except Error (List Statement) :=
  match c.comparand with
  | .list [low, high] => .ok [⟨c.trimmedOperator ++ " ? AND ?", [low, high]⟩]
  | _ => .error (.invalidArgument (c.trimmedOperator ++ " for `" ++ c.field ++ "` needs exactly two values"))

/-- the operator and its sub-query -/
def existenceParts (c : Condition) : Except Error (List Statement) :=
  match c.comparand with
  | .operand (.sub query) => .ok [.ofText c.trimmedOperator, query.render]
  | _ => .error (.invalidArgument (c.trimmedOperator ++ " needs a sub-query"))

/-- the operator and its operand, if there is one -/
def otherParts (c : Condition) : List Statement :=
  match c.comparand with
  | .null => [.ofText (c.trimmedOperator ++ " NULL")]
  | .operand value => [.ofText c.trimmedOperator, value.render c.field]
  | _ => []

/-- the field, unless it is empty -/
def fieldParts (c : Condition) : List Statement :=
  if c.field.isEmpty then [] else [.ofText c.field]

/-- the condition without its connective; with an operator of no special kind a list only brings the values for the
placeholders of the field -/
def render (c : Condition) : Except Error Statement := do
  match c.kind, c.comparand with
  | .other, .list items => .ok ⟨c.field, items⟩
  | .other, _ => .ok (.join " " (c.fieldParts ++ c.otherParts))
  | .membership, _ => .ok (.join " " (c.fieldParts ++ (← c.membershipParts)))
  | .range, _ => .ok (.join " " (c.fieldParts ++ (← c.rangeParts)))
  | .existence, _ => .ok (.join " " (c.fieldParts ++ (← c.existenceParts)))

/-- the conditions that are not unset, rendered in order, each with its connective in front except, unless `keep`, the
first of them -/
def renderAll (keep : Bool) : List Condition → Except Error (List Statement)
  | [] => .ok []
  | c :: rest =>
    if c.isUnset then renderAll keep rest
    else do
      let shown ← c.render
      let others ← renderAll true rest
      .ok ((if keep then .ofText (c.connective.text ++ " ") ++ shown else shown) :: others)

/-- the conditions in a row -/
def chain (keep : Bool) (conditions : List Condition) : Except Error Statement := do
  .ok (.join " " (← renderAll keep conditions))

end Condition

end SqlSession.Query
