/-
Values that a row holds and that are bound to placeholders.

The accessors say when a value counts as a whole number, a text, a truth value, a number or a timestamp; `plain?` is
its text without quotes, which a null does not have. `ofJson` gives scalars of a document their own kind.
-/
import SqlSession.Decimal.Nearest
import SqlSession.Json.Printer
import SqlSession.Timestamp
import SqlSession.Text.Utf8

namespace SqlSession

inductive Datum where
  | int (value : Int)
  | real (value : Float)
  | text (value : String)
  | bool (value : Bool)
  | timestamp (value : Timestamp)
  | null
  | json (document : Json)
  | blob (bytes : List UInt8)
  deriving Repr, Inhabited

/-- the least whole number of 64 bits with a sign -/
def int64Min : Int := -9223372036854775808

/-- the greatest whole number of 64 bits with a sign -/
def int64Max : Int := 9223372036854775807

/-- whole numbers of 64 bits with a sign -/
def FitsInt64 (n : Int) : Prop := int64Min ≤ n ∧ n ≤ int64Max

instance (n : Int) : Decidable (FitsInt64 n) := by
  unfold FitsInt64; infer_instance

namespace Datum

/-- numbers in statements: never an exponent, no point behind a whole number, ties go up -/
def numberStyle : Decimal.Style :=
  ⟨.up, none, false⟩

def isNull : Datum → Bool
  | null => true
  | _ => false

def int? : Datum → Option Int
  | int value => some value
  | _ => none

def text? : Datum → Option String
  | text value => some value
  | _ => none

/-- truth values, and the whole numbers one and zero -/
def bool? : Datum → Option Bool
  | bool value => some value
  | int 1 => some true
  | int 0 => some false
  | _ => none

def real? : Datum → Option Float
  | real value => some value
  | int value => some (Decimal.nearest value)
  | _ => none

/-- timestamps, and texts that read as one -/
def timestamp? : Datum → Option Timestamp
  | timestamp value => some value
  | text value => Timestamp.ofText? value
  | _ => none

/-- written without quotes in a statement -/
def isNumeric : Datum → Bool
  | int _ => true
  | real _ => true
  | bool _ => true
  | _ => false

def plain? : Datum → Option String
  | text value => some value
  | int value => some (toString value)
  | real value => some (Decimal.text numberStyle value)
  | bool value => some (if value then "1" else "0")
  | timestamp value => some (value.text " ")
  | json document => some document.render
  | blob bytes => some (Text.Utf8.decode bytes)
  | null => none

/-- scalars take their own kind, lists and records stay documents; a whole number beyond 64 bits with a sign becomes
the nearest binary64 number -/
def ofJson : Json → Datum
  | .null => null
  | .bool value => bool value
  | .whole value => if FitsInt64 value then int value else real (Decimal.nearest value)
  | .real value => real value
  | .text value => text value
  | .list items => json (.list items)
  | .record fields => json (.record fields)

end Datum

end SqlSession
