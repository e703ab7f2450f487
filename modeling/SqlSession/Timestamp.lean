/-
Calendar timestamps without a zone.

A `Timestamp` is a day of the proleptic Gregorian calendar and a time of day to the nanosecond; the second may be 60, a
leap second. `text` writes it, `read?` reads it with the leniency of the servers' clients: blanks in front of a field
are skipped, fields may be short, the year may have a sign.
-/
import SqlSession.Text.Blank
import SqlSession.Text.Digits

namespace SqlSession

structure Timestamp where
  year : Int
  month : Nat
  day : Nat
  hour : Nat
  minute : Nat
  second : Nat
  nano : Nat
  deriving DecidableEq, Repr

namespace Timestamp

/-! ## Calendar -/

def isLeap (year : Int) : Bool :=
  year % 4 == 0 && (year % 100 != 0 || year % 400 == 0)

def daysIn (year : Int) (month : Nat) : Nat :=
  if month = 2 then (if isLeap year then 29 else 28)
  else if month = 4 ∨ month = 6 ∨ month = 9 ∨ month = 11 then 30
  else 31

/-- a day of the calendar in the supported years and a time of day -/
def Valid (t : Timestamp) : Prop :=
  -262143 ≤ t.year ∧ t.year ≤ 262142 ∧ 1 ≤ t.month ∧ t.month ≤ 12 ∧ 1 ≤ t.day ∧ t.day ≤ daysIn t.year t.month ∧
    t.hour ≤ 23 ∧ t.minute ≤ 59 ∧ t.second ≤ 60 ∧ t.nano < 1000000000

instance (t : Timestamp) : Decidable t.Valid := by
  unfold Valid; infer_instance

/-! ## Writing -/

/-- the number with zeros in front up to a width -/
def padded (width n : Nat) : String :=
  let digits := toString n
  String.ofList (List.replicate (width - digits.length) '0') ++ digits

/-- four digits, or a sign and at least four when they do not suffice -/
def yearText (year : Int) : String :=
  if 0 ≤ year ∧ year ≤ 9999 then padded 4 year.toNat
  else (if year < 0 then "-" else "+") ++ padded 4 year.natAbs

def dateText (t : Timestamp) : String :=
  yearText t.year ++ "-" ++ padded 2 t.month ++ "-" ++ padded 2 t.day

def timeText (t : Timestamp) : String :=
  padded 2 t.hour ++ ":" ++ padded 2 t.minute ++ ":" ++ padded 2 t.second

/-- nothing for a whole second, else a point and three, six or nine digits -/
def fractionText (t : Timestamp) : String :=
  if t.nano = 0 then ""
  else if t.nano % 1000000 = 0 then "." ++ padded 3 (t.nano / 1000000)
  else if t.nano % 1000 = 0 then "." ++ padded 6 (t.nano / 1000)
  else "." ++ padded 9 t.nano

/-- date and time to the second, with this text between them -/
def text (separator : String) (t : Timestamp) : String :=
  t.dateText ++ separator ++ t.timeText

/-! ## Reading -/

/-- at least one and at most `most` digits and what follows them -/
def number? (most : Nat) (cs : List Char) : Option (Nat × List Char) :=
  let digits := (cs.take most).takeWhile Char.isDigit
  if digits.isEmpty then none else some (Text.digitsValue digits, cs.drop digits.length)

/-- a number of up to two digits within bounds, after blanks -/
def field? (least most : Nat) (cs : List Char) : Option (Nat × List Char) := do
  let (n, rest) ← number? 2 (Text.trimStartChars cs)
  if least ≤ n ∧ n ≤ most then some (n, rest) else none

/-- a year after blanks: up to four digits, or a sign and any number of them -/
def year? (cs : List Char) : Option (Int × List Char) := do
  match Text.trimStartChars cs with
  | '-' :: cs =>
    let (n, rest) ← number? cs.length cs
    some (-(n : Int), rest)
  | '+' :: cs =>
    let (n, rest) ← number? cs.length cs
    some ((n : Int), rest)
  | cs =>
    let (n, rest) ← number? 4 cs
    some ((n : Int), rest)

/-- what follows an expected character -/
def after? (c : Char) : List Char → Option (List Char)
  | [] => none
  | d :: rest => if d = c then some rest else none

/-- nanoseconds from the digits behind a point; those beyond the ninth count for nothing -/
def fraction? : List Char → Option (Nat × List Char)
  | '.' :: cs =>
    let digits := cs.takeWhile Char.isDigit
    if digits.isEmpty then none
    else
      let nine := digits.take 9
      some (Text.digitsValue nine * Nat.pow 10 (9 - nine.length), cs.drop digits.length)
  | cs => some (0, cs)

/-- a date, what `between` leaves of the text behind it, and a time with or without a fraction -/
def read? (between : List Char → Option (List Char)) (s : String) : Option Timestamp := do
  let (year, cs) ← year? s.toList
  let (month, cs) ← field? 1 12 (← after? '-' cs)
  let (day, cs) ← field? 1 31 (← after? '-' cs)
  let (hour, cs) ← field? 0 23 (← between cs)
  let (minute, cs) ← field? 0 59 (← after? ':' cs)
  let (second, cs) ← field? 0 60 (← after? ':' cs)
  let (nano, cs) ← fraction? cs
  let t : Timestamp := ⟨year, month, day, hour, minute, second, nano⟩
  if cs.isEmpty ∧ t.Valid then some t else none

/-- date and time with or without blanks between them -/
def ofText? (s : String) : Option Timestamp :=
  read? (fun cs => some (Text.trimStartChars cs)) s

/-- date and time with the letter `T` between them -/
def ofStamp? (s : String) : Option Timestamp :=
  read? (after? 'T') s

end Timestamp

end SqlSession
