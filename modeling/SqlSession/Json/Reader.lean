/-
Reading JSON documents from the left, one step at a time.

Every step takes the characters that are left and gives back what it read and what is left then, or the fault it met:
the text ended too early, it is no JSON, or (for readers that expect a certain shape) it is JSON of another shape.
`Json.read` reads whole documents; nesting is limited to `maxDepth` lists and records.
-/
import SqlSession.Json.Basic
import SqlSession.Text.Digits

namespace SqlSession.Json

/-- why a text was refused -/
inductive Fault where
  | unfinished
  | malformed
  | mistyped
  deriving DecidableEq, Repr

/-- blanks between tokens -/
def isSpace (c : Char) : Bool :=
  c == ' ' || c == '\n' || c == '\t' || c == '\r'

def skipSpaces (cs : List Char) : List Char :=
  cs.dropWhile isSpace

/-- the rest behind the letters of an expected word -/
def word : List Char → List Char → Except Fault (List Char)
  | [], cs => .ok cs
  | _ :: _, [] => .error .unfinished
  | e :: es, c :: cs => if c = e then word es cs else .error .malformed

/-! ## Texts -/

def hexValue? (c : Char) : Option Nat :=
  if '0' ≤ c ∧ c ≤ '9' then some (c.toNat - '0'.toNat)
  else if 'a' ≤ c ∧ c ≤ 'f' then some (c.toNat - 'a'.toNat + 10)
  else if 'A' ≤ c ∧ c ≤ 'F' then some (c.toNat - 'A'.toNat + 10)
  else none

/-- the value of four hexadecimal digits; a text with less than four bytes left has ended too early -/
def fourHex (cs : List Char) : Except Fault (Nat × List Char) :=
  if (String.ofList (cs.take 4)).utf8ByteSize < 4 then .error .unfinished
  else match (cs.take 4).mapM hexValue? with
    | some digits => .ok (digits.foldl (fun n d => n * 16 + d) 0, cs.drop 4)
    | none => .error .malformed

def isLead (unit : Nat) : Bool := 0xd800 ≤ unit && unit ≤ 0xdbff

def isTrail (unit : Nat) : Bool := 0xdc00 ≤ unit && unit ≤ 0xdfff

/-- the second half of a pair of units behind its first -/
def trailing (lead : Nat) : List Char → Except Fault (Char × List Char)
  | [] => .error .unfinished
  | '\\' :: [] => .error .unfinished
  | '\\' :: 'u' :: cs => do
    let (unit, cs) ← fourHex cs
    if isTrail unit then .ok (Char.ofNat ((lead - 0xd800) * 0x400 + (unit - 0xdc00) + 0x10000), cs)
    else .error .malformed
  | _ => .error .malformed

/-- the character that an escape stands for, behind its backslash -/
def escape : List Char → Except Fault (Char × List Char)
  | [] => .error .unfinished
  | 'u' :: cs => do
    let (unit, cs) ← fourHex cs
    if isTrail unit then .error .malformed
    else if isLead unit then trailing unit cs
    else .ok (Char.ofNat unit, cs)
  | '"' :: cs => .ok ('"', cs)
  | '\\' :: cs => .ok ('\\', cs)
  | '/' :: cs => .ok ('/', cs)
  | 'b' :: cs => .ok ('\x08', cs)
  | 'f' :: cs => .ok ('\x0c', cs)
  | 'n' :: cs => .ok ('\n', cs)
  | 'r' :: cs => .ok ('\r', cs)
  | 't' :: cs => .ok ('\t', cs)
  | _ => .error .malformed

/-- the characters up to the closing quote; `seen` holds those already read, the last one first -/
def charsFrom : Nat → List Char → List Char → Except Fault (List Char × List Char)
  | 0, _, _ => .error .unfinished
  | _ + 1, _, [] => .error .unfinished
  | _ + 1, seen, '"' :: cs => .ok (seen.reverse, cs)
  | fuel + 1, seen, '\\' :: cs =>
    match escape cs with
    | .error fault => .error fault
    | .ok (c, rest) => charsFrom fuel (c :: seen) rest
  | fuel + 1, seen, c :: cs => if c.toNat < 0x20 then .error .malformed else charsFrom fuel (c :: seen) cs

/-- a text behind its opening quote -/
def string (cs : List Char) : Except Fault (String × List Char) := do
  let (chars, rest) ← charsFrom (cs.length + 1) [] cs
  .ok (String.ofList chars, rest)

/-! ## Numbers -/

/-- a number: whole if it fits 64 bits and is written without point and exponent -/
inductive Numeral where
  | whole (value : Int)
  | real (value : Float)

/-- the largest unsigned whole number of 64 bits -/
def wholeMax : Nat := 18446744073709551615

/-- the largest magnitude of a signed whole number of 64 bits below zero -/
def negativeMax : Nat := 9223372036854775808

/-- leading digits as long as their value fits 64 bits: the value, and the digits that are left -/
def significand (n : Nat) : List Char → Nat × List Char
  | [] => (n, [])
  | c :: cs =>
    let next := n * 10 + Text.digitValue c
    if next ≤ wholeMax then significand next cs else (n, c :: cs)

/-- `10 ^ n` for the powers that are binary64 numbers -/
def powerOfTen (n : Nat) : Float :=
  Float.ofScientific 1 false n

/-- `x · 10 ^ exponent`, scaled in steps of at most 308 places -/
def scaled : Nat → Float → Int → Except Fault Float
  | 0, _, _ => .ok 0
  | fuel + 1, x, exponent =>
    if exponent.natAbs ≤ 308 then
      if 0 ≤ exponent then
        let y := x * powerOfTen exponent.toNat
        if y.isInf then .error .malformed else .ok y
      else .ok (x / powerOfTen exponent.natAbs)
    else if x == 0 then .ok x
    else if 0 ≤ exponent then .error .malformed
    else scaled fuel (x / powerOfTen 308) (exponent + 308)

/-- the number with this sign, significand and exponent of ten -/
def signed (negative : Bool) (n : Nat) (exponent : Int) : Except Fault Float := do
  let x ← scaled 4 n.toUInt64.toFloat exponent
  .ok (if negative then -x else x)

/-- exponents beyond this one are read as infinite -/
def exponentMax : Nat := 2147483647

/-- the value of digits of an exponent; none beyond `exponentMax` -/
def exponentValue? (digits : List Char) : Option Nat :=
  digits.foldl (fun n? c => do
    let n ← n?
    let next := n * 10 + Text.digitValue c
    if next ≤ exponentMax then some next else none) (some 0)

/-- the exponent behind its letter -/
def exponentPart (negative : Bool) (n : Nat) (start : Int) (cs : List Char) : Except Fault (Float × List Char) :=
  let (down, cs) := match cs with
    | '+' :: cs => (false, cs)
    | '-' :: cs => (true, cs)
    | cs => (false, cs)
  let digits := cs.takeWhile Char.isDigit
  let rest := cs.drop digits.length
  if cs.isEmpty then .error .unfinished
  else if digits.isEmpty then .error .malformed
  else match exponentValue? digits with
    | some e => do
      let x ← signed negative n (if down then start - e else start + e)
      .ok (x, rest)
    | none =>
      if n != 0 && !down then .error .malformed
      else .ok (if negative then -0.0 else 0.0, rest)

/-- the end of a number whose digits are read: an exponent or nothing -/
def exponentOrEnd (negative : Bool) (n : Nat) (start : Int) : List Char → Except Fault (Float × List Char)
  | 'e' :: cs => exponentPart negative n start cs
  | 'E' :: cs => exponentPart negative n start cs
  | cs => do
    let x ← signed negative n start
    .ok (x, cs)

/-- the digits behind a point; those that would take the significand beyond 64 bits are dropped -/
def decimalPart (negative : Bool) (n : Nat) (start : Int) (cs : List Char) : Except Fault (Float × List Char) :=
  let digits := cs.takeWhile Char.isDigit
  let rest := cs.drop digits.length
  if cs.isEmpty then .error .unfinished
  else if digits.isEmpty then .error .malformed
  else
    let (m, dropped) := significand n digits
    exponentOrEnd negative m (start - (digits.length - dropped.length : Nat)) rest

/-- a number behind its sign -/
def number (negative : Bool) (cs : List Char) : Except Fault (Numeral × List Char) :=
  let digits := cs.takeWhile Char.isDigit
  let rest := cs.drop digits.length
  match digits with
  | [] => .error (if cs.isEmpty then .unfinished else .malformed)
  | '0' :: _ :: _ => .error .malformed
  | _ =>
    let (n, dropped) := significand 0 digits
    match rest with
    | '.' :: cs => do
      let (x, cs) ← decimalPart negative n dropped.length cs
      .ok (.real x, cs)
    | 'e' :: _ | 'E' :: _ => do
      let (x, cs) ← exponentOrEnd negative n dropped.length rest
      .ok (.real x, cs)
    | _ =>
      if !dropped.isEmpty then do
        let x ← signed negative n dropped.length
        .ok (.real x, rest)
      else if !negative then .ok (.whole n, rest)
      else if n = 0 ∨ negativeMax < n then .ok (.real (-n.toUInt64.toFloat), rest)
      else .ok (.whole (-n), rest)

/-! ## Documents -/

/-- the deepest nesting of lists and records -/
def maxDepth : Nat := 127

/-- whether another item follows in a list, and what is left from it on or behind the bracket; `first` before the first
item -/
def nextItem (first : Bool) (cs : List Char) : Except Fault (Bool × List Char) :=
  match skipSpaces cs with
  | [] => .error .unfinished
  | ']' :: rest => .ok (false, rest)
  | c :: rest =>
    if first then .ok (true, c :: rest)
    else if c = ',' then
      match skipSpaces rest with
      | [] => .error .unfinished
      | ']' :: _ => .error .malformed
      | rest => .ok (true, rest)
    else .error .malformed

/-- whether another field follows in a record, and what is left behind the quote of its name or behind the brace;
`first` before the first field -/
def nextField (first : Bool) (cs : List Char) : Except Fault (Bool × List Char) :=
  match skipSpaces cs with
  | [] => .error .unfinished
  | '}' :: rest => .ok (false, rest)
  | c :: rest =>
    if first then
      if c = '"' then .ok (true, rest) else .error .malformed
    else if c = ',' then
      match skipSpaces rest with
      | [] => .error .unfinished
      | '"' :: rest => .ok (true, rest)
      | _ => .error .malformed
    else .error .malformed

/-- what follows the colon behind a name -/
def colon (cs : List Char) : Except Fault (List Char) :=
  match skipSpaces cs with
  | [] => .error .unfinished
  | ':' :: rest => .ok rest
  | _ => .error .malformed

/-- the items of a list behind its bracket -/
def itemsFrom (value : List Char → Except Fault (Json × List Char)) :
    Nat → Bool → List Char → Except Fault (List Json × List Char)
  | 0, _, _ => .error .unfinished
  | fuel + 1, first, cs => do
    match ← nextItem first cs with
    | (false, cs) => .ok ([], cs)
    | (true, cs) =>
      let (item, cs) ← value cs
      let (items, cs) ← itemsFrom value fuel false cs
      .ok (item :: items, cs)

/-- the fields of a record behind its brace, in the order given -/
def fieldsFrom (value : List Char → Except Fault (Json × List Char)) :
    Nat → Bool → List Char → Except Fault (List (String × Json) × List Char)
  | 0, _, _ => .error .unfinished
  | fuel + 1, first, cs => do
    match ← nextField first cs with
    | (false, cs) => .ok ([], cs)
    | (true, cs) =>
      let (name, cs) ← string cs
      let (item, cs) ← value (← colon cs)
      let (fields, cs) ← fieldsFrom value fuel false cs
      .ok ((name, item) :: fields, cs)

/-- a document and what follows it; `depth` is the nesting still allowed -/
def value : Nat → List Char → Except Fault (Json × List Char)
  | depth, cs =>
    match skipSpaces cs with
    | [] => .error .unfinished
    | 'n' :: cs => (word ['u', 'l', 'l'] cs).map fun cs => (.null, cs)
    | 't' :: cs => (word ['r', 'u', 'e'] cs).map fun cs => (.bool true, cs)
    | 'f' :: cs => (word ['a', 'l', 's', 'e'] cs).map fun cs => (.bool false, cs)
    | '"' :: cs => (string cs).map fun (s, cs) => (.text s, cs)
    | '[' :: cs =>
      match depth with
      | 0 => .error .malformed
      | depth + 1 => (itemsFrom (value depth) (cs.length + 1) true cs).map fun (items, cs) => (.list items, cs)
    | '{' :: cs =>
      match depth with
      | 0 => .error .malformed
      | depth + 1 => (fieldsFrom (value depth) (cs.length + 1) true cs).map fun (fields, cs) => (ofFields fields, cs)
    | c :: cs =>
      let numeral (step : Except Fault (Numeral × List Char)) : Except Fault (Json × List Char) :=
        step.map fun
          | (.whole n, cs) => (.whole n, cs)
          | (.real x, cs) => (.real x, cs)
      if c = '-' then numeral (number true cs)
      else if c.isDigit then numeral (number false (c :: cs))
      else .error .malformed

/-- nothing but blanks is left -/
def finished (cs : List Char) : Except Fault Unit :=
  if (skipSpaces cs).isEmpty then .ok () else .error .malformed

/-- the document that a text holds -/
def read (s : String) : Except Fault Json := do
  let (json, cs) ← value maxDepth s.toList
  finished cs
  .ok json

end SqlSession.Json
