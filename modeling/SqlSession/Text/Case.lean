/-
Upper and lower case of texts.

`upper` and `lower` are the full mappings of the character standard: a character may become a word, and a capital sigma
at the end of a word has a form of its own. `asciiUpper` and `asciiLower` change only the letters A to Z.
-/
import SqlSession.Text.Case.Table
import SqlSession.Text.Ranges

namespace SqlSession.Text

/-! ## ASCII -/

def asciiLower (s : String) : String :=
  String.ofList (s.toList.map Char.toLower)

def asciiUpper (s : String) : String :=
  String.ofList (s.toList.map Char.toUpper)

/-- equal up to the case of the letters A to Z -/
def sameIgnoringAsciiCase (s t : String) : Bool :=
  asciiLower s == asciiLower t

/-! ## Full mappings -/

namespace Case

/-- the other case of a character beyond ASCII by its tables -/
def mapped (words : List (Nat × List Nat)) (shifts : List Shift) (c : Char) : List Char :=
  match words.find? fun entry => entry.1 == c.toNat with
  | some entry => entry.2.map Char.ofNat
  | none =>
    match shifts.find? fun run => run.covers c.toNat with
    | some run => [Char.ofNat (c.toNat + run.offset).toNat]
    | none => [c]

def upperChar (c : Char) : List Char :=
  if c.toNat < 0x80 then [c.toUpper] else mapped upperWords upperShifts c

def lowerChar (c : Char) : List Char :=
  if c.toNat < 0x80 then [c.toLower] else mapped lowerWords lowerShifts c

/-- whether the first character that is not skipped has case -/
def meetsCased (cs : List Char) : Bool :=
  match cs.find? fun c => !inRanges caseIgnorable c.toNat with
  | some c => inRanges cased c.toNat
  | none => false

/-- a capital sigma is final when a cased character stands before it and none after it -/
def sigma (before after : List Char) : Char :=
  if meetsCased before && !meetsCased after then 'ς' else 'σ'

/-- lower case of the characters in order; `before` holds those already passed, the last one first -/
def lowerFrom (before : List Char) : List Char → List Char
  | [] => []
  | c :: rest =>
    (if c == 'Σ' then [sigma before rest] else lowerChar c) ++ lowerFrom (c :: before) rest

end Case

def upper (s : String) : String :=
  String.ofList (s.toList.flatMap Case.upperChar)

def lower (s : String) : String :=
  String.ofList (Case.lowerFrom [] s.toList)

/-- whether `part` occurs in the characters of `whole` -/
def occursIn (part : List Char) : List Char → Bool
  | [] => part.isEmpty
  | c :: rest => part.isPrefixOf (c :: rest) || occursIn part rest

/-- whether `part` occurs in `s` -/
def contains (s part : String) : Bool :=
  occursIn part.toList s.toList

end SqlSession.Text
