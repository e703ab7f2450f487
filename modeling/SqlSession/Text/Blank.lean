/-
White space, trimming and words.

`isBlank` is the white space of the character standard; `isAsciiBlank` its ASCII part without the vertical tab, which
is what ends a pair of dashes in a statement. A word is a longest run of characters that are not blank.
-/
import SqlSession.Text.Ranges

namespace SqlSession.Text

/-- code points of white space -/
def blankRanges : List (Nat × Nat) :=
  [(0x09, 0x0d), (0x20, 0x20), (0x85, 0x85), (0xa0, 0xa0), (0x1680, 0x1680), (0x2000, 0x200a), (0x2028, 0x2029),
   (0x202f, 0x202f), (0x205f, 0x205f), (0x3000, 0x3000)]

def isBlank (c : Char) : Bool :=
  inRanges blankRanges c.toNat

/-- space, tab, line feed, form feed or carriage return -/
def isAsciiBlank (c : Char) : Bool :=
  c == ' ' || c == '\t' || c == '\n' || c == '\x0c' || c == '\r'

/-- the characters without blanks in front -/
def trimStartChars (cs : List Char) : List Char :=
  cs.dropWhile isBlank

/-- the characters without blanks at the end -/
def trimEndChars (cs : List Char) : List Char :=
  (cs.reverse.dropWhile isBlank).reverse

/-- the text without blanks at both ends -/
def trimmed (s : String) : String :=
  String.ofList (trimEndChars (trimStartChars s.toList))

/-- one character in front of a word that may be unfinished and the words after it -/
def wordStep (c : Char) : List Char × List (List Char) → List Char × List (List Char)
  | (current, done) =>
    if isBlank c then ([], if current.isEmpty then done else current :: done) else (c :: current, done)

/-- the words of a text, in order -/
def words (s : String) : List String :=
  let (current, done) := s.toList.foldr wordStep ([], [])
  (if current.isEmpty then done else current :: done).map String.ofList

/-- the texts in order with `separator` between neighbours -/
def joinWith (separator : String) : List String → String
  | [] => ""
  | [s] => s
  | s :: t :: rest => s ++ separator ++ joinWith separator (t :: rest)

/-- the words of a text with one space between neighbours -/
def singleSpaced (s : String) : String :=
  joinWith " " (words s)

end SqlSession.Text
