/-
Placeholders of a statement.

A question mark is a placeholder unless it stands inside a quoted text, a quoted name or a comment. `Scan.step` follows
a statement one character at a time; what takes two characters to see (a doubled quote, the dashes or the slash that
open a comment, the star that closes one) is a state of its own, so scanning a text in two parts is scanning the whole:
`Scan.run_append`, `Scan.count_append`.
-/
import SqlSession.Text.Blank

namespace SqlSession

/-- what encloses a quoted text or name -/
inductive Quote where
  | single
  | double
  | backtick
  deriving DecidableEq, Repr

namespace Quote

def mark : Quote → Char
  | single => '\''
  | double => '"'
  | backtick => '`'

def ofMark? (c : Char) : Option Quote :=
  if c = '\'' then some single
  else if c = '"' then some double
  else if c = '`' then some backtick
  else none

/-- whether a backslash keeps the next character from closing -/
def hasEscapes : Quote → Bool
  | backtick => false
  | _ => true

end Quote

namespace Scan

/-- where a scan stands between two characters -/
inductive State where
  | plain
  /-- behind one dash -/
  | dash
  /-- behind two dashes, which open a comment if a blank or the end follows -/
  | dashes
  | slash
  | line
  | block
  /-- behind a star in a block comment -/
  | star
  | quoted (quote : Quote)
  | escaped (quote : Quote)
  /-- behind a quote that closes unless it is doubled -/
  | closing (quote : Quote)
  deriving DecidableEq, Repr

/-- the state behind a character that continues nothing -/
def fresh (c : Char) : State :=
  match Quote.ofMark? c with
  | some q => .quoted q
  | none => if c = '#' then .line else if c = '-' then .dash else if c = '/' then .slash else .plain

def step : State → Char → State
  | .plain, c => fresh c
  | .dash, c => if c = '-' then .dashes else fresh c
  | .dashes, c =>
    if c = '-' then .dashes
    else if c = '\n' then .plain
    else if Text.isAsciiBlank c then .line
    else fresh c
  | .slash, c => if c = '*' then .block else fresh c
  | .closing q, c => if c = q.mark then .quoted q else fresh c
  | .quoted q, c =>
    if c = '\\' ∧ q.hasEscapes then .escaped q
    else if c = q.mark then .closing q
    else .quoted q
  | .escaped q, _ => .quoted q
  | .line, c => if c = '\n' then .plain else .line
  | .block, c => if c = '*' then .star else .block
  | .star, c => if c = '/' then .plain else if c = '*' then .star else .block

/-- outside quotes and comments, as far as the characters so far tell -/
def State.isOutside : State → Bool
  | .plain => true
  | .dash => true
  | .dashes => true
  | .slash => true
  | .closing _ => true
  | _ => false

/-- outside quotes and comments at the end of the text -/
def State.isClosed : State → Bool
  | .dashes => false
  | s => s.isOutside

def isPlaceholder (s : State) (c : Char) : Bool :=
  c == '?' && s.isOutside

def run (s : State) (cs : List Char) : State :=
  cs.foldl step s

/-- placeholders met from a state on -/
def count : State → List Char → Nat
  | _, [] => 0
  | s, c :: cs => (if isPlaceholder s c then 1 else 0) + count (step s c) cs

@[simp] theorem run_nil (s : State) : run s [] = s := rfl

@[simp] theorem run_cons (s : State) (c : Char) (cs : List Char) : run s (c :: cs) = run (step s c) cs := rfl

theorem run_append (s : State) (cs ds : List Char) : run s (cs ++ ds) = run (run s cs) ds := by
  simp [run, List.foldl_append]

theorem count_append (s : State) (cs ds : List Char) :
    count s (cs ++ ds) = count s cs + count (run s cs) ds := by
  induction cs generalizing s with
  | nil => simp [count]
  | cons c cs ih => simp [count, ih, Nat.add_assoc]

end Scan

end SqlSession
