/-
The log of a session: a bounded list of what it did, the newest entry first.
-/
import SqlSession.Statement

namespace SqlSession

namespace Log

inductive Kind where
  | debug
  | explain
  | statement
  deriving DecidableEq, Repr

def Kind.tag : Kind → String
  | debug => "[DEBUG]"
  | explain => "[EXPLAIN]"
  | statement => "[STATEMENT]"

structure Entry where
  kind : Kind
  text : String
  deriving DecidableEq, Repr

def Entry.line (e : Entry) : String :=
  e.kind.tag ++ " " ++ e.text

end Log

structure Log where
  capacity : Nat
  /-- the newest entry first -/
  entries : List Log.Entry
  deriving DecidableEq, Repr

namespace Log

def empty (capacity : Nat) : Log := ⟨capacity, []⟩

/-- the log with a new entry; the oldest one gives way when there is no room -/
def push (l : Log) (kind : Kind) (text : String) : Log :=
  { l with entries := (⟨kind, text⟩ :: l.entries).take l.capacity }

def clear (l : Log) : Log := { l with entries := [] }

def latest? (l : Log) : Option Entry := l.entries.head?

def lines (l : Log) : List String := l.entries.map Entry.line

/-- a statement that ran; how long it took differs from run to run and is left blank -/
def timed (statement : String) : String :=
  statement ++ " [ RunTime:#.######s ]"

theorem length_push_le (l : Log) (kind : Kind) (text : String) : (l.push kind text).entries.length ≤ l.capacity := by
  rw [push, List.length_take]
  exact Nat.min_le_left _ _

end Log

end SqlSession
