/-
Settings of sessions and pools.

Spans of time are given in seconds; those that are not positive or not finite mean no limit, and those too long for a
span are an error of their own.
-/
import SqlSession.Error
import SqlSession.Mode

namespace SqlSession

structure Config where
  host : String
  port : Nat
  user : String
  password : String
  database : String
  charset : String
  tablePrefix : String
  /-- rows by column name and not by position -/
  fetchMode : Bool
  /-- values in the kinds of their columns and not as texts -/
  strictType : Bool
  connectSeconds : Option Float
  executeSeconds : Option Float
  /-- how long a caller waits for a connection of a pool -/
  waitSeconds : Option Float
  /-- attempts to connect after the first one has failed -/
  maxRetries : Nat
  /-- connections of a pool -/
  maxSize : Nat
  fieldCase : FieldCase
  /-- entries that a session's log keeps -/
  logCapacity : Nat
  deriving Repr

/-- what a session is opened with -/
structure Login where
  host : String
  port : Nat
  user : String
  password : String
  database : String
  charset : String
  fetchMode : Bool
  strictType : Bool
  limit : Option Duration
  deriving DecidableEq, Repr

namespace Config

/-- the settings where a document gives no others -/
def standard : Config where
  host := "localhost"
  port := 3306
  user := "root"
  password := ""
  database := ""
  charset := "utf8"
  tablePrefix := ""
  fetchMode := true
  strictType := true
  connectSeconds := none
  executeSeconds := none
  waitSeconds := none
  maxRetries := 1
  maxSize := 16
  fieldCase := .natural
  logCapacity := 256

/-- the span of a number of seconds -/
def span (seconds : Option Float) : Except Error (Option Duration) :=
  match seconds.filter fun s => s.isFinite && 0 < s with
  | none => .ok none
  | some s =>
    match Duration.ofSeconds? s with
    | some d => .ok (some d)
    | none => .error .secondsOverflow

def connectLimit (c : Config) : Except Error (Option Duration) := span c.connectSeconds

def executeLimit (c : Config) : Except Error (Option Duration) := span c.executeSeconds

def waitLimit (c : Config) : Except Error (Option Duration) := span c.waitSeconds

def login (c : Config) : Except Error Login := do
  .ok ⟨c.host, c.port, c.user, c.password, c.database, c.charset, c.fetchMode, c.strictType, ← c.connectLimit⟩

/-- where a session leads, without the password -/
def target (c : Config) : String :=
  "mysql://" ++ c.user ++ "@" ++ c.host ++ ":" ++ toString c.port ++ "/" ++ c.database

/-- refuses settings that no pool can have -/
def check (c : Config) : Except Error Config :=
  if c.maxSize = 0 then .error (.config "max_size must be at least 1") else .ok c

end Config

end SqlSession
