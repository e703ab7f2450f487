/-
Errors by cause, and their texts.

`NativeError` is what a server or its transport reports. `Error` is what an operation of this library fails with;
`Error.message` is its text. `isLossText` tells reports of a dead transport from reports about a statement.
-/
import SqlSession.Duration
import SqlSession.Json.Reader
import SqlSession.Text.Case

namespace SqlSession

/-- code and text of a failure as the other side reported it -/
structure NativeError where
  errno : Nat
  message : String
  deriving DecidableEq, Repr

def NativeError.text (e : NativeError) : String :=
  "[" ++ toString e.errno ++ "] " ++ e.message

/-- texts that mean the transport is gone -/
def lossMarkers : List String :=
  ["server has gone away", "no connection to the server", "Lost connection", "is dead or not enabled",
   "Error while sending", "decryption failed or bad record mac", "server closed the connection unexpectedly",
   "SSL connection has been closed unexpectedly", "Error writing data to the connection", "Resource deadlock avoided"]

/-- whether a text holds one of the markers of a dead transport, in any case -/
def isLossText (message : String) : Bool :=
  let lowered := Text.lower message
  lossMarkers.any fun marker => Text.contains lowered (Text.lower marker)

/-- code of a statement or connect attempt that ran out of time on the server -/
def errnoTimeout : Nat := 110

/-- code of a connect attempt that ran out of time -/
def errnoConnectTimeout : Nat := 2013

inductive Error where
  /-- the session could not be opened -/
  | connect (target : String) (cause : NativeError)
  /-- no connection of the pool became free in time -/
  | poolTimeout (wait : Duration)
  | poolClosed
  /-- the server refused to prepare the statement -/
  | prepare (cause : NativeError) (statement : String)
  /-- the server failed to run the statement -/
  | execute (cause : NativeError) (statement : String)
  /-- the statement ran out of time -/
  | timeout (cause : NativeError) (statement : String)
  /-- the session was reopened, and the transaction that was open at this depth is gone -/
  | transactionLost (depth : Nat)
  | wrongOperation (name : String)
  | tableNotSet
  /-- a change of a whole table was not asked for -/
  | emptyCondition (verb : String)
  | joinKind (kind : String)
  | orderDirection (direction : String)
  | wrongOption (name : String)
  | unknownScope (name : String)
  | invalidArgument (reason : String)
  | config (reason : String)
  | missingFile
  | json (fault : Json.Fault)
  | other (reason : String)
  /-- a configured number of seconds is longer than any span of time; this is no answer but the end of the program -/
  | secondsOverflow
  deriving DecidableEq, Repr, Inhabited

namespace Error

def message : Error → String
  | connect target cause => "[" ++ toString cause.errno ++ "] connect to " ++ target ++ " failed: " ++ cause.message
  | poolTimeout wait => "no connection became available within " ++ wait.text
  | poolClosed => "connection pool is closed"
  | prepare cause statement =>
    "[" ++ toString cause.errno ++ "] Prepare Query Failed: " ++ cause.message ++ " with statement -> " ++ statement
  | execute cause statement =>
    "[" ++ toString cause.errno ++ "] Execute Statement Failed: " ++ cause.message ++ " with statement -> " ++ statement
  | timeout cause statement =>
    "[" ++ toString cause.errno ++ "] Execute Statement TimeOut: " ++ cause.message ++ " with statement -> "
      ++ statement
  | transactionLost depth =>
    "connection lost with a transaction open at depth " ++ toString depth ++ "; the server discarded it"
  | wrongOperation name => "Wrong query operation: " ++ name
  | tableNotSet => "QueryTable Not Set!"
  | emptyCondition verb => verb ++ " condition is empty; pass force = true to run it against the whole table"
  | joinKind kind => "Wrong JOIN type: " ++ kind
  | orderDirection direction => "Wrong order direction: " ++ direction
  | wrongOption name => "Wrong query option: " ++ name
  | unknownScope name => "Unknown scope: " ++ name
  | invalidArgument reason => "Invalid argument: " ++ reason
  | config reason => "Configuration error: " ++ reason
  | missingFile => "no such file"
  | json _ => "not the JSON document that was expected"
  | other reason => "Other database error: " ++ reason
  | secondsOverflow => "number of seconds too large"

/-- whether the program ends where the error comes up: it passes through all that would go on behind it -/
def isAbort : Error → Bool
  | secondsOverflow => true
  | _ => false

/-- what the other side reported, for errors that carry it -/
def cause? : Error → Option NativeError
  | connect _ cause => some cause
  | prepare cause _ => some cause
  | execute cause _ => some cause
  | timeout cause _ => some cause
  | _ => none

def errno? (e : Error) : Option Nat :=
  e.cause?.map NativeError.errno

/-- text of the statement that failed, with its values filled in -/
def statement? : Error → Option String
  | prepare _ statement => some statement
  | execute _ statement => some statement
  | timeout _ statement => some statement
  | _ => none

/-- whether the report means that the transport is gone -/
def isLoss (e : Error) : Bool :=
  match e.cause? with
  | some cause => isLossText cause.message
  | none => false

end Error

end SqlSession
