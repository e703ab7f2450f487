/-
Settings written as JSON.

A document is a record with the settings by name, or a list with them in order. Settings that are missing, and the end
of a list that is shorter, keep their standard values; names that are no setting are passed over, and no setting may be
given twice.
-/
import SqlSession.Config
import SqlSession.Json.Skim
import SqlSession.Json.Typed

namespace SqlSession.Config

open Json (Fault)

/-- a setting: its name, and what reading its value does to the settings so far -/
structure Setting where
  name : String
  read : Config → List Char → Except Fault (Config × List Char)

def setting {α : Type} (name : String) (value : List Char → Except Fault (α × List Char))
    (put : Config → α → Config) : Setting :=
  ⟨name, fun config cs => (value cs).map fun (x, cs) => (put config x, cs)⟩

/-- every setting, in the order of lists -/
def settings : List Setting :=
  [setting "host" Json.Typed.text fun c x => { c with host := x },
   setting "port" (Json.Typed.natural 65535) fun c x => { c with port := x },
   setting "user" Json.Typed.text fun c x => { c with user := x },
   setting "password" Json.Typed.text fun c x => { c with password := x },
   setting "database" Json.Typed.text fun c x => { c with database := x },
   setting "charset" Json.Typed.text fun c x => { c with charset := x },
   setting "table_prefix" Json.Typed.text fun c x => { c with tablePrefix := x },
   setting "fetch_mode" Json.Typed.bool fun c x => { c with fetchMode := x },
   setting "strict_type" Json.Typed.bool fun c x => { c with strictType := x },
   setting "connect_timeout_secs" (Json.Typed.optional Json.Typed.real) fun c x => { c with connectSeconds := x },
   setting "execute_timeout_secs" (Json.Typed.optional Json.Typed.real) fun c x => { c with executeSeconds := x },
   setting "wait_timeout_secs" (Json.Typed.optional Json.Typed.real) fun c x => { c with waitSeconds := x },
   setting "max_connect_retries" (Json.Typed.natural 4294967295) fun c x => { c with maxRetries := x },
   setting "max_size" (Json.Typed.natural Json.wholeMax) fun c x => { c with maxSize := x },
   setting "field_case" (Json.Typed.choice FieldCase.ofName?) fun c x => { c with fieldCase := x },
   setting "sql_log_capacity" (Json.Typed.natural Json.wholeMax) fun c x => { c with logCapacity := x }]

/-- the settings of a list behind its bracket; the first of these is the next one -/
def readItems : List Setting → Bool → Config → List Char → Except Fault (Config × List Char)
  | [], _, config, cs =>
    match Json.skipSpaces cs with
    | [] => .error .unfinished
    | ']' :: cs => .ok (config, cs)
    | _ => .error .malformed
  | s :: rest, first, config, cs => do
    match ← Json.nextItem first cs with
    | (false, cs) => .ok (config, cs)
    | (true, cs) =>
      let (config, cs) ← s.read config cs
      readItems rest false config cs

/-- the settings of a record behind its brace; `missing` holds those not given so far -/
def readFields : Nat → List Setting → Bool → Config → List Char → Except Fault (Config × List Char)
  | 0, _, _, _, _ => .error .unfinished
  | fuel + 1, missing, first, config, cs => do
    match ← Json.nextField first cs with
    | (false, cs) => .ok (config, cs)
    | (true, cs) =>
      let (name, cs) ← Json.string cs
      match missing.find? fun s => s.name == name with
      | some s =>
        let (config, cs) ← s.read config (← Json.colon cs)
        readFields fuel (missing.filter fun s => s.name != name) false config cs
      | none =>
        if settings.any fun s => s.name == name then .error .mistyped
        else readFields fuel missing false config (← Json.Skim.any (← Json.colon cs))

def read (s : String) : Except Fault Config := do
  let (config, cs) ← match Json.skipSpaces s.toList with
    | '[' :: cs => readItems settings true standard cs
    | '{' :: cs => readFields (cs.length + 1) settings true standard cs
    | cs => .error (Json.Typed.wrongKind cs)
  Json.finished cs
  .ok config

/-- the settings that a document gives -/
def ofText (s : String) : Except Error Config :=
  match read s with
  | .ok config => config.check
  | .error fault => .error (.json fault)

/-- the settings in a file, which may be missing -/
def ofFile : Option String → Except Error Config
  | none => .error .missingFile
  | some s => ofText s

end SqlSession.Config
