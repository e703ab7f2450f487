/-
What a server makes of the statements of one client.

A `Database` is told of the entries of a ledger one by one. It keeps the statements that are committed, and those of the
open transaction with its savepoints. A savepoint takes the place of an older one with its name; going back to a
savepoint undoes what came behind it, later savepoints too, and fails if there is none of that name. Such failures are
kept as well (`Database.unknown`). The end of a session undoes its open transaction.
-/
import SqlSession.Proofs.Session.Control
import SqlSession.Proofs.Session.Traffic

namespace SqlSession

/-- a name, and how many statements of the transaction it keeps -/
structure Savepoint where
  name : String
  kept : Nat
  deriving DecidableEq, Repr

/-- an open transaction -/
structure Pending where
  /-- what was done in it and not undone -/
  log : List Statement
  /-- the newest first -/
  savepoints : List Savepoint
  deriving Repr

namespace Pending

/-- a savepoint behind all that was done; an older one of its name is gone -/
def mark (p : Pending) (name : String) : Pending :=
  { p with savepoints := ⟨name, p.log.length⟩ :: p.savepoints.filter fun s => s.name != name }

/-- the savepoint and the older ones -/
def upTo (p : Pending) (name : String) : List Savepoint :=
  p.savepoints.dropWhile fun s => s.name != name

/-- everything behind the savepoint undone -/
def back (p : Pending) (name : String) : Option Pending :=
  match p.upTo name with
  | [] => none
  | s :: older => some ⟨p.log.take s.kept, s :: older⟩

/-- the savepoint forgotten, and nothing undone -/
def release (p : Pending) (name : String) : Option Pending :=
  match p.upTo name with
  | [] => none
  | _ :: older => some { p with savepoints := older }

end Pending

structure Database where
  committed : List Statement
  pending : Option Pending
  /-- names of savepoints that were asked for and not there -/
  unknown : List String
  deriving Repr

namespace Database

def empty : Database := ⟨[], none, []⟩

/-- a statement takes effect at once, unless a transaction is open -/
def write (db : Database) (s : Statement) : Database :=
  match db.pending with
  | none => { db with committed := db.committed ++ [s] }
  | some p => { db with pending := some { p with log := p.log ++ [s] } }

def commit (db : Database) : Database :=
  match db.pending with
  | none => db
  | some p => { db with committed := db.committed ++ p.log, pending := none }

/-- the open transaction undone -/
def rollback (db : Database) : Database :=
  { db with pending := none }

/-- what a savepoint is asked for; nothing happens if it is not there -/
def ask (db : Database) (name : String) (f : Pending → Option Pending) : Database :=
  match db.pending.bind f with
  | none => { db with unknown := db.unknown ++ [name] }
  | some p => { db with pending := some p }

def control (db : Database) : Control → Database
  | .begin => { db.commit with pending := some ⟨[], []⟩ }
  | .commit => db.commit
  | .rollback => db.rollback
  | .savepoint name => { db with pending := db.pending.map fun p => p.mark name }
  | .rollbackTo name => db.ask name fun p => p.back name
  | .release name => db.ask name fun p => p.release name

/-- a statement that succeeded -/
def perform (db : Database) (s : Statement) : Database :=
  match Control.ofText s.text with
  | some c => db.control c
  | none => db.write s

/-- what is refused, received or failed has no effect, and to prepare a statement has none either -/
def note (db : Database) : Entry → Database
  | .succeeded _ (.execute s) => db.perform s
  | .succeeded _ (.query text) => db.perform (.ofText text)
  | .opened _ => db.rollback
  | .closed _ => db.rollback
  | _ => db

theorem perform_of_control {db : Database} {s : Statement} {c : Control} (h : Control.ofText s.text = some c) :
    db.perform s = db.control c := by
  rw [perform, h]

theorem perform_of_plain {db : Database} {s : Statement} (h : Control.ofText s.text = none) :
    db.perform s = db.write s := by
  rw [perform, h]

theorem note_refusals {id : Nat} {entries : List Entry} (h : Op.Refusals id entries) (db : Database) :
    entries.foldl note db = db := by
  induction entries with
  | nil => rfl
  | cons e entries ih =>
    rw [List.foldl_cons, h e List.mem_cons_self]
    exact ih fun e he => h e (List.mem_cons_of_mem _ he)

theorem rollback_of_settled {db : Database} (h : db.pending = none) : db.rollback = db := by
  rw [rollback, ← h]

end Database

/-- what a client has made of its database -/
def World.database (w : World) (id : Nat) : Database :=
  (w.own id).foldl Database.note .empty

section

variable {w w' : World} {id : Nat}

theorem database_note {entry : Entry} (he : entry.client = id) :
    (w.note entry).database id = (w.database id).note entry := by
  rw [World.database, own_note rfl he, List.foldl_append]
  rfl

theorem database_received (client : Client) (request : Request) (limit : Option Duration) (w : World) :
    (w.note (.received client.session request limit)).database client.id = w.database client.id :=
  database_note rfl

theorem database_failed (client : Client) (request : Request) (cause : NativeError) (w : World) :
    (w.note (.failed client.session request cause)).database client.id = w.database client.id :=
  database_note rfl

theorem database_prepared (client : Client) (text : String) (w : World) :
    (w.note (.succeeded client.session (.prepare text))).database client.id = w.database client.id :=
  database_note rfl

theorem database_succeeded (client : Client) (request : Request) (w : World) :
    (w.note (.succeeded client.session request)).database client.id =
      (w.database client.id).note (.succeeded client.session request) :=
  database_note rfl

/-- a client's database depends on nothing but its own entries -/
theorem database_of_own (h : w'.own id = w.own id) : w'.database id = w.database id := by
  rw [World.database, h, World.database]

theorem database_of_news {news : List Entry} (h : w'.own id = w.own id ++ news) :
    w'.database id = news.foldl Database.note (w.database id) := by
  rw [World.database, h, List.foldl_append, World.database]

end

end SqlSession
