/-
Pools of connections.

A pool has a number of slots. Each slot in use belongs to a lease or to an acquire whose connection is being made ready
for it; the others are free. Acquires that find no free slot wait in the order in which they came. A detached connection
has left the pool and is only kept under its name.
-/
import SqlSession.Session.Operation

namespace SqlSession

open Query (Registry)

/-- an acquire that waits for a free slot -/
structure Ticket where
  name : String
  /-- when its wait is over, and how long it is -/
  limit : Option (Nat × Duration)
  deriving Repr

/-- a connection that is being made ready for an acquire, and when that goes on -/
structure Readying where
  name : String
  wake : Nat
  rest : Timed World (Except Error Unit × Connection)

/-- how an acquire ended -/
inductive Outcome where
  | leased
  | failed (cause : Error)
  | cancelled
  deriving DecidableEq, Repr

structure Pool where
  config : Config
  registry : Registry
  /-- the number of slots; none once the pool is closed -/
  slots : Nat
  closed : Bool
  /-- the one that came back first is first -/
  idle : List Connection
  leases : List (String × Connection)
  detached : List (String × Connection)
  /-- the acquire that came first is first -/
  waiting : List Ticket
  readying : List Readying
  /-- acquires that have ended and nobody has been told of yet, in that order -/
  ended : List (String × Outcome)
  /-- when the connection of a client was handed out last -/
  handed : Nat → Nat
  now : Nat
  world : World

/-- occupancy of a pool -/
structure Occupancy where
  slots : Nat
  /-- connections, used or not -/
  size : Nat
  /-- connections that nobody uses or waits for -/
  available : Nat
  /-- acquires that no connection is there for -/
  waiting : Nat
  deriving DecidableEq, Repr

namespace Pool

/-- a pool for these settings, without connections -/
def new (config : Config) (registry : Registry) : Except Error Pool := do
  let config ← config.check
  .ok
    { config, registry
      slots := config.maxSize
      closed := false
      idle := []
      leases := []
      detached := []
      waiting := []
      readying := []
      ended := []
      handed := fun _ => 0
      now := 0
      world := .fresh }

/-- slots that are not in use -/
def free (p : Pool) : Nat :=
  p.slots - (p.leases.length + p.readying.length)

/-- how long it is since a connection was handed out -/
def lastUsed (p : Pool) (c : Connection) : Duration := .ofMillis (p.now - p.handed c.client.id)

/-- connections of the pool -/
def size (p : Pool) : Nat :=
  p.idle.length + p.leases.length + p.readying.length

/-- holders of connections and those who want to be -/
def users (p : Pool) : Nat :=
  p.leases.length + p.readying.length + p.waiting.length

def occupancy (p : Pool) : Occupancy :=
  ⟨p.slots, p.size, p.size - p.users, p.users - p.size⟩

/-- the connection of a lease -/
def lease? (p : Pool) (name : String) : Option Connection := p.leases.lookup name

/-- the connection under a name, leased or else detached -/
def connection? (p : Pool) (name : String) : Option Connection :=
  (p.lease? name).or (p.detached.lookup name)

/-- how an acquire ended, if it has -/
def outcome? (p : Pool) (name : String) : Option Outcome := p.ended.lookup name

/-- everybody has been told how acquires ended -/
def told (p : Pool) : Pool := { p with ended := [] }

/-- what makes the pool's connections as diagnostics show it -/
def describe (p : Pool) : String :=
  "ConnectionManager \x7b target: " ++ Text.quoted p.config.target ++ ", registry: " ++ p.registry.describe ++
    ", .. \x7d"

/-- a lease as diagnostics show it -/
def describeLease (c : Connection) : String :=
  "MiddlewarePoolConnection(" ++ c.describe ++ ")"

end Pool

end SqlSession
