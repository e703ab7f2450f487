/-
Time in a pool.

Time passes from event to event: a wait for a slot is over, or a connection that is being made ready goes on. An
operation on one connection and everything else in the pool go on side by side.
-/
import SqlSession.Pool.Serve

namespace SqlSession.Pool

/-- when something happens next by itself -/
def nextEvent? (p : Pool) : Option Nat :=
  (p.readying.map Readying.wake ++ p.waiting.filterMap fun t => t.limit.map Prod.fst).min?

/-- goes on with a connection that is being made ready -/
def resume (p : Pool) (r : Readying) : Pool :=
  match r.rest.proceed p.world with
  | (.inl (.ok (), c), world) => { p with world }.lend r.name c
  | (.inl (.error e, _), world) =>
    if e.isAbort then { p with world }.finish r.name (.failed e) else provide r.name p.idle { p with world }
  | (.inr (millis, program), world) =>
    { p with world, readying := p.readying ++ [⟨r.name, p.now + millis, program⟩] }

/-- the wait of these acquires is over unless it ends later -/
def expire (p : Pool) : List Ticket → Pool
  | [] => p
  | ticket :: rest =>
    match ticket.limit with
    | some (deadline, wait) =>
      if deadline ≤ p.now then (p.finish ticket.name (.failed (.poolTimeout wait))).expire rest
      else { p with waiting := p.waiting ++ [ticket] }.expire rest
    | none => { p with waiting := p.waiting ++ [ticket] }.expire rest

/-- what happens by itself at this moment -/
def arrive (p : Pool) : Pool :=
  let due := p.readying.filter fun r => r.wake ≤ p.now
  let p := due.foldl resume { p with readying := p.readying.filter fun r => p.now < r.wake }
  ({ p with waiting := [] }.expire p.waiting).served

/-- time passes up to a moment, with at most so many events on the way -/
def passUntil (moment : Nat) : Nat → Pool → Pool
  | 0, p => { p with now := moment }
  | events + 1, p =>
    match p.nextEvent? with
    | some t =>
      if t ≤ moment then passUntil moment events { p with now := t }.arrive else { p with now := moment }
    | none => { p with now := moment }

/-- some milliseconds pass; there is at most one moment with events in each -/
def pass (p : Pool) (millis : Nat) : Pool :=
  passUntil (p.now + millis) millis p

/-- time passes until an acquire has ended, for at most so many events -/
def awaitWithin (name : String) : Nat → Pool → Pool
  | 0, p => p
  | events + 1, p =>
    if (p.outcome? name).isSome then p
    else match p.nextEvent? with
      | some t => awaitWithin name events { p with now := t }.arrive
      | none => p

/-- events that can happen while nothing is given back: each acquire that waits ends once, and each connection that is
made ready waits for its connects and for one statement -/
def eventsAhead (p : Pool) : Nat :=
  p.waiting.length + (p.idle.length + p.readying.length) * (p.config.maxRetries + 3)

/-- time passes until an acquire has ended -/
def await (p : Pool) (name : String) : Pool :=
  awaitWithin name (p.eventsAhead + 1) p

/-- a program in the pool's world, while time passes for the pool -/
def play {α : Type} : Timed World α → Pool → α × Pool
  | .done x, p => (x, p)
  | .act change rest, p => play (rest p.world) { p with world := change p.world }
  | .wait millis rest, p => play rest (p.pass millis)

/-- the connection under a name, leased or else detached, is another one now -/
def putBack (p : Pool) (name : String) (c : Connection) : Pool :=
  let put (entries : List (String × Connection)) : List (String × Connection) :=
    entries.map fun entry => if entry.1 == name then (name, c) else entry
  if (p.lease? name).isSome then { p with leases := put p.leases } else { p with detached := put p.detached }

/-- an operation on a connection, leased or else detached -/
def use (p : Pool) (name : String) (operation : Operation) : Option (Except Error Answer × Pool) :=
  match p.connection? name with
  | none => none
  | some c =>
    let ((result, c), p) := play (operation.perform.run.run c) p
    some (result, p.putBack name c)

end SqlSession.Pool
