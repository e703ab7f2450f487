/-
Handing out and taking back connections.

An acquire gets the first idle connection that can be made ready, and a new one if there is none; idle connections that
cannot be made ready are dropped on the way. An acquire that is aborted while a connection is made ready for it ends
with that, and only that connection is dropped. Whenever a slot becomes free the first acquire that waits gets it.
-/
import SqlSession.Pool.Basic

namespace SqlSession.Pool

def finish (p : Pool) (name : String) (outcome : Outcome) : Pool :=
  { p with ended := p.ended ++ [(name, outcome)] }

def withoutLease (p : Pool) (name : String) : Pool :=
  { p with leases := p.leases.filter (·.1 != name) }

/-- a connection that nobody leases any more stays in the pool if there is a slot for it -/
def takeBack (p : Pool) (c : Connection) : Pool :=
  if p.size < p.slots then { p with idle := p.idle ++ [c] } else p

/-- a connection is handed out under a name that no lease goes by -/
def handOut (p : Pool) (name : String) (c : Connection) : Pool :=
  let handed := fun id => if id = c.client.id then p.now else p.handed id
  { p with leases := p.leases ++ [(name, c)], handed }.finish name .leased

/-- an acquire gets this connection; a lease that went by its name ends -/
def lend (p : Pool) (name : String) (c : Connection) : Pool :=
  let lent := (p.withoutLease name).handOut name c
  match p.lease? name with
  | none => lent
  | some before => lent.takeBack before

/-- an acquire gets a connection that is new and not opened yet -/
def lendNew (p : Pool) (name : String) : Pool :=
  let (id, world) := p.world.onServer Server.welcome
  { p with world }.lend name (.new (.new id) p.config p.registry)

/-- finds a connection for an acquire among these idle ones -/
def provide (name : String) : List Connection → Pool → Pool
  | [], p => { p with idle := [] }.lendNew name
  | c :: rest, p =>
    match (Op.beforeUse.run.run c).proceed p.world with
    | (.inl (.ok (), c), world) => { p with idle := rest, world }.lend name c
    | (.inl (.error e, _), world) =>
      if e.isAbort then { p with idle := rest, world }.finish name (.failed e) else provide name rest { p with world }
    | (.inr (millis, program), world) =>
      { p with idle := rest, world, readying := p.readying ++ [⟨name, p.now + millis, program⟩] }

/-- gives free slots to these acquires, the first first; the others wait on -/
def serve : List Ticket → Pool → Pool
  | [], p => { p with waiting := [] }
  | ticket :: rest, p =>
    if 0 < p.free then serve rest (provide ticket.name p.idle p) else { p with waiting := ticket :: rest }

/-- free slots go to those who wait for them -/
def served (p : Pool) : Pool := serve p.waiting p

/-- an acquire that may wait, by default as long as the settings allow -/
def acquire (p : Pool) (name : String) (wait : Option Duration) : Pool :=
  let limit : Except Error (Option Duration) := match wait with
    | some d => .ok (some d)
    | none => p.config.waitLimit
  match limit with
  | .error e => p.finish name (.failed e)
  | .ok limit =>
    if p.closed then p.finish name (.failed .poolClosed)
    else if 0 < p.free then (provide name p.idle p).served
    else match limit with
      | none => { p with waiting := p.waiting ++ [⟨name, none⟩] }
      | some d =>
        if d.nanos = 0 then p.finish name (.failed (.poolTimeout d))
        else { p with waiting := p.waiting ++ [⟨name, some (p.now + d.ticks, d)⟩] }

/-- an acquire that nobody is interested in any more; a connection that was made ready for it is dropped -/
def cancel (p : Pool) (name : String) : Pool :=
  if p.waiting.any (·.name == name) || p.readying.any (·.name == name) then
    { p with
      waiting := p.waiting.filter (·.name != name)
      readying := p.readying.filter (·.name != name) }.finish name .cancelled |>.served
  else p

/-- a lease ends and its connection goes back -/
def giveBack (p : Pool) (name : String) : Pool :=
  match p.lease? name with
  | none => p
  | some c => ((p.withoutLease name).takeBack c).served

/-- a lease ends as it should: clauses left over are dropped -/
def release (p : Pool) (name : String) : Pool :=
  let cleared := p.leases.map fun lease => if lease.1 == name then (lease.1, lease.2.clearDraft) else lease
  { p with leases := cleared }.giveBack name

/-- a leased connection leaves the pool; a detached one that went by its name is forgotten -/
def detach (p : Pool) (name : String) : Pool :=
  match p.lease? name with
  | none => p
  | some c =>
    let others := p.detached.filter (·.1 != name)
    { p.withoutLease name with detached := (name, c) :: others }.served

/-- drops the idle connections that have not been handed out for a span, and counts them -/
def evictIdle (p : Pool) (span : Duration) : Pool × Nat :=
  let kept := p.idle.filter fun c => (p.lastUsed c).nanos < span.nanos
  ({ p with idle := kept }, p.idle.length - kept.length)

/-- no more leases; those who wait for one are told so -/
def close (p : Pool) : Pool :=
  p.waiting.foldl (fun p ticket => p.finish ticket.name (.failed .poolClosed))
    { p with slots := 0, closed := true, idle := [], waiting := [] }

end SqlSession.Pool
