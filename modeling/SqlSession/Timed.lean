/-
Programs that act on a shared state and wait.

A `Timed` program is done, changes the state or waits; between its steps other programs may change the state. Clocks
tick in milliseconds. `run` plays a program alone; `within` gives it a limit: when the limit ends before the program
does, the program is dropped at that moment and something else is its result.
-/
import SqlSession.Duration

namespace SqlSession

/-- whole milliseconds from which on a span has passed -/
def Duration.ticks (d : Duration) : Nat :=
  (d.nanos + 999999) / 1000000

inductive Timed (σ α : Type) where
  | done (result : α)
  /-- a change of the state; what follows may depend on the state before it -/
  | act (change : σ → σ) (rest : σ → Timed σ α)
  /-- a wait of some milliseconds -/
  | wait (millis : Nat) (rest : Timed σ α)

namespace Timed

variable {σ α β : Type}

protected def bind : Timed σ α → (α → Timed σ β) → Timed σ β
  | done x, f => f x
  | act change rest, f => act change fun s => (rest s).bind f
  | wait millis rest, f => wait millis (rest.bind f)

instance : Monad (Timed σ) where
  pure := done
  bind := Timed.bind

/-- what a function sees in the state -/
def look (f : σ → α) : Timed σ α :=
  act id fun s => done (f s)

def change (f : σ → σ) : Timed σ Unit :=
  act f fun _ => done ()

/-- a change that gives something back -/
def exchange (f : σ → α × σ) : Timed σ α :=
  act (fun s => (f s).2) fun s => done (f s).1

def pause (millis : Nat) : Timed σ Unit :=
  wait millis (done ())

/-- the program for at most so many ticks, and `late` as its result when they are over -/
def withinTicks (late : α) : Nat → Timed σ α → Timed σ α
  | _, done x => done x
  | left, act change rest => act change fun s => withinTicks late left (rest s)
  | left, wait millis rest =>
    if millis ≤ left then wait millis (withinTicks late (left - millis) rest) else wait left (done late)

/-- the program under a limit, if there is one -/
def within (limit : Option Duration) (late : Duration → α) (t : Timed σ α) : Timed σ α :=
  match limit with
  | none => t
  | some d => withinTicks (late d) d.ticks t

/-- the program up to its next wait: its result, or the wait and what follows it -/
def proceed : Timed σ α → σ → (α ⊕ (Nat × Timed σ α)) × σ
  | done x, s => (.inl x, s)
  | act change rest, s => (rest s).proceed (change s)
  | wait 0 rest, s => rest.proceed s
  | wait (n + 1) rest, s => (.inr (n + 1, rest), s)

/-- the result, the time and the state at the end of a program that runs alone -/
def run : Timed σ α → Nat → σ → α × Nat × σ
  | done x, now, s => (x, now, s)
  | act change rest, now, s => (rest s).run now (change s)
  | wait millis rest, now, s => rest.run (now + millis) s

theorem run_bind (t : Timed σ α) (f : α → Timed σ β) (now : Nat) (s : σ) :
    (t.bind f).run now s = (f (t.run now s).1).run (t.run now s).2.1 (t.run now s).2.2 := by
  induction t generalizing now s with
  | done x => rfl
  | act change rest ih => exact ih s now (change s)
  | wait millis rest ih => exact ih (now + millis) s

end Timed

end SqlSession
