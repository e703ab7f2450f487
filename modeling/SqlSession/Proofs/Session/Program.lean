/-
Work in transactions.

A `Program` is put together from steps of some kind and from transactions, nested to any depth. What comes of each is
given to what follows, so a program may ignore an error, try again or end; an abort ends it. `Program.op` is the
operation that it stands for; `ends_step` and `ends_transaction` take its ends apart.
-/
import SqlSession.Proofs.Session.Transaction

namespace SqlSession

/-- steps and transactions, each with what follows it -/
inductive Program (Step : Type → Type) : Type → Type 1
  | finish {α : Type} (result : Except Error α) : Program Step α
  | step {α β : Type} (s : Step β) (next : Except Error β → Program Step α) : Program Step α
  | transaction {α β : Type} (inner : Program Step β) (next : Except Error β → Program Step α) : Program Step α

namespace Program

variable {Step : Type → Type}

/-- the operation that a program stands for -/
def op (perform : {β : Type} → Step β → Op β) {α : Type} : Program Step α → Op α
  | finish result => Op.ofExcept result
  | step s next => do op perform (next (← Op.attempt (perform s)))
  | transaction inner next => do op perform (next (← Op.attempt (Op.transaction (op perform inner))))

variable {perform : {β : Type} → Step β → Op β} {others : World → World → Prop} {c c' : Connection} {w w' : World}

theorem ends_finish {α : Type} {result r : Except Error α}
    (h : Op.Ends others ((finish result : Program Step α).op perform) c w r c' w') : r = result ∧ c' = c ∧ w' = w :=
  Op.ends_ofExcept.1 h

theorem ends_step {α β : Type} {s : Step β} {next : Except Error β → Program Step α} {r : Except Error α}
    (h : Op.Ends others ((step s next).op perform) c w r c' w') :
    (∃ e, e.isAbort = true ∧ Op.Ends others (perform s) c w (.error e) c' w' ∧ r = .error e) ∨
      ∃ x c₁ w₁, Op.aborts x = false ∧ Op.Ends others (perform s) c w x c₁ w₁ ∧
        Op.Ends others ((next x).op perform) c₁ w₁ r c' w' :=
  Op.ends_attempt_bind.1 h

theorem ends_transaction {α β : Type} {inner : Program Step β} {next : Except Error β → Program Step α}
    {r : Except Error α} (h : Op.Ends others ((transaction inner next).op perform) c w r c' w') :
    (∃ e, e.isAbort = true ∧ Op.Ends others (Op.transaction (inner.op perform)) c w (.error e) c' w' ∧ r = .error e) ∨
      ∃ x c₁ w₁, Op.aborts x = false ∧ Op.Ends others (Op.transaction (inner.op perform)) c w x c₁ w₁ ∧
        Op.Ends others ((next x).op perform) c₁ w₁ r c' w' :=
  Op.ends_attempt_bind.1 h

end Program

end SqlSession
