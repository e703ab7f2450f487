/-
How programs can end that share their state with others.

`Timed.Ends others t s x s'`: the program begun at `s` can end with `x` at `s'` when, before each of its steps, others
may have taken the state from `s₁` to `s₂` with `others s₁ s₂`. A program that runs alone ends so as well
(`Timed.ends_run`). For operations on a connection there is one lemma for each way of putting them together, and the
parts that several of them share have names (`Op.beginning`, `Op.marking`, ..).
-/
import SqlSession.Session.Transaction
import Mathlib.Tactic

namespace SqlSession

namespace Timed

variable {σ α β : Type} {others : σ → σ → Prop}

/-- the ends of a program begun at a state, with others stepping in before each of its own steps -/
inductive Ends (others : σ → σ → Prop) : Timed σ α → σ → α → σ → Prop
  | done (x : α) (s : σ) : Ends others (done x) s x s
  | act (change : σ → σ) (rest : σ → Timed σ α) (s₁ s₂ : σ) (x : α) (s' : σ) (shared : others s₁ s₂)
      (step : Ends others (rest s₂) (change s₂) x s') : Ends others (act change rest) s₁ x s'
  | wait (millis : Nat) (rest : Timed σ α) (s : σ) (x : α) (s' : σ) (step : Ends others rest s x s') :
      Ends others (wait millis rest) s x s'

theorem ends_done {x y : α} {s s' : σ} : Ends others (done x) s y s' ↔ y = x ∧ s' = s := by
  constructor
  · rintro ⟨⟩
    exact ⟨rfl, rfl⟩
  · rintro ⟨rfl, rfl⟩
    exact .done _ _

theorem ends_act {change : σ → σ} {rest : σ → Timed σ α} {s₁ s' : σ} {x : α} :
    Ends others (act change rest) s₁ x s' ↔ ∃ s₂, others s₁ s₂ ∧ Ends others (rest s₂) (change s₂) x s' := by
  constructor
  · rintro (_ | ⟨_, _, _, s₂, _, _, hs, h⟩)
    exact ⟨s₂, hs, h⟩
  · rintro ⟨s₂, hs, h⟩
    exact .act _ _ _ s₂ _ _ hs h

theorem ends_wait {millis : Nat} {rest : Timed σ α} {s s' : σ} {x : α} :
    Ends others (wait millis rest) s x s' ↔ Ends others rest s x s' := by
  constructor
  · rintro (_ | _ | ⟨_, _, _, _, _, h⟩)
    exact h
  · exact .wait _ _ _ _ _

theorem ends_bind {t : Timed σ α} {f : α → Timed σ β} {s s' : σ} {y : β} :
    Ends others (t.bind f) s y s' ↔ ∃ x s₁, Ends others t s x s₁ ∧ Ends others (f x) s₁ y s' := by
  induction t generalizing s with
  | done x => simp [Timed.bind, ends_done]
  | act change rest ih =>
    simp only [Timed.bind, ends_act, ih]
    constructor
    · rintro ⟨s₂, hs, x, s₁, hx, hf⟩
      exact ⟨x, s₁, ⟨s₂, hs, hx⟩, hf⟩
    · rintro ⟨x, s₁, ⟨s₂, hs, hx⟩, hf⟩
      exact ⟨s₂, hs, x, s₁, hx, hf⟩
  | wait millis rest ih => simp only [Timed.bind, ends_wait, ih]

/-- the property holds whenever the program, which runs alone, takes a step -/
def Throughout (P : σ → Prop) : Timed σ α → σ → Prop
  | done _, _ => True
  | act change rest, s => P s ∧ Throughout P (rest s) (change s)
  | wait _ rest, s => Throughout P rest s

instance decidableThroughout (P : σ → Prop) [DecidablePred P] :
    (t : Timed σ α) → (s : σ) → Decidable (t.Throughout P s)
  | done _, _ => .isTrue trivial
  | act change rest, s =>
    have := decidableThroughout P (rest s) (change s)
    inferInstanceAs (Decidable (P s ∧ Throughout P (rest s) (change s)))
  | wait _ rest, s => decidableThroughout P rest s

theorem throughout_of_forall {P : σ → Prop} (h : ∀ s, P s) (t : Timed σ α) (s : σ) : t.Throughout P s := by
  induction t generalizing s with
  | done x => trivial
  | act change rest ih => exact ⟨h s, ih s (change s)⟩
  | wait millis rest ih => exact ih s

/-- a program alone ends as it runs -/
theorem ends_run {P : σ → Prop} (alone : ∀ s, P s → others s s) (t : Timed σ α) (now : Nat) {s : σ}
    (h : t.Throughout P s) : Ends others t s (t.run now s).1 (t.run now s).2.2 := by
  induction t generalizing now s with
  | done x => exact .done x s
  | act change rest ih => exact .act _ _ s s _ _ (alone s h.1) (ih s now h.2)
  | wait millis rest ih => exact .wait _ _ _ _ _ (ih (now + millis) h)

end Timed

namespace Op

variable {α β : Type} {others : World → World → Prop} {c c' : Connection} {w w' : World}

/-! ## Aborts -/

/-- whether a result is that of a program that was aborted -/
def aborts : Except Error α → Bool
  | .ok _ => false
  | .error e => e.isAbort

theorem isAbort_iff {e : Error} : e.isAbort = true ↔ e = .secondsOverflow := by
  cases e <;> simp [Error.isAbort]

theorem caught_error {e : Error} (h : e.isAbort = true) : caught (.error e : Except Error α) = .error e := if_pos h

theorem caught_of_not {x : Except Error α} (h : aborts x = false) : caught x = .ok x := by
  cases x with
  | ok a => rfl
  | error e => exact if_neg (Bool.eq_false_iff.1 h)

/-- only an abort passes through -/
theorem caught_eq_error {x : Except Error α} {e : Error} :
    caught x = .error e ↔ e.isAbort = true ∧ x = .error e := by
  constructor
  · intro h
    cases hx : aborts x with
    | false => cases (caught_of_not hx).symm.trans h
    | true =>
      cases x with
      | ok a => cases hx
      | error e' =>
        cases (caught_error hx).symm.trans h
        exact ⟨hx, rfl⟩
  · rintro ⟨he, rfl⟩
    exact caught_error he

theorem caught_eq_ok {x y : Except Error α} : caught x = .ok y ↔ aborts y = false ∧ x = y := by
  constructor
  · intro h
    cases hx : aborts x with
    | false =>
      cases (caught_of_not hx).symm.trans h
      exact ⟨hx, rfl⟩
    | true =>
      cases x with
      | ok a => cases hx
      | error e => cases (caught_error hx).symm.trans h
  · rintro ⟨hy, rfl⟩
    exact caught_of_not hy

/-! ## Operations -/

/-- the ends of an operation on a connection -/
def Ends (others : World → World → Prop) (op : Op α) (c : Connection) (w : World) (r : Except Error α)
    (c' : Connection) (w' : World) : Prop :=
  Timed.Ends others (op c) w (r, c') w'

/-- an operation alone ends as it runs -/
theorem ends_run (alone : ∀ w, others w w) (op : Op α) (c : Connection) (now : Nat) (w : World) :
    Ends others op c w ((op c).run now w).1.1 ((op c).run now w).1.2 ((op c).run now w).2.2 :=
  Timed.ends_run (P := fun _ => True) (fun w _ => alone w) (op c) now
    (Timed.throughout_of_forall (fun _ => trivial) _ w)

theorem ends_of_run {P : World → Prop} (alone : ∀ w, P w → others w w) {op : Op α} {now : Nat}
    {run : (Except Error α × Connection) × Nat × World} (h : (op c).run now w = run) (hP : (op c).Throughout P w) :
    Ends others op c w run.1.1 run.1.2 run.2.2 :=
  h ▸ Timed.ends_run alone (op c) now hP

theorem ends_pure {x : α} {r : Except Error α} :
    Ends others (pure x : Op α) c w r c' w' ↔ r = .ok x ∧ c' = c ∧ w' = w := by
  show Timed.Ends others (.done (.ok x, c)) w (r, c') w' ↔ _
  rw [Timed.ends_done, Prod.mk.injEq, and_assoc]

theorem ends_throw {e : Error} {r : Except Error α} :
    Ends others (throw e : Op α) c w r c' w' ↔ r = .error e ∧ c' = c ∧ w' = w := by
  show Timed.Ends others (.done (.error e, c)) w (r, c') w' ↔ _
  rw [Timed.ends_done, Prod.mk.injEq, and_assoc]

theorem ends_bind {op : Op α} {f : α → Op β} {r : Except Error β} :
    Ends others (op >>= f) c w r c' w' ↔
      (∃ e, Ends others op c w (.error e) c' w' ∧ r = .error e) ∨
        ∃ x c₁ w₁, Ends others op c w (.ok x) c₁ w₁ ∧ Ends others (f x) c₁ w₁ r c' w' := by
  have hb : (op >>= f) c = (op c).bind fun p => ExceptT.bindCont f p.1 p.2 := rfl
  rw [Ends, hb, Timed.ends_bind]
  constructor
  · rintro ⟨⟨x | x, c₁⟩, w₁, h, hf⟩
    · obtain ⟨heq, rfl⟩ := Timed.ends_done.1 hf
      obtain ⟨rfl, rfl⟩ := Prod.mk.inj heq
      exact .inl ⟨x, h, rfl⟩
    · exact .inr ⟨x, c₁, w₁, h, hf⟩
  · rintro (⟨e, h, rfl⟩ | ⟨x, c₁, w₁, h, hf⟩)
    · exact ⟨(.error e, c'), w', h, .done _ _⟩
    · exact ⟨(.ok x, c₁), w₁, h, hf⟩

theorem ends_get {r : Except Error Connection} :
    Ends others (get : Op Connection) c w r c' w' ↔ r = .ok c ∧ c' = c ∧ w' = w := by
  show Timed.Ends others (.done (.ok c, c)) w (r, c') w' ↔ _
  rw [Timed.ends_done, Prod.mk.injEq, and_assoc]

theorem ends_modify {f : Connection → Connection} {r : Except Error Unit} :
    Ends others (modify f : Op Unit) c w r c' w' ↔ r = .ok () ∧ c' = f c ∧ w' = w := by
  show Timed.Ends others (.done (.ok (), f c)) w (r, c') w' ↔ _
  rw [Timed.ends_done, Prod.mk.injEq, and_assoc]

/-- what is tried goes on with its result, or it is aborted -/
theorem attempt_bind_apply (op : Op α) (f : Except Error α → Op β) (c : Connection) :
    (attempt op >>= f) c = (op c).bind fun p => ExceptT.bindCont f (caught p.1) p.2 := by
  show ((op c).bind fun p => .done (caught p.1, p.2)).bind (fun p => ExceptT.bindCont f p.1 p.2) = _
  induction op c with
  | done x => rfl
  | act change rest ih => exact congrArg (Timed.act change) (funext ih)
  | wait millis rest ih => exact congrArg (Timed.wait millis) ih

theorem ends_attempt {op : Op α} {r : Except Error (Except Error α)} :
    Ends others (attempt op) c w r c' w' ↔ ∃ x, r = caught x ∧ Ends others op c w x c' w' := by
  show Timed.Ends others ((op c).bind fun p => .done (caught p.1, p.2)) w (r, c') w' ↔ _
  rw [Timed.ends_bind]
  constructor
  · rintro ⟨⟨x, c₁⟩, w₁, h, hd⟩
    obtain ⟨heq, rfl⟩ := Timed.ends_done.1 hd
    obtain ⟨rfl, rfl⟩ := Prod.mk.inj heq
    exact ⟨x, rfl, h⟩
  · rintro ⟨x, rfl, h⟩
    exact ⟨(x, c'), w', h, .done _ _⟩

theorem ends_ofExcept {x r : Except Error α} : Ends others (ofExcept x) c w r c' w' ↔ r = x ∧ c' = c ∧ w' = w := by
  cases x with
  | ok x => exact ends_pure
  | error e => exact ends_throw

theorem ends_shared {t : Timed World α} {r : Except Error α} :
    Ends others (shared t) c w r c' w' ↔ ∃ x, r = .ok x ∧ c' = c ∧ Timed.Ends others t w x w' := by
  show Timed.Ends others (t.bind fun x => .done (.ok x, c)) w (r, c') w' ↔ _
  rw [Timed.ends_bind]
  constructor
  · rintro ⟨x, w₁, h, hd⟩
    obtain ⟨heq, rfl⟩ := Timed.ends_done.1 hd
    obtain ⟨rfl, rfl⟩ := Prod.mk.inj heq
    exact ⟨x, rfl, rfl, h⟩
  · rintro ⟨x, rfl, rfl, h⟩
    exact ⟨x, w', h, .done _ _⟩

/-! Steps that cannot fail, in front of others -/

theorem ends_get_bind {f : Connection → Op β} {r : Except Error β} :
    Ends others (get >>= f) c w r c' w' ↔ Ends others (f c) c w r c' w' := by
  rw [ends_bind]
  constructor
  · rintro (⟨e, h, -⟩ | ⟨x, c₁, w₁, h, hf⟩)
    · cases (ends_get.1 h).1
    · obtain ⟨heq, rfl, rfl⟩ := ends_get.1 h
      cases heq
      exact hf
  · exact fun hf => .inr ⟨c, c, w, ends_get.2 ⟨rfl, rfl, rfl⟩, hf⟩

theorem ends_modify_bind {g : Connection → Connection} {f : Unit → Op β} {r : Except Error β} :
    Ends others (modify g >>= f) c w r c' w' ↔ Ends others (f ()) (g c) w r c' w' := by
  rw [ends_bind]
  constructor
  · rintro (⟨e, h, -⟩ | ⟨x, c₁, w₁, h, hf⟩)
    · cases (ends_modify.1 h).1
    · obtain ⟨-, rfl, rfl⟩ := ends_modify.1 h
      exact hf
  · exact fun hf => .inr ⟨(), g c, w, ends_modify.2 ⟨rfl, rfl, rfl⟩, hf⟩

theorem ends_ofExcept_bind {x : Except Error α} {f : α → Op β} {r : Except Error β} :
    Ends others (ofExcept x >>= f) c w r c' w' ↔
      (∃ e, x = .error e ∧ r = .error e ∧ c' = c ∧ w' = w) ∨ ∃ y, x = .ok y ∧ Ends others (f y) c w r c' w' := by
  rw [ends_bind]
  constructor
  · rintro (⟨e, h, rfl⟩ | ⟨y, c₁, w₁, h, hf⟩)
    · obtain ⟨rfl, rfl, rfl⟩ := ends_ofExcept.1 h
      exact .inl ⟨e, rfl, rfl, rfl, rfl⟩
    · obtain ⟨rfl, rfl, rfl⟩ := ends_ofExcept.1 h
      exact .inr ⟨y, rfl, hf⟩
  · rintro (⟨e, rfl, rfl, rfl, rfl⟩ | ⟨y, rfl, hf⟩)
    · exact .inl ⟨e, ends_ofExcept.2 ⟨rfl, rfl, rfl⟩, rfl⟩
    · exact .inr ⟨y, c, w, ends_ofExcept.2 ⟨rfl, rfl, rfl⟩, hf⟩

/-- what goes on behind a result goes on behind all but an abort -/
theorem ends_attempt_bind {op : Op α} {f : Except Error α → Op β} {r : Except Error β} :
    Ends others (attempt op >>= f) c w r c' w' ↔
      (∃ e, e.isAbort = true ∧ Ends others op c w (.error e) c' w' ∧ r = .error e) ∨
        ∃ x c₁ w₁, aborts x = false ∧ Ends others op c w x c₁ w₁ ∧ Ends others (f x) c₁ w₁ r c' w' := by
  rw [ends_bind]
  constructor
  · rintro (⟨e, h, rfl⟩ | ⟨y, c₁, w₁, h, hf⟩)
    · obtain ⟨x, heq, ho⟩ := ends_attempt.1 h
      obtain ⟨hx, rfl⟩ := caught_eq_error.1 heq.symm
      exact .inl ⟨e, hx, ho, rfl⟩
    · obtain ⟨x, heq, ho⟩ := ends_attempt.1 h
      obtain ⟨hx, rfl⟩ := caught_eq_ok.1 heq.symm
      exact .inr ⟨_, c₁, w₁, hx, ho, hf⟩
  · rintro (⟨e, he, h, rfl⟩ | ⟨x, c₁, w₁, hx, h, hf⟩)
    · exact .inl ⟨e, ends_attempt.2 ⟨_, (caught_eq_error.2 ⟨he, rfl⟩).symm, h⟩, rfl⟩
    · exact .inr ⟨x, c₁, w₁, ends_attempt.2 ⟨x, (caught_eq_ok.2 ⟨hx, rfl⟩).symm, h⟩, hf⟩

theorem ends_shared_bind {t : Timed World α} {f : α → Op β} {r : Except Error β} :
    Ends others (shared t >>= f) c w r c' w' ↔ ∃ x w₁, Timed.Ends others t w x w₁ ∧ Ends others (f x) c w₁ r c' w' := by
  rw [ends_bind]
  constructor
  · rintro (⟨e, h, -⟩ | ⟨x, c₁, w₁, h, hf⟩)
    · obtain ⟨_, heq, -⟩ := ends_shared.1 h
      cases heq
    · obtain ⟨x, heq, rfl, h⟩ := ends_shared.1 h
      cases heq
      exact ⟨x, w₁, h, hf⟩
  · rintro ⟨x, w₁, h, hf⟩
    exact .inr ⟨x, c, w₁, ends_shared.2 ⟨x, rfl, rfl, h⟩, hf⟩

theorem ends_discard {op : Op α} {r : Except Error Unit} :
    Ends others (discard op) c w r c' w' ↔ ∃ x, Ends others op c w x c' w' ∧ r = x.map fun _ => () := by
  have hd : (discard op : Op Unit) = op >>= fun _ => pure () := rfl
  rw [hd, ends_bind]
  constructor
  · rintro (⟨e, h, rfl⟩ | ⟨x, c₁, w₁, h, hp⟩)
    · exact ⟨.error e, h, rfl⟩
    · obtain ⟨rfl, rfl, rfl⟩ := ends_pure.1 hp
      exact ⟨.ok x, h, rfl⟩
  · rintro ⟨x | x, h, rfl⟩
    · exact .inl ⟨x, h, rfl⟩
    · exact .inr ⟨x, c', w', h, ends_pure.2 ⟨rfl, rfl, rfl⟩⟩

/-! ## Parts of operations -/

/-- how every statement begins: in a session that is made sure of, and with its limit for what comes then -/
def beginning (statement : Statement) (own : Option Duration) (k : Option Duration → Op α) : Op α := do
  connect false
  modify fun c => c.beginStatement statement
  let limit ← ofExcept ((← get).limit own)
  k limit

/-- a statement for the server's own savepoints, or nothing where it has none -/
def marking (text : String) : Op Unit := do
  if ← hasSavepoints then discard (query text none)

/-- the statement of a transaction that is counted already; if it fails, the transaction is not counted any more -/
def opening (statement : Op Unit) : Op Unit := do
  match ← attempt statement with
  | .ok () => pure ()
  | .error e =>
    modify fun c => { c with depth := c.depth - 1 }
    throw e

/-- the innermost transaction is not counted any more: the depth that it had -/
def countingOff : Op Nat := do
  let depth := (← get).depth
  modify fun c => { c with depth := depth - 1 }
  pure depth

/-- an open transaction is undone as a whole -/
def undoing : Op Unit := do
  if 0 < (← get).depth then
    modify fun c => { c with depth := 1 }
    rollback

end Op

end SqlSession
