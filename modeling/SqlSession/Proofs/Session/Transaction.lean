/-
How the steps of transactions can end.

Opening and leaving a transaction make sure of a session first, then count, then send their statement, if there is one.
Each theorem takes one operation apart into these: `ends_start`, `ends_commit`, `ends_rollback`, `ends_transaction`.
-/
import SqlSession.Proofs.Session.Requests
import SqlSession.Session.Transaction

namespace SqlSession

namespace Connection

/-- one transaction more -/
def deeper (c : Connection) : Connection := { c with depth := c.depth + 1 }

/-- one transaction less, if there is one -/
def shallower (c : Connection) : Connection := { c with depth := c.depth - 1 }

end Connection

namespace Op

variable {α : Type} {others : World → World → Prop} {c c' : Connection} {w w' : World}

theorem ends_hasSavepoints {r : Except Error Bool} (h : Ends others hasSavepoints c w r c' w') :
    ∃ w₁, others w w₁ ∧ r = .ok w₁.server.savepoints ∧ c' = c ∧ w' = w₁ := by
  obtain ⟨x, rfl, rfl, hl⟩ := ends_shared.1 h
  obtain ⟨w₁, hs, hl⟩ := Timed.ends_act.1 hl
  obtain ⟨rfl, rfl⟩ := Timed.ends_done.1 hl
  exact ⟨w', hs, rfl, rfl, rfl⟩

/-- a statement for the server's own savepoints, or nothing where it has none -/
inductive Marking (others : World → World → Prop) (text : String) (c : Connection) (w : World) :
    Except Error Unit → Connection → World → Prop
  | skipped (w₁ : World) (shared : others w w₁) (none : w₁.server.savepoints = false) :
      Marking others text c w (.ok ()) c w₁
  | asked (w₁ : World) (x : Except Error RowSet) (c' : Connection) (w' : World) (shared : others w w₁)
      (sent : Ends others (query text none) c w₁ x c' w') : Marking others text c w (x.map fun _ => ()) c' w'

theorem ends_marking {text : String} {r : Except Error Unit}
    (h : Ends others (marking text) c w r c' w') : Marking others text c w r c' w' := by
  rcases ends_bind.1 h with ⟨e, hb, -⟩ | ⟨b, c₁, w₁, hb, h⟩
  · obtain ⟨_, _, heq, -⟩ := ends_hasSavepoints hb
    cases heq
  obtain ⟨w₂, hs, heq, rfl, rfl⟩ := ends_hasSavepoints hb
  cases heq
  split at h
  · obtain ⟨x, hq, rfl⟩ := ends_discard.1 h
    exact .asked w₁ x _ _ hs hq
  · next hn =>
    obtain ⟨rfl, rfl, rfl⟩ := ends_pure.1 h
    exact .skipped w' hs (by simpa using hn)

/-- how a transaction is opened at a depth -/
inductive Starting (others : World → World → Prop) (depth : Nat) (c : Connection) (w : World) :
    Except Error Unit → Connection → World → Prop
  | outermost (x : Except Error RowSet) (c' : Connection) (w' : World) (first : depth = 1)
      (sent : Ends others (query "BEGIN" none) c w x c' w') : Starting others depth c w (x.map fun _ => ()) c' w'
  | inner (r : Except Error Unit) (c' : Connection) (w' : World) (further : depth ≠ 1)
      (marked : Marking others ("SAVEPOINT " ++ savepointName depth) c w r c' w') : Starting others depth c w r c' w'

theorem ends_startStatement {depth : Nat} {r : Except Error Unit}
    (h : Ends others (startStatement depth) c w r c' w') : Starting others depth c w r c' w' := by
  unfold startStatement at h
  split at h
  · next hd =>
    obtain ⟨x, hq, rfl⟩ := ends_discard.1 h
    exact .outermost x _ _ hd hq
  · next hd => exact .inner r _ _ hd (ends_marking h)

theorem ends_start {r : Except Error Unit} (h : Ends others start c w r c' w') (ha : Apart others c.client.id) :
    (∃ e, r = .error e ∧ Connected others c w (.error e) c' w') ∨
      ∃ c₁ w₁ x c₂, Connected others c w (.ok ()) c₁ w₁ ∧ Starting others (c₁.depth + 1) c₁.deeper w₁ x c₂ w' ∧
        ((x = .ok () ∧ r = .ok () ∧ c' = c₂) ∨
          ∃ e, x = .error e ∧ r = .error e ∧ c' = if e.isAbort then c₂ else c₂.shallower) := by
  rcases ends_bind.1 h with ⟨e, hc, rfl⟩ | ⟨_, c₁, w₁, hc, h⟩
  · exact .inl ⟨e, rfl, ends_connect hc ha⟩
  rw [ends_get_bind] at h
  dsimp only at h
  rw [ends_modify_bind, ends_attempt_bind] at h
  obtain ⟨e, he, hs, rfl⟩ | ⟨x, c₂, w₂, hx, hs, h⟩ := h
  · exact .inr ⟨c₁, w₁, .error e, c', ends_connect hc ha, ends_startStatement hs, .inr ⟨e, rfl, rfl, (if_pos he).symm⟩⟩
  refine .inr ⟨c₁, w₁, x, c₂, ends_connect hc ha, ?_⟩
  cases x with
  | ok _ =>
    obtain ⟨rfl, rfl, rfl⟩ := ends_pure.1 h
    exact ⟨ends_startStatement hs, .inl ⟨rfl, rfl, rfl⟩⟩
  | error e =>
    rw [ends_modify_bind] at h
    obtain ⟨rfl, rfl, rfl⟩ := ends_throw.1 h
    exact ⟨ends_startStatement hs, .inr ⟨e, rfl, rfl, (if_neg (Bool.eq_false_iff.1 hx)).symm⟩⟩

/-- how a transaction is left: none was open, or it is counted off in a session that was made sure of -/
inductive Leaving (others : World → World → Prop) (c : Connection) (w : World) :
    Except Error Nat → Connection → World → Prop
  | outside (none : c.depth = 0) : Leaving others c w (.ok 0) c.shallower w
  | unconnected (e : Error) (c' : Connection) (w' : World) (open_ : 0 < c.depth)
      (connected : Connected others c w (.error e) c' w') : Leaving others c w (.error e) c' w'
  | left (c₁ : Connection) (w₁ : World) (open_ : 0 < c.depth) (connected : Connected others c w (.ok ()) c₁ w₁) :
      Leaving others c w (.ok c₁.depth) c₁.shallower w₁

theorem ends_leave {r : Except Error Nat} (h : Ends others leave c w r c' w') (ha : Apart others c.client.id) :
    Leaving others c w r c' w' := by
  rw [leave, ends_get_bind] at h
  dsimp only at h
  split at h
  · next hd =>
    rcases ends_bind.1 h with ⟨e, hc, rfl⟩ | ⟨_, c₁, w₁, hc, h⟩
    · exact .unconnected e _ _ hd (ends_connect hc ha)
    rw [ends_get_bind, ends_modify_bind] at h
    obtain ⟨rfl, rfl, rfl⟩ := ends_pure.1 h
    exact .left c₁ _ hd (ends_connect hc ha)
  · next hd =>
    rw [ends_get_bind, ends_modify_bind] at h
    obtain ⟨rfl, rfl, rfl⟩ := ends_pure.1 h
    have hz : c.depth = 0 := by omega
    have hl : ∀ n, n = 0 → Leaving others c w' (.ok n) c.shallower w' := by
      rintro _ rfl
      exact .outside hz
    exact hl c.depth hz

/-- how a transaction is made to last: only the outermost one has a statement for that -/
inductive Committing (others : World → World → Prop) (c : Connection) (w : World) :
    Except Error Unit → Connection → World → Prop
  | unconnected (e : Error) (c' : Connection) (w' : World) (left : Leaving others c w (.error e) c' w') :
      Committing others c w (.error e) c' w'
  | counted (depth : Nat) (c' : Connection) (w' : World) (inner : depth ≠ 1)
      (left : Leaving others c w (.ok depth) c' w') : Committing others c w (.ok ()) c' w'
  | sent (c₁ : Connection) (w₁ : World) (x : Except Error RowSet) (c' : Connection) (w' : World)
      (left : Leaving others c w (.ok 1) c₁ w₁) (sent : Ends others (query "COMMIT" none) c₁ w₁ x c' w') :
      Committing others c w (x.map fun _ => ()) c' w'

theorem ends_commit {r : Except Error Unit} (h : Ends others commit c w r c' w') (ha : Apart others c.client.id) :
    Committing others c w r c' w' := by
  rcases ends_bind.1 h with ⟨e, hl, rfl⟩ | ⟨depth, c₁, w₁, hl, h⟩
  · exact .unconnected e _ _ (ends_leave hl ha)
  split at h
  · next hd =>
    subst hd
    obtain ⟨x, hq, rfl⟩ := ends_discard.1 h
    exact .sent c₁ w₁ x _ _ (ends_leave hl ha) hq
  · next hd =>
    obtain ⟨rfl, rfl, rfl⟩ := ends_pure.1 h
    exact .counted depth _ _ hd (ends_leave hl ha)

/-- how a transaction is undone -/
inductive RollingBack (others : World → World → Prop) (c : Connection) (w : World) :
    Except Error Unit → Connection → World → Prop
  | unconnected (e : Error) (c' : Connection) (w' : World) (left : Leaving others c w (.error e) c' w') :
      RollingBack others c w (.error e) c' w'
  | outside (c' : Connection) (w' : World) (left : Leaving others c w (.ok 0) c' w') :
      RollingBack others c w (.ok ()) c' w'
  | outermost (c₁ : Connection) (w₁ : World) (x : Except Error RowSet) (c' : Connection) (w' : World)
      (left : Leaving others c w (.ok 1) c₁ w₁) (sent : Ends others (query "ROLLBACK" none) c₁ w₁ x c' w') :
      RollingBack others c w (x.map fun _ => ()) c' w'
  | inner (depth : Nat) (c₁ : Connection) (w₁ : World) (r : Except Error Unit) (c' : Connection) (w' : World)
      (further : 1 < depth) (left : Leaving others c w (.ok depth) c₁ w₁)
      (marked : Marking others ("ROLLBACK TO SAVEPOINT " ++ savepointName depth) c₁ w₁ r c' w') :
      RollingBack others c w r c' w'

theorem ends_rollback {r : Except Error Unit} (h : Ends others rollback c w r c' w') (ha : Apart others c.client.id) :
    RollingBack others c w r c' w' := by
  rcases ends_bind.1 h with ⟨e, hl, rfl⟩ | ⟨depth, c₁, w₁, hl, h⟩
  · exact .unconnected e _ _ (ends_leave hl ha)
  split at h
  · next hd =>
    subst hd
    obtain ⟨x, hq, rfl⟩ := ends_discard.1 h
    exact .outermost c₁ w₁ x _ _ (ends_leave hl ha) hq
  split at h
  · next hd => exact .inner depth c₁ w₁ r c' w' hd (ends_leave hl ha) (ends_marking h)
  · obtain ⟨rfl, rfl, rfl⟩ := ends_pure.1 h
    have hz : depth = 0 := by omega
    subst hz
    exact .outside _ _ (ends_leave hl ha)

/-- what a transaction ends with: the error of its work, or else what its ending came to; an abort is passed on -/
def outcome (x : Except Error α) (z : Except Error Unit) : Except Error α :=
  match x with
  | .ok a => z.map fun _ => a
  | .error e =>
    match caught z with
    | .ok _ => .error e
    | .error e' => .error e'

/-- its error is told of, unless its rollback is aborted -/
theorem outcome_error {e : Error} {z : Except Error Unit} (h : aborts z = false) :
    outcome (.error e : Except Error α) z = .error e := by
  simp only [outcome, caught_of_not h]

theorem outcome_abort {x : Except Error α} {e : Error} (h : e.isAbort = true) : outcome x (.error e) = .error e := by
  cases x with
  | ok a => rfl
  | error _ => simp only [outcome, caught_error h]

theorem aborts_outcome {x : Except Error α} {z : Except Error Unit} (hx : aborts x = false) (hz : aborts z = false) :
    aborts (outcome x z) = false := by
  cases x with
  | ok a =>
    cases z with
    | ok _ => rfl
    | error e => exact hz
  | error e => exact (outcome_error (α := α) hz).symm ▸ hx

/-- work that failed succeeds in no way, whatever its rollback came to -/
theorem outcome_error_ne_ok {e : Error} (z : Except Error Unit) {a : α} : outcome (.error e) z ≠ .ok a := by
  cases hz : aborts z with
  | false => simp [outcome_error hz]
  | true =>
    cases z with
    | ok _ => cases hz
    | error e' => simp [outcome_abort hz]

/-- how a transaction ends whose work came to this -/
theorem ends_settle {x r : Except Error α} (h : Ends others (settle x) c w r c' w') :
    (∃ a, x = .ok a ∧ ∃ z, Ends others commit c w z c' w' ∧ r = outcome x z) ∨
      ∃ e z, x = .error e ∧ r = outcome x z ∧ Ends others rollback c w z c' w' := by
  cases x with
  | ok a =>
    rcases ends_bind.1 h with ⟨e, hc, rfl⟩ | ⟨_, c₁, w₁, hc, h⟩
    · exact .inl ⟨a, rfl, .error e, hc, rfl⟩
    · obtain ⟨rfl, rfl, rfl⟩ := ends_pure.1 h
      exact .inl ⟨a, rfl, .ok (), hc, rfl⟩
  | error e =>
    rcases ends_bind.1 h with ⟨e', hd, rfl⟩ | ⟨_, c₁, w₁, hd, h⟩
    · obtain ⟨x, hx, heq⟩ := ends_discard.1 hd
      obtain ⟨z, rfl, hz⟩ := ends_attempt.1 hx
      cases hcaught : caught z with
      | ok y => rw [hcaught] at heq; cases heq
      | error e'' =>
        rw [hcaught] at heq
        cases heq
        exact .inr ⟨e, z, rfl, by simp only [outcome, hcaught], hz⟩
    · obtain ⟨x, hx, heq⟩ := ends_discard.1 hd
      obtain ⟨z, rfl, hz⟩ := ends_attempt.1 hx
      obtain ⟨rfl, rfl, rfl⟩ := ends_throw.1 h
      cases hcaught : caught z with
      | ok y => exact .inr ⟨e, z, rfl, by simp only [outcome, hcaught], hz⟩
      | error e'' => rw [hcaught] at heq; cases heq

theorem ends_transaction {work : Op α} {r : Except Error α} (h : Ends others (transaction work) c w r c' w') :
    (∃ e, Ends others start c w (.error e) c' w' ∧ r = .error e) ∨
      ∃ c₁ w₁, Ends others start c w (.ok ()) c₁ w₁ ∧
        ((∃ e, e.isAbort = true ∧ Ends others work c₁ w₁ (.error e) c' w' ∧ r = .error e) ∨
          ∃ x c₂ w₂, aborts x = false ∧ Ends others work c₁ w₁ x c₂ w₂ ∧ Ends others (settle x) c₂ w₂ r c' w') := by
  rcases ends_bind.1 h with ⟨e, hs, rfl⟩ | ⟨_, c₁, w₁, hs, h⟩
  · exact .inl ⟨e, hs, rfl⟩
  · exact .inr ⟨c₁, w₁, hs, ends_attempt_bind.1 h⟩

end Op

end SqlSession
