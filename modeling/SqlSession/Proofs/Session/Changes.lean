/-
What an update or a deletion put together on a connection sends.

- `Op.ends_change`: the draft is compiled first, and only what it compiles to is run;
- `Op.unforced_mutation`: so an unforced change sends no statement that is not held to some rows, unless the conditions
  of the draft are vacuous.
-/
import SqlSession.Proofs.Query.Unforced
import SqlSession.Proofs.Session.Requests
import SqlSession.Session.Bound

namespace SqlSession

open Query (Draft Mutation Clause)

/-- the ending of a query that makes the change -/
def Query.Mutation.send (force : Bool) (own : Option Duration) : Mutation → Op Nat
  | .update row => Op.update row force own
  | .delete => Op.delete force own

namespace Op

variable {others : World → World → Prop} {c c' : Connection} {w w' : World}

theorem ends_change {compile : Draft → Except Error Statement} {own : Option Duration} {r : Except Error Reply}
    (h : Ends others (change compile own) c w r c' w') :
    (∃ e, compile c.draft = .error e ∧ r = .error e ∧ c' = c.clearDraft ∧ w' = w) ∨
      ∃ s, compile c.draft = .ok s ∧ Ends others (execute s own) c.clearDraft w r c' w' := by
  have ht : ∀ {r c₁ w₁}, Ends others takeDraft c w r c₁ w₁ → r = .ok c.draft ∧ c₁ = c.clearDraft ∧ w₁ = w := by
    intro r c₁ w₁ h
    rw [takeDraft, ends_get_bind, ends_modify_bind] at h
    exact ends_pure.1 h
  rcases ends_bind.1 h with ⟨e, hd, -⟩ | ⟨draft, c₁, w₁, hd, h⟩
  · cases (ht hd).1
  obtain ⟨heq, rfl, rfl⟩ := ht hd
  cases heq
  obtain ⟨e, he, rfl, rfl, rfl⟩ | ⟨s, hs, h⟩ := ends_ofExcept_bind.1 h
  · exact .inl ⟨e, he, rfl, rfl, rfl⟩
  · exact .inr ⟨s, hs, h⟩

/-- the requests of a change all have the text that its draft compiles to -/
theorem requests_change {compile : Draft → Except Error Statement} {own : Option Duration} {r : Except Error Reply}
    (h : Ends others (change compile own) c w r c' w') (ha : Apart others c.client.id) :
    ∃ news, w'.own c.client.id = w.own c.client.id ++ news ∧
      ∀ e ∈ news, ∀ session request, e.request? = some (session, request) →
        ∃ s, compile c.draft = .ok s ∧ request.text = s.text := by
  obtain ⟨e, -, -, -, rfl⟩ | ⟨s, hs, h⟩ := ends_change h
  · exact ⟨[], by simp, by simp⟩
  · obtain ⟨news, hown, hn⟩ := (stated_execute (T := fun text => text = s.text) h ha rfl).sent.requests
    exact ⟨news, hown, fun e he session request heq => ⟨s, hs, hn e he session request heq⟩⟩

/-- a result that is only looked at differently -/
theorem ends_look {α β : Type} {op : Op α} {f : α → β} {r : Except Error β}
    (h : Ends others (do pure (f (← op))) c w r c' w') : ∃ x, Ends others op c w x c' w' := by
  rcases ends_bind.1 h with ⟨e, h, -⟩ | ⟨x, c₁, w₁, h, hp⟩
  · exact ⟨_, h⟩
  · obtain ⟨-, rfl, rfl⟩ := ends_pure.1 hp
    exact ⟨_, h⟩

/-- **Unforced changes.** What an unforced update or deletion compiles to is held to some rows, by conditions that are
not blank, if and only if the draft is not vacuous. Run on a connection, it sends what its draft compiles to or
nothing. -/
theorem unforced_mutation (m : Mutation) :
    (∀ (d : Draft) (s : Statement), d.compile (m.command false) = .ok s → (d.Holds m s ↔ ¬d.Vacuous)) ∧
      ∀ (others : World → World → Prop) (c c' : Connection) (w w' : World) (own : Option Duration)
        (r : Except Error Nat), Apart others c.client.id → Ends others (m.send false own) c w r c' w' →
        ∃ news, w'.own c.client.id = w.own c.client.id ++ news ∧
          ∀ e ∈ news, ∀ session request, e.request? = some (session, request) →
            ∃ s, c.draft.compile (m.command false) = .ok s ∧ request.text = s.text := by
  refine ⟨fun d s h => Draft.holds_unforced h, ?_⟩
  intro others c c' w w' own r ha h
  cases m with
  | update row =>
    obtain ⟨x, h⟩ := ends_look h
    exact requests_change h ha
  | delete =>
    obtain ⟨x, h⟩ := ends_look h
    exact requests_change h ha

/-- an empty expression counts as a condition and brings none: alone on a fresh connection, the whole table goes -/
theorem unforced_mutation_empties :
    ∃ d, (Draft.fresh "").recordAll [.ok (.table "t"), .ok (.filterRaw "" [])] = (d, .ok ()) ∧
      d.compile (Mutation.delete.command false) = .ok (.ofText "DELETE FROM t") ∧
      ¬d.Holds .delete (.ofText "DELETE FROM t") ∧
      let c := { Connection.new (.new 0) .standard .empty with draft := d }
      let w := (Mutation.delete.send false none c).run 0 .fresh |>.2.2
      w.server.ledger.filterMap Server.executed? = [.ofText "DELETE FROM t"] ∧
        ∀ e ∈ w.own 0, ∀ session request, e.request? = some (session, request) → request.text = "DELETE FROM t" := by
  refine ⟨_, rfl, rfl, fun h => ?_, ?_⟩
  · refine ((unforced_mutation .delete).1 _ _ rfl).1 h ⟨⟨.and, "", "", .list []⟩, rfl, ?_⟩
    exact ⟨by decide, by decide, trivial⟩
  · intro c w
    refine ⟨rfl, fun e he session request heq => ?_⟩
    have alone : Apart (· = ·) 0 := by
      rintro w _ rfl
      rfl
    have hrun := ends_run (fun _ => rfl) (Mutation.delete.send false none) c 0 .fresh
    obtain ⟨news, hown, hn⟩ := (unforced_mutation .delete).2 (· = ·) _ _ _ _ none _ alone hrun
    have hm : e ∈ news := by
      have hall : w.own 0 = news := hown
      rwa [hall] at he
    obtain ⟨s, hs, ht⟩ := hn e hm session request heq
    cases hs
    exact ht

end Op

end SqlSession
