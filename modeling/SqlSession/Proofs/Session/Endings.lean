/-
Calls that end a query.

A `Terminal` takes the clauses that were recorded on its connection, compiles them, and sends what they compile to.
- `Terminal.perform_eq`: in this order, so a query that does not compile is over before anything else happens;
- `compile_error_first`: then the call gives that error, and there is no act, no wait and no change but to the draft.
-/
import SqlSession.Proofs.Session.Keeping

namespace SqlSession

open Query (Clause Command Draft InsertVerb Registry Row)

namespace Timed

variable {σ α β γ : Type}

theorem bind_assoc (t : Timed σ α) (f : α → Timed σ β) (g : β → Timed σ γ) :
    (t.bind f).bind g = t.bind fun x => (f x).bind g := by
  induction t with
  | done x => rfl
  | act change rest ih => exact congrArg (act change) (funext ih)
  | wait millis rest ih => exact congrArg (wait millis) ih

theorem bind_done (t : Timed σ α) : t.bind done = t := by
  induction t with
  | done x => rfl
  | act change rest ih => exact congrArg (act change) (funext ih)
  | wait millis rest ih => exact congrArg (wait millis) ih

instance : LawfulMonad (Timed σ) :=
  LawfulMonad.mk' (Timed σ) bind_done (fun _ _ => rfl) bind_assoc

end Timed

namespace Op

variable {α β : Type} {c c₁ : Connection}

theorem bind_of_ok {op : Op α} {x : α} (h : op c = .done (.ok x, c₁)) (k : α → Op β) : (op >>= k) c = k x c₁ := by
  show (op c).bind (fun p => ExceptT.bindCont k p.1 p.2) = _
  rw [h]
  rfl

/-- what comes of an operation as it is seen from outside: what goes on then goes on behind an abort as well -/
def observed (op : Op α) : Op (Except Error α) :=
  fun c => do
    let (result, c) ← op.run.run c
    pure (.ok result, c)

theorem ends_observed_bind {others : World → World → Prop} {c' : Connection} {w w' : World} {op : Op α}
    {f : Except Error α → Op β} {r : Except Error β} (h : Ends others (observed op >>= f) c w r c' w') :
    ∃ x c₁ w₁, Ends others op c w x c₁ w₁ ∧ Ends others (f x) c₁ w₁ r c' w' := by
  have hseen : ∀ {r c₁ w₁}, Ends others (observed op) c w r c₁ w₁ → ∃ x, r = .ok x ∧ Ends others op c w x c₁ w₁ := by
    intro r c₁ w₁ h
    obtain ⟨⟨x, c₂⟩, w₂, hx, hd⟩ := Timed.ends_bind.1 h
    obtain ⟨heq, rfl⟩ := Timed.ends_done.1 hd
    obtain ⟨rfl, rfl⟩ := Prod.mk.inj heq
    exact ⟨x, rfl, hx⟩
  rcases ends_bind.1 h with ⟨e, h, -⟩ | ⟨y, c₁, w₁, h, hf⟩
  · obtain ⟨_, heq, -⟩ := hseen h
    cases heq
  · obtain ⟨x, heq, hx⟩ := hseen h
    cases heq
    exact ⟨_, c₁, w₁, hx, hf⟩

/-- two operations that go on alike, each in its own state -/
theorem observed_bind_congr {op op' : Op α} (h : op c = op' c₁) (k : Except Error α → Op β) :
    (observed op >>= k) c = (observed op' >>= k) c₁ := by
  show ((op c).bind fun p => .done (.ok p.1, p.2)).bind (fun p => ExceptT.bindCont k p.1 p.2) = _
  rw [h]
  rfl

theorem bind_of_error {op : Op α} {e : Error} (h : op c = .done (.error e, c₁)) (k : α → Op β) :
    (op >>= k) c = .done (.error e, c₁) := by
  show (op c).bind (fun p => ExceptT.bindCont k p.1 p.2) = _
  rw [h]
  rfl

end Op

/-- a call that ends a query and takes its clauses -/
inductive Terminal : Type → Type
  /-- the rows, or a prepared statement instead of them -/
  | select (asHandle : Bool) : Terminal Selection
  | first : Terminal (Option Record)
  | value (name : String) : Terminal (Option Datum)
  | column (name : String) : Terminal (List Datum)
  | insert (verb : InsertVerb) (row : Row) : Terminal Nat
  | update (row : Row) (force : Bool) : Terminal Nat
  | delete (force : Bool) : Terminal Nat

/-- the draft behind these clauses, each of them tried, and what came of each -/
def Connection.recorded (c : Connection) (clauses : List Clause) : Draft × List (Except Error Unit) :=
  c.draft.recordEach (some c.registry) clauses

namespace Terminal

variable {α : Type}

def perform (own : Option Duration) : Terminal α → Op α
  | select asHandle => Op.select asHandle own
  | first => Op.first own
  | value name => Op.value name own
  | column name => Op.column name own
  | insert verb row => Op.insert verb row own
  | update row force => Op.update row force own
  | delete force => Op.delete force own

/-- the clauses that the call adds -/
def clauses : Terminal α → List Clause
  | first => [.limit ⟨none, 1⟩]
  | value name => [.fields [name], .limit ⟨none, 1⟩]
  | column name => [.fields [name]]
  | _ => []

def command : Terminal α → Command
  | insert verb row => .insert verb row
  | update row force => .update row force
  | delete force => .delete force
  | _ => .select

/-- whether the call asks for the count of rows behind the statement -/
def counts (d : Draft) : Terminal α → Bool
  | insert _ _ => false
  | update _ _ => false
  | delete _ => false
  | _ => d.wantsTotalCount

/-- what the call makes of the answer to its statement -/
def answer : Terminal α → Reply → α
  | select _, reply => .rows reply.rows
  | first, reply => reply.rows.first?
  | value name, reply => reply.rows.first?.bind fun r => r.get? name
  | column name, reply => reply.rows.column name
  | insert _ _, reply => reply.insertId
  | update _ _, reply => reply.affected
  | delete _, reply => reply.affected

/-- runs a statement for a call, and asks for the count of its rows -/
def run (own : Option Duration) (d : Draft) (s : Statement) (t : Terminal α) : Op α := do
  let reply ← Op.execute s own
  if t.counts d then Op.fetchTotalCount
  pure (t.answer reply)

/-- what the call does once its draft is compiled -/
def send (own : Option Duration) (d : Draft) (s : Statement) : Terminal α → Op α
  | select true => do pure (.handle (← Op.prepare s own))
  | t => t.run own d s

/-- a draft is taken and compiled before anything is done with the statement -/
theorem compiled_eq (compile : Draft → Except Error Statement) (c : Connection) (k : Draft → Statement → Op α) :
    (do
      let draft ← Op.takeDraft
      let s ← Op.ofExcept (compile draft)
      k draft s : Op α) c = match compile c.draft with
      | .error e => .done (.error e, c.clearDraft)
      | .ok s => k c.draft s c.clearDraft := by
  have htake : Op.takeDraft c = .done (.ok c.draft, c.clearDraft) := rfl
  rw [Op.bind_of_ok htake]
  cases hs : compile c.draft with
  | error e => exact Op.bind_of_error rfl _
  | ok s => exact Op.bind_of_ok rfl _

theorem select_eq (asHandle : Bool) (own : Option Duration) (c : Connection) :
    Op.select asHandle own c = match c.draft.compileSelect with
      | .error e => .done (.error e, c.clearDraft)
      | .ok s => (select asHandle).send own c.draft s c.clearDraft := by
  cases asHandle with
  | true => exact compiled_eq Draft.compileSelect c fun d s => (select true).send own d s
  | false => exact compiled_eq Draft.compileSelect c fun d s => (select false).run own d s

/-- what is made of the rows of a SELECT -/
theorem selectRows_eq (own : Option Duration) (c : Connection) (f : RowSet → α) :
    (do pure (f (← Op.selectRows own)) : Op α) c = match c.draft.compileSelect with
      | .error e => .done (.error e, c.clearDraft)
      | .ok s => (do
        let reply ← Op.execute s own
        if c.draft.wantsTotalCount then Op.fetchTotalCount
        pure (f reply.rows) : Op α) c.clearDraft := by
  have hrows : (do pure (f (← Op.selectRows own)) : Op α) = (do
      let draft ← Op.takeDraft
      let s ← Op.ofExcept draft.compileSelect
      (do
        let reply ← Op.execute s own
        if draft.wantsTotalCount then Op.fetchTotalCount
        pure (f reply.rows) : Op α)) := by
    simp only [Op.selectRows, Op.select, bind_assoc, Bool.false_eq_true, ite_false]
    refine bind_congr fun d => bind_congr fun s => bind_congr fun reply => ?_
    cases d.wantsTotalCount <;> simp [Selection.rows?]
  rw [hrows]
  exact compiled_eq Draft.compileSelect c _

/-- what is made of the reply to a change -/
theorem change_eq (compile : Draft → Except Error Statement) (own : Option Duration) (c : Connection)
    (f : Reply → α) :
    (do pure (f (← Op.change compile own)) : Op α) c = match compile c.draft with
      | .error e => .done (.error e, c.clearDraft)
      | .ok s => (do pure (f (← Op.execute s own)) : Op α) c.clearDraft := by
  have hreply : (do pure (f (← Op.change compile own)) : Op α) = (do
      let draft ← Op.takeDraft
      let s ← Op.ofExcept (compile draft)
      (do pure (f (← Op.execute s own)) : Op α)) := by
    simp only [Op.change, bind_assoc]
  rw [hreply]
  exact compiled_eq compile c fun _ s => do pure (f (← Op.execute s own))

/-- a call compiles before it does anything else, and has taken the clauses by then -/
theorem perform_eq (t : Terminal α) (own : Option Duration) (c : Connection) :
    t.perform own c = match (c.recorded t.clauses).1.compile t.command with
      | .error e => .done (.error e, c.clearDraft)
      | .ok s => t.send own (c.recorded t.clauses).1 s c.clearDraft := by
  let c₁ : Connection := { c with draft := (c.recorded t.clauses).1 }
  cases t with
  | select asHandle => exact select_eq asHandle own c
  | first => exact selectRows_eq own c₁ RowSet.first?
  | value name => exact selectRows_eq own c₁ fun rows => rows.first?.bind fun r => r.get? name
  | column name => exact selectRows_eq own c₁ fun rows => rows.column name
  | insert verb row => exact change_eq _ own c Reply.insertId
  | update row force => exact change_eq _ own c Reply.affected
  | delete force => exact change_eq _ own c Reply.affected

end Terminal

namespace Op

variable {α : Type}

/-- tries to record each of these clauses -/
def recordEach : List Clause → Op (List (Except Error Unit))
  | [] => pure []
  | clause :: rest => do
    let verdict ← observed (record clause)
    pure (verdict :: (← recordEach rest))

/-- a query: clauses, of which some may be refused, and the call that ends it; what comes of them -/
def queried (clauses : List Clause) (t : Terminal α) (own : Option Duration) :
    Op (List (Except Error Unit) × Except Error α) := do
  let verdicts ← recordEach clauses
  pure (verdicts, ← observed (t.perform own))

theorem recordEach_eq (clauses : List Clause) (c : Connection) :
    recordEach clauses c = .done (.ok (c.recorded clauses).2, { c with draft := (c.recorded clauses).1 }) := by
  induction clauses generalizing c with
  | nil => rfl
  | cons clause rest ih =>
    have hrecord : observed (record clause) c = .done (.ok (c.draft.recordIn (some c.registry) clause).2,
        { c with draft := (c.draft.recordIn (some c.registry) clause).1 }) := rfl
    rw [recordEach, bind_of_ok hrecord, bind_of_ok (ih _)]
    rfl

/-- the clauses of a query touch nothing but the draft, which is compiled before anything else happens -/
theorem queried_eq (clauses : List Clause) (t : Terminal α) (own : Option Duration) (c : Connection) :
    queried clauses t own c = match (c.recorded (clauses ++ t.clauses)).1.compile t.command with
      | .error e => .done (.ok ((c.recorded clauses).2, .error e), c.clearDraft)
      | .ok s => (do
        let result ← observed (t.send own (c.recorded (clauses ++ t.clauses)).1 s)
        pure ((c.recorded clauses).2, result)) c.clearDraft := by
  let c₁ : Connection := { c with draft := (c.recorded clauses).1 }
  have hdrafted : (c₁.recorded t.clauses).1 = (c.recorded (clauses ++ t.clauses)).1 :=
    (Draft.recordEach_append _ _ _ _).symm
  have hclear : c₁.clearDraft = c.clearDraft := by
    have hbefore : c₁.draft.tablePrefix = c.draft.tablePrefix := Draft.tablePrefix_recordEach _ _ _
    show { c with draft := Draft.fresh c₁.draft.tablePrefix } = _
    rw [hbefore]
    rfl
  have hperform := t.perform_eq own c₁
  rw [hdrafted, hclear] at hperform
  rw [queried, bind_of_ok (recordEach_eq clauses c)]
  show (observed (t.perform own) >>= fun r => pure ((c.recorded clauses).2, r)) c₁ = _
  cases hs : (c.recorded (clauses ++ t.clauses)).1.compile t.command with
  | error e =>
    rw [hs] at hperform
    have hthrow : t.perform own c₁ = (throw e : Op α) c.clearDraft := hperform
    exact observed_bind_congr hthrow _
  | ok s =>
    rw [hs] at hperform
    exact observed_bind_congr hperform _

end Op

/-! ## Queries that do not compile -/

namespace Query

/-- what is wrong with a draft that does not compile -/
inductive Fault : Error → Prop
  | table : Fault .tableNotSet
  /-- a change of a whole table that is not forced -/
  | unconditional (verb : String) : Fault (.emptyCondition verb)
  /-- a comparand that the operator does not take, a column without a value, an update of nothing -/
  | argument (reason : String) : Fault (.invalidArgument reason)

theorem except_bind_error {ε α β : Type} {x : Except ε α} {f : α → Except ε β} {e : ε} :
    x >>= f = .error e ↔ x = .error e ∨ ∃ a, x = .ok a ∧ f a = .error e := by
  cases x with
  | error e' => simp [bind, Except.bind]
  | ok a => simp [bind, Except.bind]

namespace Condition

theorem fault_membership {c : Condition} {e : Error} (h : c.membershipParts = .error e) : Fault e := by
  unfold membershipParts at h
  split at h
  · cases h; exact .argument _
  · cases h
  · cases h
  · cases h
  · cases h; exact .argument _

theorem fault_range {c : Condition} {e : Error} (h : c.rangeParts = .error e) : Fault e := by
  unfold rangeParts at h
  split at h
  · cases h
  · cases h; exact .argument _

theorem fault_existence {c : Condition} {e : Error} (h : c.existenceParts = .error e) : Fault e := by
  unfold existenceParts at h
  split at h
  · cases h
  · cases h; exact .argument _

theorem fault_render {c : Condition} {e : Error} (h : c.render = .error e) : Fault e := by
  unfold render at h
  split at h
  · cases h
  · cases h
  · obtain h | ⟨_, -, h⟩ := except_bind_error.1 h
    · exact fault_membership h
    · cases h
  · obtain h | ⟨_, -, h⟩ := except_bind_error.1 h
    · exact fault_range h
    · cases h
  · obtain h | ⟨_, -, h⟩ := except_bind_error.1 h
    · exact fault_existence h
    · cases h

theorem fault_renderAll {keep : Bool} {conditions : List Condition} {e : Error}
    (h : renderAll keep conditions = .error e) : Fault e := by
  induction conditions generalizing keep with
  | nil => cases h
  | cons c rest ih =>
    rw [renderAll] at h
    split at h
    · exact ih h
    · obtain h | ⟨_, -, h⟩ := except_bind_error.1 h
      · exact fault_render h
      · obtain h | ⟨_, -, h⟩ := except_bind_error.1 h
        · exact ih h
        · cases h

theorem fault_chain {keep : Bool} {conditions : List Condition} {e : Error} (h : chain keep conditions = .error e) :
    Fault e := by
  obtain h | ⟨_, -, h⟩ := except_bind_error.1 h
  · exact fault_renderAll h
  · cases h

end Condition

namespace Draft

theorem fault_joinSections {conditions : List (String × Condition)} {joins : List Join} {e : Error}
    (h : joinSections conditions joins = .error e) : Fault e := by
  induction joins with
  | nil => cases h
  | cons join rest ih =>
    obtain h | ⟨_, -, h⟩ := except_bind_error.1 h
    · obtain h | ⟨_, -, h⟩ := except_bind_error.1 h
      · exact Condition.fault_chain h
      · cases h
    · obtain h | ⟨_, -, h⟩ := except_bind_error.1 h
      · exact ih h
      · cases h

theorem fault_conditionSection {keyword : String} {conditions : List Condition} {e : Error}
    (h : conditionSection keyword conditions = .error e) : Fault e := by
  obtain h | ⟨_, -, h⟩ := except_bind_error.1 h
  · exact Condition.fault_chain h
  · cases h

theorem fault_duplicateValues {inserted : Row} {columns : List (String × Option Operand)} {e : Error}
    (h : columns.mapM (duplicateValue inserted) = .error e) : Fault e := by
  induction columns with
  | nil => cases h
  | cons entry rest ih =>
    rw [List.mapM_cons] at h
    obtain h | ⟨_, -, h⟩ := except_bind_error.1 h
    · unfold duplicateValue at h
      split at h
      · cases h
      · cases h
      · cases h; exact .argument _
    · obtain h | ⟨_, -, h⟩ := except_bind_error.1 h
      · exact ih h
      · cases h

theorem fault_duplicateSection {d : Draft} {data : Data} {e : Error} (h : d.duplicateSectionOf data = .error e) :
    Fault e := by
  cases data with
  | none => cases h
  | set row => cases h
  | values inserted =>
    simp only [duplicateSectionOf] at h
    cases hd : d.onDuplicate with
    | none =>
      rw [hd] at h
      cases h
    | some dup =>
      obtain ⟨pieces, hpieces⟩ := duplicateSection_some inserted dup
      rw [hd, hpieces] at h
      obtain h | ⟨row, -, h⟩ := except_bind_error.1 h
      · exact fault_duplicateValues h
      · cases h

theorem fault_check {d : Draft} {command : Command} {e : Error} (h : command.check d = .error e) : Fault e := by
  cases command with
  | select => cases h
  | insert verb row => cases h
  | update row force =>
    simp only [Command.check] at h
    split_ifs at h
    · cases h; exact .unconditional _
    · cases h; exact .argument _
  | delete force =>
    simp only [Command.check] at h
    split_ifs at h
    cases h
    exact .unconditional _

theorem fault_target {d : Draft} {e : Error} (h : d.target = .error e) : Fault e := by
  unfold target at h
  split at h
  · split_ifs at h
    cases h
    exact .table
  · cases h
    exact .table

/-- a draft fails to compile for no other reason -/
theorem fault_compile {d : Draft} {command : Command} {e : Error} (h : d.compile command = .error e) : Fault e := by
  rw [compile_eq] at h
  obtain h | ⟨_, -, h⟩ := except_bind_error.1 h
  · exact fault_check h
  obtain h | ⟨_, -, h⟩ := except_bind_error.1 h
  · exact fault_target h
  obtain h | ⟨_, -, h⟩ := except_bind_error.1 h
  · exact fault_joinSections h
  obtain h | ⟨_, -, h⟩ := except_bind_error.1 h
  · exact fault_conditionSection h
  obtain h | ⟨_, -, h⟩ := except_bind_error.1 h
  · exact fault_conditionSection h
  obtain h | ⟨_, -, h⟩ := except_bind_error.1 h
  · exact fault_duplicateSection h
  · cases h

end Draft

end Query

/-- **Queries that do not compile end there.** In every state of the connection, whatever clauses were recorded: the
call gives the error of the compilation, without an act and without a wait, and the connection is as it was but for its
draft, which is cleared. -/
theorem compile_error_first {α : Type} (c : Connection) (clauses : List Clause) (t : Terminal α)
    (own : Option Duration) {e : Error}
    (h : (c.recorded (clauses ++ t.clauses)).1.compile t.command = .error e) :
    Query.Fault e ∧
      Op.queried clauses t own c = .done (.ok ((c.recorded clauses).2, .error e), c.clearDraft) := by
  refine ⟨Draft.fault_compile h, ?_⟩
  rw [Op.queried_eq]
  simp only [h]

/-- a connection with an open transaction and a lost session, and a change of a whole table that is not forced -/
theorem compile_error_first_unforced :
    let c := { Connection.new (.new 0) .standard .empty with depth := 2, needsReconnect := true, lastErrno := 2006 }
    Op.queried [.table "t", .limit ⟨none, 1⟩] (.delete false) none c =
      .done (.ok ([.ok (), .ok ()], .error (.emptyCondition "delete")), c) :=
  (compile_error_first _ [.table "t", .limit ⟨none, 1⟩] (.delete false) none rfl).2

end SqlSession
