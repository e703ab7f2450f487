/-
What holds of the calls of a connection holds of all that is put together from them.

`Rules` are the ways in which operations are put together, and the calls they are put together from. A property that
has them is one of every operation as data (`Rules.perform`) and of every program of operations (`Rules.program`).

Callers write texts of some kind `T`, which has all texts that do not control transactions; they may be `forced` to ask
for other sessions. What decides between programs, a draft for instance, is looked at and never restricted.
-/
import SqlSession.Proofs.Query.Command
import SqlSession.Proofs.Session.Control
import SqlSession.Proofs.Session.Program
import SqlSession.Session.Operation

namespace SqlSession

open Query (Clause Command Draft)

/-! ## Texts that operations write -/

namespace Query

/-- the word that a command's statement begins with -/
def Command.verb : Command → String
  | .select => "SELECT"
  | .insert verb _ => verb.text
  | .update _ _ => "UPDATE"
  | .delete _ => "DELETE"

theorem Command.isVerb (command : Command) : IsVerb command.verb := by
  have hselect : IsVerb "SELECT" ∧ IsVerb "UPDATE" ∧ IsVerb "DELETE" := by decide
  have hinsert : IsVerb "INSERT" ∧ IsVerb "REPLACE" := by decide
  cases command with
  | select => exact hselect.1
  | insert verb row =>
    cases verb with
    | insert => exact hinsert.1
    | replace => exact hinsert.2
  | update row force => exact hselect.2.1
  | delete force => exact hselect.2.2

theorem Command.head_eq (command : Command) (d : Draft) (table : String) :
    ∃ parts, parts ≠ [] ∧ command.head d table = command.verb :: parts := by
  cases command <;> exact ⟨_, by simp, rfl⟩

/-- **Drafts control no transactions.** -/
theorem Draft.plain_compile {d : Draft} {command : Command} {s : Statement} (h : d.compile command = .ok s) :
    IsPlain s.text := by
  obtain ⟨-, table, -, h⟩ := compile_eq_ok.1 h
  obtain ⟨rendered, rfl⟩ := assemble_eq_ok.1 h
  obtain ⟨parts, hne, hhead⟩ := command.head_eq d table
  obtain ⟨part, parts, rfl⟩ := List.exists_cons_of_ne_nil hne
  rw [hhead]
  exact command.isVerb.plain _

end Query

namespace Op

theorem plain_explain (text : String) : IsPlain ("EXPLAIN " ++ text) :=
  have hverb : IsVerb "EXPLAIN" := by decide
  hverb.plain text

theorem plain_lock (text : String) : IsPlain ("LOCK TABLES " ++ text) := by
  rw [show "LOCK TABLES " = "LOCK" ++ " " ++ "TABLES " from rfl, String.append_assoc]
  exact IsVerb.plain (by decide) _

theorem plain_show (what text : String) : IsPlain ("SHOW" ++ " " ++ what ++ text) := by
  rw [String.append_assoc]
  exact IsVerb.plain (by decide) _

end Op

/-! ## Callers -/

/-- no restriction of texts -/
def AnyText : String → Prop := fun _ => True

namespace Operation

mutual

/-- the caller writes such texts, asks for other sessions only if forced to, and leaves the server's ledger alone -/
def Fits (T : String → Prop) (forced : Bool) : Operation → Prop
  | arrange change => ∀ s, (change s).ledger = s.ledger
  | connect force => force = true → forced = true
  | disconnect => forced = true
  | prepare _ statement _ => T statement.text
  | execute statement _ => T statement.text
  | query text _ => T text
  | fetch statement => T statement.text
  | fetchFirst statement => T statement.text
  | batch statements => ∀ s ∈ statements, T s.text
  | transaction body _ => AllFit T forced body
  | _ => True

def AllFit (T : String → Prop) (forced : Bool) : List Operation → Prop
  | [] => True
  | operation :: rest => operation.Fits T forced ∧ AllFit T forced rest

end

end Operation

/-- a use of a connection by such a caller -/
inductive Use (T : String → Prop) (forced : Bool) : Type → Type
  | operation (step : Operation) (fits : step.Fits T forced) : Use T forced Answer

def Use.perform {T : String → Prop} {forced : Bool} {β : Type} : Use T forced β → Op β
  | operation step _ => step.perform

/-! ## The rules -/

/-- a property of operations that the calls of a connection have, and that is kept where operations are put together -/
structure Rules (T : String → Prop) (forced : Bool) (Q : (α : Type) → Op α → Prop) : Prop where
  pure : ∀ {α : Type} (x : α), Q α (pure x)
  throw : ∀ {α : Type} (e : Error), Q α (throw e)
  bind : ∀ {α β : Type} {op : Op α} {f : α → Op β}, Q α op → (∀ x, Q β (f x)) → Q β (op >>= f)
  get_bind : ∀ {β : Type} {f : Connection → Op β}, (∀ c, Q β (f c)) → Q β (get >>= f)
  attempt : ∀ {α : Type} {op : Op α}, Q α op → Q (Except Error α) (Op.attempt op)
  look : ∀ {α : Type} (f : World → α), Q α (Op.shared (.look f))
  pause : ∀ millis : Nat, Q Unit (Op.shared (.pause millis))
  keep : ∀ (name : String) (p : Prepared), Q Unit (Op.keep name p)
  arrange : ∀ change : Server → Server, (∀ s, (change s).ledger = s.ledger) →
    Q Unit (Op.shared (.change (World.arrange change)))
  /-- something is made of the draft, and it may change -/
  drafted : ∀ {α : Type} (f : Connection → Except Error α × Draft),
    Q α fun c => Pure.pure ((f c).1, { c with draft := (f c).2 })
  fieldCase : ∀ mode : FieldCase, Q Unit (modify fun c => { c with fieldCase := mode })
  lockMethod : ∀ method : LockMethod, Q Unit (modify fun c => { c with lockMethod := method })
  explained : ∀ text : String, Q Unit (modify fun c => { c with log := c.log.push .explain text })
  clearedLog : Q Unit (modify fun c => { c with log := c.log.clear })
  connect : Q Unit (Op.connect false)
  reconnect : forced = true → Q Unit (Op.connect true)
  disconnect : forced = true → Q Unit Op.disconnect
  beforeUse : Q Unit Op.beforeUse
  start : Q Unit Op.start
  commit : Q Unit Op.commit
  rollback : Q Unit Op.rollback
  prepare : ∀ (s : Statement) (own : Option Duration), T s.text → Q Prepared (Op.prepare s own)
  execute : ∀ (s : Statement) (own : Option Duration), T s.text → Q Reply (Op.execute s own)
  executePrepared : ∀ (p : Prepared) (own : Option Duration), Q Reply (Op.executePrepared p own)
  query : ∀ (text : String) (own : Option Duration), T text → Q RowSet (Op.query text own)
  /-- the count is asked for behind a statement that succeeded, and nowhere else -/
  counted : ∀ {α : Type} (s : Statement) (own : Option Duration) (f : Reply → α), T s.text →
    Q α (do
      let reply ← Op.execute s own
      Op.fetchTotalCount
      Pure.pure (f reply))

namespace Rules

variable {T : String → Prop} {forced : Bool} {Q : (α : Type) → Op α → Prop} {α β : Type} (h : Rules T forced Q)

/-! ## Ways of putting operations together -/

section

include h

theorem ofExcept (x : Except Error α) : Q α (Op.ofExcept x) := by
  cases x with
  | ok x => exact h.pure x
  | error e => exact h.throw e

theorem ofExcept_bind {x : Except Error α} {f : α → Op β} (hf : ∀ y, x = .ok y → Q β (f y)) :
    Q β (Op.ofExcept x >>= f) := by
  cases x with
  | ok y => exact hf y rfl
  | error e => exact h.throw e

theorem map {op : Op α} (hop : Q α op) (f : α → β) : Q β (op >>= fun x => Pure.pure (f x)) :=
  h.bind hop fun x => h.pure (f x)

theorem discard {op : Op α} (hop : Q α op) : Q Unit (discard op) := h.map hop fun _ => ()

theorem silent {op : Op Unit} (hop : Q Unit op) : Q Answer (Op.silent op) := h.map hop fun _ => Answer.unit

theorem giving {op : Op α} (hop : Q α op) (f : α → Answer) : Q Answer (Op.giving f op) := h.map hop f

theorem settle (x : Except Error α) : Q α (Op.settle x) := by
  cases x with
  | ok x => exact h.map h.commit fun _ => x
  | error e => exact h.bind (h.discard (h.attempt h.rollback)) fun _ => h.throw e

theorem transaction {work : Op α} (hwork : Q α work) : Q α (Op.transaction work) :=
  h.bind h.start fun _ => h.bind (h.attempt hwork) fun x => h.settle x

/-! ## Operations -/

theorem clearDraft : Q Unit (modify Connection.clearDraft) := h.drafted fun c => (.ok (), c.draft.reset)

theorem takeDraft : Q Draft Op.takeDraft := h.get_bind fun d => h.map h.clearDraft fun _ => d.draft

theorem record (clause : Clause) : Q Unit (Op.record clause) :=
  h.drafted fun c => ((c.draft.recordIn (some c.registry) clause).2, (c.draft.recordIn (some c.registry) clause).1)

theorem recordAll (clauses : List (Except Error Clause)) : Q Unit (Op.recordAll clauses) := by
  induction clauses with
  | nil => exact h.pure ()
  | cons clause rest ih => exact h.ofExcept_bind fun clause _ => h.bind (h.record clause) fun _ => ih

theorem fetch {s : Statement} (ht : T s.text) : Q RowSet (Op.fetch s) := h.map (h.execute s none ht) Reply.rows

theorem escape (text : String) : Q String (Op.escape text) := h.map h.connect fun _ => addSlashes text

theorem executeAll {statements : List Statement} (ht : ∀ s ∈ statements, T s.text) :
    Q Nat (Op.executeAll statements) := by
  induction statements with
  | nil => exact h.pure 0
  | cons s rest ih =>
    refine h.bind (h.execute s none (ht s List.mem_cons_self)) fun reply => ?_
    exact h.map (ih fun s hs => ht s (List.mem_cons_of_mem _ hs)) fun n => reply.affected + n

theorem batch {statements : List Statement} (ht : ∀ s ∈ statements, T s.text) : Q Nat (Op.batch statements) := by
  unfold Op.batch
  split
  · exact h.pure 0
  · exact h.transaction (h.executeAll ht)

theorem setFieldCase (name : String) : Q Answer (Op.setFieldCase name) := by
  unfold Op.setFieldCase
  split
  · exact h.throw _
  · next mode _ => exact h.map (h.fieldCase mode) fun _ => Answer.text mode.name

theorem named (name : String) : Q Prepared (Op.named name) := by
  refine h.bind (h.look _) fun found => ?_
  cases found with
  | some p => exact h.pure p
  | none => exact h.throw _

theorem bodyResult (failure : Option String) (outcome : Except Error Unit) :
    Q (Except Error Nat) (Op.bodyResult failure outcome) := by
  cases outcome with
  | error e => exact h.pure _
  | ok _ =>
    cases failure with
    | some reason => exact h.pure _
    | none => exact h.get_bind fun c => h.pure _

end

section

variable (hplain : ∀ text, IsPlain text → T text)
include h hplain

theorem explain (s : Statement) : Q RowSet (Op.explain s) :=
  h.bind (h.fetch (hplain _ (Op.plain_explain s.text))) fun plan => h.map (h.explained _) fun _ => plan

theorem lock (tables : List String) : Q Unit (Op.lock tables) := by
  refine h.get_bind fun c => ?_
  split
  · exact h.bind (h.throw _) fun _ => h.discard (h.query _ none (hplain _ (Op.plain_lock _)))
  · exact h.discard (h.query _ none (hplain _ (Op.plain_lock _)))

theorem unlock : Q Unit Op.unlock := h.discard (h.query _ none (hplain _ (by decide)))

theorem select (asHandle : Bool) (own : Option Duration) : Q Selection (Op.select asHandle own) := by
  refine h.bind h.takeDraft fun d => h.ofExcept_bind fun s hs => ?_
  have hs' : d.compile .select = .ok s := hs
  have ht : T s.text := hplain _ (Draft.plain_compile hs')
  split
  · exact h.map (h.prepare s own ht) Selection.handle
  · cases d.wantsTotalCount with
    | true => exact h.counted s own (fun reply => Selection.rows reply.rows) ht
    | false => exact h.map (h.execute s own ht) fun reply => Selection.rows reply.rows

theorem selectRows (own : Option Duration) : Q RowSet (Op.selectRows own) :=
  h.map (h.select hplain false own) fun selection => selection.rows?.getD .empty

theorem first (own : Option Duration) : Q (Option Record) (Op.first own) :=
  h.bind (h.record _) fun _ => h.map (h.selectRows hplain own) RowSet.first?

theorem value (column : String) (own : Option Duration) : Q (Option Datum) (Op.value column own) :=
  h.bind (h.record _) fun _ => h.bind (h.record _) fun _ =>
    h.map (h.selectRows hplain own) fun rows => rows.first?.bind fun r => r.get? column

theorem column (name : String) (own : Option Duration) : Q (List Datum) (Op.column name own) :=
  h.bind (h.record _) fun _ => h.map (h.selectRows hplain own) fun rows => rows.column name

theorem change (command : Command) (own : Option Duration) :
    Q Reply (Op.change (fun d => d.compile command) own) := by
  refine h.bind h.takeDraft fun d => h.ofExcept_bind fun s hs => ?_
  exact h.execute s own (hplain _ (Draft.plain_compile hs))

theorem insert (verb : Query.InsertVerb) (row : Query.Row) (own : Option Duration) :
    Q Nat (Op.insert verb row own) :=
  h.map (h.change hplain (.insert verb row) own) Reply.insertId

theorem update (row : Query.Row) (force : Bool) (own : Option Duration) : Q Nat (Op.update row force own) :=
  h.map (h.change hplain (.update row force) own) Reply.affected

theorem delete (force : Bool) (own : Option Duration) : Q Nat (Op.delete force own) :=
  h.map (h.change hplain (.delete force) own) Reply.affected

theorem finish (q : BoundQuery) : Q Answer (Op.finish q) := by
  unfold Op.finish
  split
  · exact h.pure _
  · exact h.get_bind fun c => h.map (h.ofExcept _) Answer.compiled
  · refine h.bind (h.select hplain _ _) fun selection => ?_
    cases selection with
    | rows rows => exact h.pure _
    | handle p => exact h.map (h.keep q.name p) fun _ => Answer.selection (.handle p)
  · exact h.map (h.select hplain _ _) fun selection => Answer.maybeRows selection.rows?
  · exact h.giving (h.first hplain _) _
  · exact h.giving (h.value hplain _ _) _
  · exact h.giving (h.column hplain _ _) _
  · exact h.ofExcept_bind fun _ _ => h.giving (h.insert hplain _ _ _) _
  · exact h.ofExcept_bind fun _ _ => h.giving (h.update hplain _ _ _) _
  · exact h.giving (h.delete hplain _ _) _

theorem bound (q : BoundQuery) : Q Answer (Op.bound q) := h.bind (h.recordAll _) fun _ => h.finish hplain q

theorem columns (table : String) : Q (List Schema.Column) (Op.columns table) := by
  refine h.get_bind fun c => h.bind (h.query _ none (hplain _ ?_)) fun rows => h.get_bind fun c' => h.pure _
  exact Op.plain_show "COLUMNS FROM " _

theorem tables (database : Option String) : Q (List String) (Op.tables database) := by
  refine h.bind (h.query _ none (hplain _ ?_)) fun rows => h.get_bind fun c => h.pure _
  cases database with
  | none => decide
  | some name =>
    show IsPlain ("SHOW TABLES FROM `" ++ name ++ "`")
    rw [String.append_assoc]
    exact Op.plain_show "TABLES FROM `" _

theorem tablesExist (tables : List String) : Q Bool (Op.tablesExist tables) := by
  refine h.get_bind fun c => ?_
  have hrest := h.bind h.clearDraft fun _ =>
    h.bind (h.record (.table "information_schema.tables")) fun _ =>
    h.bind (h.record (.fields ["table_name"])) fun _ =>
    h.bind (h.record (.filter ⟨.and, "table_schema", "=", .operand (.bind (.text c.config.database))⟩)) fun _ =>
    h.bind (h.record (.filterIn "table_name"
      (.list (tables.map fun table => Datum.text (c.config.tablePrefix ++ table))))) fun _ =>
    h.bind (h.record .totalCount) fun _ =>
    h.bind (h.record (.limit ⟨none, (tables.map fun table => Datum.text (c.config.tablePrefix ++ table)).length⟩))
      fun _ =>
    h.bind (h.discard (h.select hplain false none)) fun _ =>
    h.get_bind fun c' => h.pure
      (c'.totalCount == (tables.map fun table => Datum.text (c.config.tablePrefix ++ table)).length)
  split
  · exact h.bind (h.throw _) fun _ => hrest
  · exact hrest

end

/-! ## Operations as data -/

mutual

/-- **Every operation.** -/
theorem perform (h : Rules T forced Q) (hplain : ∀ text, IsPlain text → T text) :
    (operation : Operation) → operation.Fits T forced → Q Answer operation.perform
  | .arrange change, hf => h.silent (h.arrange change hf)
  | .unreadable reason, _ => h.throw reason
  | .connect false, _ => h.silent h.connect
  | .connect true, hf => h.silent (h.reconnect (hf rfl))
  | .disconnect, hf => h.silent (h.disconnect hf)
  | .beforeUse, _ => h.silent h.beforeUse
  | .clearDraft, _ => h.silent h.clearDraft
  | .start, _ => h.silent h.start
  | .commit, _ => h.silent h.commit
  | .rollback, _ => h.silent h.rollback
  | .lock names, _ => h.silent (h.lock hplain names)
  | .unlock, _ => h.silent (h.unlock hplain)
  | .sleep millis, _ => h.silent (h.pause millis)
  | .prepare name s limit, hf =>
    h.bind (h.prepare s limit hf) fun p => h.map (h.keep name p) fun _ => Answer.prepared p
  | .executePrepared name limit, _ => h.bind (h.named name) fun p => h.giving (h.executePrepared p limit) _
  | .execute s limit, hf => h.giving (h.execute s limit hf) _
  | .query text limit, hf => h.giving (h.query text limit hf) _
  | .fetch s, hf => h.giving (h.fetch hf) _
  | .fetchFirst s, hf => h.giving (h.fetch hf) _
  | .explain s, _ => h.giving (h.explain hplain s) _
  | .escape text, _ => h.giving (h.escape text) _
  | .batch statements, hf => h.giving (h.batch hf) _
  | .setLockMethod method, _ => h.map (h.lockMethod method) fun _ => Answer.text method.text
  | .setFieldCase name, _ => h.setFieldCase name
  | .columns table, _ => h.giving (h.columns hplain table) _
  | .tables database, _ => h.giving (h.tables hplain database) _
  | .tablesExist names, _ => h.giving (h.tablesExist hplain names) _
  | .expandTables _, _ => h.get_bind fun _ => h.pure _
  | .showLog, _ => h.get_bind fun _ => h.pure _
  | .clearLog, _ => h.silent h.clearedLog
  | .describe, _ => h.get_bind fun _ => h.pure _
  | .target, _ => h.get_bind fun _ => h.pure _
  | .bound q, _ => h.bound hplain q
  | .transaction body failure, hf => by
    refine h.bind (h.attempt h.start) fun started => ?_
    cases started with
    | error e => exact h.pure _
    | ok _ =>
      refine h.bind (performAll h hplain body hf) fun done => ?_
      refine h.bind (h.bodyResult failure done.2) fun result => ?_
      exact h.map (h.attempt (h.settle result)) fun x => Answer.transaction done.1 x

theorem performAll (h : Rules T forced Q) (hplain : ∀ text, IsPlain text → T text) :
    (operations : List Operation) → Operation.AllFit T forced operations →
      Q (List (Except Error Answer) × Except Error Unit) (Operation.performAll operations)
  | [], _ => h.pure _
  | operation :: rest, hf => by
    refine h.bind (h.attempt (perform h hplain operation hf.1)) fun outcome => ?_
    cases outcome with
    | error e => exact h.pure _
    | ok answer => exact h.map (performAll h hplain rest hf.2) fun done => (Except.ok answer :: done.1, done.2)

end

/-- **Every program.** -/
theorem program (h : Rules T forced Q) (hplain : ∀ text, IsPlain text → T text) (work : Program (Use T forced) α) :
    Q α (work.op Use.perform) := by
  induction work with
  | finish result => exact h.ofExcept result
  | step use next ih =>
    cases use with
    | operation step fits => exact h.bind (h.attempt (h.perform hplain step fits)) ih
  | transaction inner next ih ihn => exact h.bind (h.attempt (h.transaction ih)) ihn

end Rules

end SqlSession
