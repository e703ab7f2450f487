/-
Operations side by side.

- `Answer.Matches`: the same result, in which prepared statements are the same up to the numbers that they got;
- `Operation.Impartial`: an operation that does not look at what a connection's past may have left, and in which the
  servers change in the same way;
- `mirrors_perform`: every such operation goes alike on two connections that a holder cannot tell apart;
- `mirrors_performEach`: so does every sequence of them, whatever comes of each.
-/
import SqlSession.Proofs.Session.Mirrors

namespace SqlSession

open Query (Clause Draft InsertVerb Row)

/-! ## Results -/

/-- a result in which no statement is prepared -/
def Answer.Plain : Answer → Prop
  | .prepared _ => False
  | .selection (.handle _) => False
  | .transaction _ _ => False
  | _ => True

/-- the same selection, of the same statement if it is only prepared -/
inductive Selection.Matches (g : Stage) : Selection → Selection → Prop
  | rows (rows : RowSet) : Matches g (.rows rows) (.rows rows)
  | handle {p p' : Prepared} (held : p.Mirrors g p') : Matches g (.handle p) (.handle p')

/-- the same result up to the numbers of prepared statements -/
inductive Answer.Matches (g : Stage) : Answer → Answer → Prop
  | plain {answer : Answer} (plain : answer.Plain) : Matches g answer answer
  | prepared {p p' : Prepared} (held : p.Mirrors g p') : Matches g (.prepared p) (.prepared p')
  | selection {s s' : Selection} (same : s.Matches g s') : Matches g (.selection s) (.selection s')
  | transaction {inner inner' : List (Except Error Answer)} (same : List.Forall₂ (Op.Both (Matches g)) inner inner')
      (result : Except Error Nat) : Matches g (.transaction inner result) (.transaction inner' result)

/-! ## Operations that look at no past -/

/-- the server changes in what it is going to answer only, and in the same way whatever has happened to it; with
`free`, it goes on to let everybody in in time -/
structure Server.Arranges (config : Config) (free : Prop) (change : Server → Server) : Prop where
  ledger : ∀ s, (change s).ledger = s.ledger
  outlook : ∀ s s', s.outlook = s'.outlook → (change s).outlook = (change s').outlook
  welcome : free → ∀ s, s.Welcomes config → (change s).Welcomes config

namespace Operation

mutual

/-- the operation does not look at the log of the connection, nor, with `free`, at whether it has a session -/
def Impartial (config : Config) (free : Prop) : Operation → Prop
  | arrange change => Server.Arranges config free change
  | showLog => False
  | describe => ¬ free
  | transaction body _ => AllImpartial config free body
  | _ => True

def AllImpartial (config : Config) (free : Prop) : List Operation → Prop
  | [] => True
  | operation :: rest => operation.Impartial config free ∧ AllImpartial config free rest

end

/-- the operations one after the other, whatever comes of each -/
def performEach : List Operation → Op (List (Except Error Answer))
  | [] => pure []
  | operation :: rest => do
    let result ← Op.attempt operation.perform
    pure (result :: (← performEach rest))

end Operation

namespace Op

section

variable {g : Stage} {slack : Option Nat} {α : Type} {P E K : Connection → Connection → Prop}

theorem Mirrors.slacken {α' : Type} {R : α → α' → Prop} {op : Op α} {op' : Op α'}
    (h : Mirrors g P E (Mirrored g none) R op op') : Mirrors g P E (Mirrored g slack) R op op' :=
  h.mono (fun _ _ hc => hc) (fun _ _ hc => hc) fun _ _ hc => hc.slacken

theorem mirrors_silent {op op' : Op Unit} (h : Mirrors g P E K (· = ·) op op') :
    Mirrors g P E K (Answer.Matches g) (silent op) (silent op') :=
  mirrors_bind h fun _ _ _ => mirrors_pure (.plain trivial) fun _ _ hc => hc

theorem mirrors_giving {op op' : Op α} (f : α → Answer) (hf : ∀ x, (f x).Plain)
    (h : Mirrors g P E K (· = ·) op op') : Mirrors g P E K (Answer.Matches g) (giving f op) (giving f op') := by
  refine mirrors_bind h ?_
  rintro x _ rfl
  exact mirrors_pure (.plain (hf x)) fun _ _ hc => hc

/-! ## Queries put together -/

/-- both make the same of their drafts -/
theorem mirrors_drafted (f : Query.Registry → Draft → Except Error α × Draft) :
    Mirrors g (Mirrored g slack) (Mirrored g slack) (Mirrored g slack) (· = ·)
      (fun c => pure ((f c.registry c.draft).1, { c with draft := (f c.registry c.draft).2 }))
      (fun c => pure ((f c.registry c.draft).1, { c with draft := (f c.registry c.draft).2 })) := by
  intro c c' hc
  have hkept : Mirrored g slack { c with draft := (f c.registry c.draft).2 }
      { c' with draft := (f c'.registry c'.draft).2 } :=
    { hc with draft := by rw [hc.registry, hc.draft] }
  refine .done ?_
  have hresult : (f c.registry c.draft).1 = (f c'.registry c'.draft).1 := by rw [hc.registry, hc.draft]
  rw [hresult]
  cases (f c'.registry c'.draft).1 with
  | ok x => exact .ok rfl hkept
  | error e => exact .error fun _ => hkept

theorem mirrors_record (clause : Clause) :
    Mirrors g (Mirrored g slack) (Mirrored g slack) (Mirrored g slack) (· = ·) (record clause) (record clause) :=
  mirrors_drafted fun registry draft =>
    ((draft.recordIn (some registry) clause).2, (draft.recordIn (some registry) clause).1)

theorem mirrors_recordAll (clauses : List (Except Error Clause)) :
    Mirrors g (Mirrored g slack) (Mirrored g slack) (Mirrored g slack) (· = ·) (recordAll clauses)
      (recordAll clauses) := by
  induction clauses with
  | nil => exact mirrors_pure rfl fun _ _ hc => hc
  | cons clause rest ih =>
    exact mirrors_ofExcept_bind (fun _ _ hc => hc) fun clause _ => mirrors_bind (mirrors_record clause) fun _ _ _ => ih

theorem mirrors_clearDraft :
    Mirrors g (Mirrored g slack) E (Mirrored g slack) (· = ·) (modify Connection.clearDraft)
      (modify Connection.clearDraft) :=
  mirrors_modify fun _ _ hc => { hc with draft := congrArg Draft.reset hc.draft }

theorem mirrors_takeDraft : Mirrors g (Mirrored g slack) E (Mirrored g slack) (· = ·) takeDraft takeDraft :=
  mirrors_get_bind fun _ _ hd => mirrors_bind mirrors_clearDraft fun _ _ _ =>
    mirrors_pure hd.draft fun _ _ hc => hc

theorem mirrors_select (asHandle : Bool) (own : Option Duration) :
    Mirrors g (Mirrored g slack) (Mirrored g slack) (Mirrored g none) (Selection.Matches g) (select asHandle own)
      (select asHandle own) := by
  refine mirrors_bind mirrors_takeDraft ?_
  rintro draft _ rfl
  refine mirrors_ofExcept_bind (fun _ _ hc => hc) fun statement _ => ?_
  split
  · refine mirrors_bind (mirrors_prepare statement own) fun p p' hp => ?_
    exact mirrors_pure (.handle hp) fun _ _ hc => hc.toMirrored
  · refine mirrors_bind (mirrors_execute statement own) ?_
    rintro reply _ rfl
    cases draft.wantsTotalCount with
    | true => exact mirrors_bind mirrors_fetchTotalCount fun _ _ _ => mirrors_pure (.rows _) fun _ _ hc => hc
    | false => exact mirrors_pure (.rows _) fun _ _ hc => hc

/-- what both find if they look at rows only -/
theorem mirrors_rows {R : α → α → Prop} (asHandle : Bool) (own : Option Duration) (f : Option RowSet → α)
    (hf : ∀ rows?, R (f rows?) (f rows?)) :
    Mirrors g (Mirrored g slack) (Mirrored g slack) (Mirrored g none) R
      (do pure (f (← select asHandle own).rows?)) (do pure (f (← select asHandle own).rows?)) := by
  refine mirrors_bind (mirrors_select asHandle own) fun s s' hs => mirrors_pure ?_ fun _ _ hc => hc
  cases hs with
  | rows rows => exact hf _
  | handle _ => exact hf none

theorem mirrors_selectRows (own : Option Duration) :
    Mirrors g (Mirrored g slack) (Mirrored g slack) (Mirrored g none) (· = ·) (selectRows own) (selectRows own) :=
  mirrors_rows false own (fun rows? => rows?.getD .empty) fun _ => rfl

theorem mirrors_first (own : Option Duration) :
    Mirrors g (Mirrored g slack) (Mirrored g slack) (Mirrored g none) (· = ·) (first own) (first own) := by
  refine mirrors_bind (mirrors_record _) fun _ _ _ => mirrors_bind (mirrors_selectRows own) ?_
  rintro rows _ rfl
  exact mirrors_pure rfl fun _ _ hc => hc

theorem mirrors_value (column : String) (own : Option Duration) :
    Mirrors g (Mirrored g slack) (Mirrored g slack) (Mirrored g none) (· = ·) (value column own)
      (value column own) := by
  refine mirrors_bind (mirrors_record _) fun _ _ _ => mirrors_bind (mirrors_record _) fun _ _ _ => ?_
  refine mirrors_bind (mirrors_selectRows own) ?_
  rintro rows _ rfl
  exact mirrors_pure rfl fun _ _ hc => hc

theorem mirrors_column (name : String) (own : Option Duration) :
    Mirrors g (Mirrored g slack) (Mirrored g slack) (Mirrored g none) (· = ·) (column name own)
      (column name own) := by
  refine mirrors_bind (mirrors_record _) fun _ _ _ => mirrors_bind (mirrors_selectRows own) ?_
  rintro rows _ rfl
  exact mirrors_pure rfl fun _ _ hc => hc

theorem mirrors_change_tables (compile : Draft → Except Error Statement) (own : Option Duration) (f : Reply → Nat) :
    Mirrors g (Mirrored g slack) (Mirrored g slack) (Mirrored g none) (· = ·) (do pure (f (← change compile own)))
      (do pure (f (← change compile own))) := by
  have hchange : Mirrors g (Mirrored g slack) (Mirrored g slack) (Mirrored g none) (· = ·) (change compile own)
      (change compile own) := by
    refine mirrors_bind mirrors_takeDraft ?_
    rintro draft _ rfl
    exact mirrors_ofExcept_bind (fun _ _ hc => hc) fun statement _ => mirrors_execute statement own
  refine mirrors_bind hchange ?_
  rintro reply _ rfl
  exact mirrors_pure rfl fun _ _ hc => hc

/-- **Queries.** Both put the same together, and end it in the same way. -/
theorem mirrors_bound (q : BoundQuery) :
    Mirrors g (Mirrored g slack) (Mirrored g slack) (Mirrored g slack) (Answer.Matches g) (bound q) (bound q) := by
  refine mirrors_bind (mirrors_recordAll q.clauses) fun _ _ _ => ?_
  unfold finish
  split
  · exact mirrors_pure (.plain trivial) fun _ _ hc => hc
  · refine mirrors_get_bind fun d d' hd => ?_
    rw [hd.draft]
    exact mirrors_ofExcept_bind (fun _ _ hc => hc) fun _ _ => mirrors_pure (.plain trivial) fun _ _ hc => hc
  · refine (mirrors_bind (mirrors_select q.asHandle q.limit) fun s s' hs => ?_).slacken
    cases hs with
    | rows rows => exact mirrors_pure (.selection (.rows rows)) fun _ _ hc => hc
    | handle held =>
      refine mirrors_bind (mirrors_change fun _ _ hw => facing_keep hw q.name held) fun _ _ _ => ?_
      exact mirrors_pure (.selection (.handle held)) fun _ _ hc => hc
  · exact (mirrors_rows q.asHandle q.limit Answer.maybeRows fun _ => Answer.Matches.plain trivial).slacken
  · exact (mirrors_giving .record? (fun _ => trivial) (mirrors_first q.limit)).slacken
  · exact (mirrors_giving .datum? (fun _ => trivial) (mirrors_value _ q.limit)).slacken
  · exact (mirrors_giving .data (fun _ => trivial) (mirrors_column _ q.limit)).slacken
  · refine mirrors_ofExcept_bind (fun _ _ hc => hc) fun row _ => ?_
    exact (mirrors_giving .number (fun _ => trivial) (mirrors_change_tables _ q.limit Reply.insertId)).slacken
  · refine mirrors_ofExcept_bind (fun _ _ hc => hc) fun row _ => ?_
    exact (mirrors_giving .number (fun _ => trivial) (mirrors_change_tables _ q.limit Reply.affected)).slacken
  · exact (mirrors_giving .number (fun _ => trivial) (mirrors_change_tables _ q.limit Reply.affected)).slacken

/-! ## Descriptions -/

theorem mirrors_columns (table : String) :
    Mirrors g (Mirrored g slack) (Mirrored g slack) (Mirrored g none) (· = ·) (columns table) (columns table) := by
  refine mirrors_get_bind fun d d' hd => ?_
  rw [hd.config, hd.config']
  refine mirrors_bind (mirrors_query _ none) ?_
  rintro rows _ rfl
  refine mirrors_get_bind fun d d' hd => ?_
  rw [hd.fieldCase]
  exact mirrors_pure rfl fun _ _ hc => hc

theorem mirrors_tables (database : Option String) :
    Mirrors g (Mirrored g slack) (Mirrored g slack) (Mirrored g none) (· = ·) (tables database)
      (tables database) := by
  refine mirrors_bind (mirrors_query _ none) ?_
  rintro rows _ rfl
  refine mirrors_get_bind fun d d' hd => ?_
  rw [hd.config, hd.config']
  exact mirrors_pure rfl fun _ _ hc => hc

/-- the count that is compared is the statement's own -/
theorem mirrors_tablesExist (tables : List String) :
    Mirrors g (Mirrored g slack) (Mirrored g slack) (Mirrored g slack) (· = ·) (tablesExist tables)
      (tablesExist tables) := by
  refine mirrors_get_bind fun d d' hd => ?_
  rw [hd.config, hd.config']
  split
  · exact mirrors_throw _ fun _ _ hc => hc
  refine mirrors_bind mirrors_clearDraft fun _ _ _ => ?_
  iterate 6 refine mirrors_bind (mirrors_record _) fun _ _ _ => ?_
  refine (mirrors_bind (mirrors_discard (mirrors_select false none)) fun _ _ _ => ?_).slacken
  refine mirrors_get_bind fun d d' hd => ?_
  have htotal : d.totalCount = d'.totalCount := congrArg (fun tally => tally.2.2) hd.all
  rw [htotal]
  exact mirrors_pure rfl fun _ _ hc => hc

/-! ## Operations as data -/

theorem mirrors_arrange {change : Server → Server} (h : Server.Arranges g.config g.free change) :
    Mirrors g P E P (· = ·) (shared (.change (World.arrange change))) (shared (.change (World.arrange change))) :=
  mirrors_change fun _ _ hw => facing_arrange hw (h.ledger _) (h.ledger _) (h.outlook _ _ hw.server) fun hfree =>
    h.welcome hfree _

theorem mirrors_sleep (millis : Nat) :
    Mirrors g P E P (· = ·) (shared (.pause millis)) (shared (.pause millis)) :=
  mirrors_shared (Timed.alike_wait millis (.done rfl))

theorem mirrors_setFieldCase (name : String) :
    Mirrors g (Mirrored g slack) (Mirrored g slack) (Mirrored g slack) (Answer.Matches g) (setFieldCase name)
      (setFieldCase name) := by
  unfold setFieldCase
  split
  · exact mirrors_throw _ fun _ _ hc => hc
  · refine mirrors_modify_bind (K := Mirrored g slack) (fun c c' hc => { hc with fieldCase := rfl }) ?_
    exact mirrors_pure (.plain trivial) fun _ _ hc => hc

/-- both run the statement that they kept under the name, or know none -/
theorem mirrors_runNamed (name : String) (own : Option Duration) :
    Mirrors g (Mirrored g slack) (Mirrored g slack) (Mirrored g none) (Answer.Matches g)
      (do giving .reply (executePrepared (← named name) own))
      (do giving .reply (executePrepared (← named name) own)) := by
  have hnamed : Mirrors g (Mirrored g slack) (Mirrored g slack) (Mirrored g slack) (Prepared.Mirrors g) (named name)
      (named name) := by
    refine mirrors_bind (mirrors_look fun _ _ hw => facing_named hw name) fun p? p?' hp => ?_
    cases hp with
    | none => exact mirrors_throw _ fun _ _ hc => hc
    | some held => exact mirrors_pure held fun _ _ hc => hc
  refine mirrors_bind hnamed fun p p' hp => ?_
  exact mirrors_giving .reply (fun _ => trivial) (mirrors_executePrepared hp own)

theorem mirrors_bodyResult (failure : Option String) (outcome : Except Error Unit) :
    Mirrors g (Mirrored g none) E (Mirrored g none) (· = ·) (bodyResult failure outcome)
      (bodyResult failure outcome) := by
  cases outcome with
  | error e => exact mirrors_pure rfl fun _ _ hc => hc
  | ok _ =>
    cases failure with
    | some reason => exact mirrors_pure rfl fun _ _ hc => hc
    | none =>
      refine mirrors_get_bind fun d d' hd => ?_
      have haffected : d.affected = d'.affected := congrArg (fun tally => tally.2.1) hd.all
      rw [haffected]
      exact mirrors_pure rfl fun _ _ hc => hc

/-- unless a session may be missing on one side, both connections show themselves alike -/
theorem describe_eq {c c' : Connection} (h : Mirrored g slack c c') (hfree : ¬ g.free) : c.describe = c'.describe := by
  have heven : c.client.connected = c'.client.connected := by
    by_contra hne
    exact hfree (h.client.uneven hne).1
  unfold Connection.describe
  rw [h.config, h.config', heven, h.depth, h.needsReconnect]

end

end Op

open Op

section

variable {g : Stage}

mutual

/-- **Every operation** that looks at no past goes alike on both sides. -/
theorem mirrors_perform (counted : Bool) :
    (operation : Operation) → operation.Impartial g.config g.free →
      Mirrors g (Mirrored g (due counted)) (Mirrored g (due counted)) (Mirrored g (due counted)) (Answer.Matches g)
        operation.perform operation.perform
  | .arrange change, h => mirrors_silent (mirrors_arrange h)
  | .unreadable reason, _ => mirrors_throw reason fun _ _ hc => hc
  | .connect force, _ =>
    mirrors_silent ((mirrors_connect force).mono (fun _ _ hc => hc) (fun _ _ hc => hc) fun _ _ hc => hc.toMirrored)
  | .disconnect, _ =>
    mirrors_silent (mirrors_disconnect.mono (fun _ _ hc => hc) (fun _ _ hc => hc) fun _ _ hc => hc.toMirrored)
  | .beforeUse, _ => mirrors_silent (mirrors_beforeUse counted)
  | .clearDraft, _ => mirrors_silent mirrors_clearDraft
  | .start, _ => mirrors_silent (mirrors_start counted).slacken
  | .commit, _ => mirrors_silent mirrors_commit
  | .rollback, _ => mirrors_silent mirrors_rollback
  | .lock names, _ => mirrors_silent (mirrors_lock names)
  | .unlock, _ => mirrors_silent mirrors_unlock
  | .sleep millis, _ => mirrors_silent (mirrors_sleep millis)
  | .prepare name statement limit, _ => by
    refine (mirrors_bind (mirrors_prepare statement limit) fun p p' hp => ?_).slacken
    refine mirrors_bind (mirrors_change fun _ _ hw => facing_keep hw name hp) fun _ _ _ => ?_
    exact mirrors_pure (.prepared hp) fun _ _ hc => hc.toMirrored
  | .executePrepared name limit, _ => (mirrors_runNamed name limit).slacken
  | .execute statement limit, _ => (mirrors_giving .reply (fun _ => trivial) (mirrors_execute statement limit)).slacken
  | .query text limit, _ => (mirrors_giving .rows (fun _ => trivial) (mirrors_query text limit)).slacken
  | .fetch statement, _ => (mirrors_giving .rows (fun _ => trivial) (mirrors_fetch statement)).slacken
  | .fetchFirst statement, _ =>
    (mirrors_giving (fun rows => .record? rows.first?) (fun _ => trivial) (mirrors_fetch statement)).slacken
  | .explain statement, _ => (mirrors_giving .rows (fun _ => trivial) (mirrors_explain statement)).slacken
  | .escape text, _ => mirrors_giving .text (fun _ => trivial) (mirrors_escape text)
  | .batch statements, _ => mirrors_giving .number (fun _ => trivial) (mirrors_batch counted statements)
  | .setLockMethod method, _ => by
    refine mirrors_modify_bind (K := Mirrored g (due counted)) (fun c c' hc => { hc with lockMethod := rfl }) ?_
    exact mirrors_pure (.plain trivial) fun _ _ hc => hc
  | .setFieldCase name, _ => mirrors_setFieldCase name
  | .columns table, _ => (mirrors_giving .columns (fun _ => trivial) (mirrors_columns table)).slacken
  | .tables database, _ => (mirrors_giving .texts (fun _ => trivial) (mirrors_tables database)).slacken
  | .tablesExist names, _ => mirrors_giving .flag (fun _ => trivial) (mirrors_tablesExist names)
  | .expandTables text, _ => by
    refine mirrors_get_bind fun d d' hd => ?_
    rw [hd.config, hd.config']
    exact mirrors_pure (.plain trivial) fun _ _ hc => hc
  | .showLog, h => h.elim
  | .clearLog, _ => mirrors_silent (mirrors_modify fun _ _ hc => { hc with })
  | .describe, h => by
    refine mirrors_get_bind fun d d' hd => ?_
    rw [describe_eq hd h]
    exact mirrors_pure (.plain trivial) fun _ _ hc => hc
  | .target, _ => by
    refine mirrors_get_bind fun d d' hd => ?_
    rw [hd.config, hd.config']
    exact mirrors_pure (.plain trivial) fun _ _ hc => hc
  | .bound q, _ => mirrors_bound q
  | .transaction body failure, h => by
    refine mirrors_attempt_bind (mirrors_start counted) (fun e => mirrors_pure (.transaction .nil _) fun _ _ hc => hc)
      fun _ _ _ => ?_
    refine (mirrors_bind (mirrors_performAll body h) ?_).mono (fun _ _ hc => hc) (fun _ _ hc => hc.slacken)
      fun _ _ hc => hc
    rintro ⟨inner, outcome⟩ ⟨inner', _⟩ ⟨hinner, rfl⟩
    refine mirrors_bind (mirrors_bodyResult failure outcome) ?_
    rintro result _ rfl
    refine mirrors_bind (mirrors_attempt (mirrors_settle result)) fun x x' hx => ?_
    rw [both_eq hx]
    exact mirrors_pure (.transaction hinner x') fun _ _ hc => hc.slacken

/-- inside a transaction of the holder the counts agree -/
theorem mirrors_performAll :
    (operations : List Operation) → Operation.AllImpartial g.config g.free operations →
      Mirrors g (Mirrored g none) (Mirrored g none) (Mirrored g none)
        (fun done done' => List.Forall₂ (Both (Answer.Matches g)) done.1 done'.1 ∧ done.2 = done'.2)
        (Operation.performAll operations) (Operation.performAll operations)
  | [], _ => mirrors_pure ⟨.nil, rfl⟩ fun _ _ hc => hc
  | operation :: rest, h => by
    refine mirrors_attempt_bind (mirrors_perform true operation h.1)
      (fun e => mirrors_pure ⟨.cons (.error e) .nil, rfl⟩ fun _ _ hc => hc) fun answer answer' hanswer => ?_
    refine mirrors_bind (mirrors_performAll rest h.2) fun done done' hdone => ?_
    exact mirrors_pure ⟨.cons (.ok hanswer) hdone.1, hdone.2⟩ fun _ _ hc => hc

end

/-- **Every sequence of operations** that look at no past goes alike, and to its end. -/
theorem mirrors_performEach (counted : Bool) (operations : List Operation)
    (h : ∀ operation ∈ operations, operation.Impartial g.config g.free) :
    Mirrors g (Mirrored g (due counted)) (fun _ _ => False) (Mirrored g (due counted))
      (List.Forall₂ (Both (Answer.Matches g))) (Operation.performEach operations)
      (Operation.performEach operations) := by
  induction operations with
  | nil => exact mirrors_pure .nil fun _ _ hc => hc
  | cons operation rest ih =>
    have hfirst := mirrors_perform counted operation (h operation List.mem_cons_self)
    refine mirrors_bind (mirrors_attempt hfirst) fun x x' hx => ?_
    refine mirrors_bind (ih fun operation hmem => h operation (List.mem_cons_of_mem _ hmem)) fun xs xs' hxs => ?_
    exact mirrors_pure (.cons hx hxs) fun _ _ hc => hc

end

end SqlSession
