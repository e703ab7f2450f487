/-
What an operation leaves of its connection, whatever others do in the meantime.

`Timed.Gives P t`: the program gives nothing but results with `P`, though others may change the state in any way between
its steps. For operations on a connection there is one rule for each way of putting them together (`assures_bind`, ..).
- `keeps_perform`: no operation changes the settings of a connection, the prefix of its draft among them;
- `secures_query`: a statement that succeeded leaves a session that is relied on, at the depth where it was;
- `secures_beforeUse`: a connection that has been made ready has no clauses, no open transaction and no session that is
  not relied on.
-/
import SqlSession.Proofs.Query.Families
import SqlSession.Proofs.Session.Program
import SqlSession.Session.Operation

namespace SqlSession

open Query (Clause Draft Registry)

namespace Timed

variable {σ α β : Type} {P Q : α → Prop}

/-- the program gives only such results, whatever the state is before each of its steps -/
inductive Gives (P : α → Prop) : Timed σ α → Prop
  | done (x : α) (holds : P x) : Gives P (done x)
  | act (change : σ → σ) (rest : σ → Timed σ α) (step : ∀ s, Gives P (rest s)) : Gives P (act change rest)
  | wait (millis : Nat) (rest : Timed σ α) (step : Gives P rest) : Gives P (wait millis rest)

theorem gives_done {x : α} : Gives P (done x : Timed σ α) ↔ P x := by
  constructor
  · rintro ⟨_, h⟩
    exact h
  · exact .done x

theorem gives_of_forall (h : ∀ x, P x) (t : Timed σ α) : t.Gives P := by
  induction t with
  | done x => exact .done x (h x)
  | act change rest ih => exact .act _ _ ih
  | wait millis rest ih => exact .wait _ _ ih

theorem Gives.mono {t : Timed σ α} (h : t.Gives P) (hPQ : ∀ x, P x → Q x) : t.Gives Q := by
  induction h with
  | done x h => exact .done x (hPQ x h)
  | act change rest _ ih => exact .act _ _ ih
  | wait millis rest _ ih => exact .wait _ _ ih

theorem Gives.and {t : Timed σ α} (h : t.Gives P) (h' : t.Gives Q) : t.Gives fun x => P x ∧ Q x := by
  induction h with
  | done x h => exact .done x ⟨h, gives_done.1 h'⟩
  | act change rest _ ih =>
    rcases h' with _ | ⟨_, _, h'⟩
    exact .act _ _ fun s => ih s (h' s)
  | wait millis rest _ ih =>
    rcases h' with _ | _ | ⟨_, _, h'⟩
    exact .wait _ _ (ih h')

theorem gives_bind {P : β → Prop} {t : Timed σ α} {f : α → Timed σ β} :
    (t.bind f).Gives P ↔ t.Gives fun x => (f x).Gives P := by
  induction t with
  | done x => exact Iff.symm (gives_done (P := fun x => (f x).Gives P))
  | act change rest ih =>
    constructor
    · rintro (_ | ⟨_, _, h⟩)
      exact .act _ _ fun s => (ih s).1 (h s)
    · rintro (_ | ⟨_, _, h⟩)
      exact .act _ _ fun s => (ih s).2 (h s)
  | wait millis rest ih =>
    constructor
    · rintro (_ | _ | ⟨_, _, h⟩)
      exact .wait _ _ (ih.1 h)
    · rintro (_ | _ | ⟨_, _, h⟩)
      exact .wait _ _ (ih.2 h)

theorem Gives.ends {others : σ → σ → Prop} {t : Timed σ α} {s s' : σ} {x : α} (h : t.Gives P)
    (he : Ends others t s x s') : P x := by
  induction h generalizing s with
  | done y h =>
    obtain ⟨rfl, -⟩ := ends_done.1 he
    exact h
  | act change rest _ ih =>
    obtain ⟨s₂, -, he⟩ := ends_act.1 he
    exact ih s₂ he
  | wait millis rest _ ih => exact ih (ends_wait.1 he)

/-- up to its next wait the program has given its result, or what is left of it gives such a one -/
theorem Gives.proceed {t : Timed σ α} (h : t.Gives P) (s : σ) :
    (∀ x, (t.proceed s).1 = .inl x → P x) ∧ ∀ n rest, (t.proceed s).1 = .inr (n, rest) → rest.Gives P := by
  induction h generalizing s with
  | done x h =>
    refine ⟨fun y hy => ?_, fun n rest hr => (nomatch hr)⟩
    cases hy
    exact h
  | act change rest _ ih => exact ih s (change s)
  | wait millis rest h ih =>
    cases millis with
    | zero => exact ih s
    | succ n =>
      refine ⟨fun y hy => (nomatch hy), fun m more hr => ?_⟩
      cases hr
      exact h

end Timed

namespace Op

variable {α β γ : Type} {c : Connection}

/-- the operation ends only like this, whatever others do in the meantime -/
def Assures (op : Op α) (c : Connection) (Q : Except Error α → Connection → Prop) : Prop :=
  (op c).Gives fun p => Q p.1 p.2

theorem Assures.mono {op : Op α} {Q Q' : Except Error α → Connection → Prop} (h : op.Assures c Q)
    (hQ : ∀ r c', Q r c' → Q' r c') : op.Assures c Q' :=
  Timed.Gives.mono h fun p => hQ p.1 p.2

theorem Assures.and {op : Op α} {Q Q' : Except Error α → Connection → Prop} (h : op.Assures c Q)
    (h' : op.Assures c Q') : op.Assures c fun r c' => Q r c' ∧ Q' r c' :=
  Timed.Gives.and h h'

theorem Assures.ends {others : World → World → Prop} {op : Op α} {Q : Except Error α → Connection → Prop}
    {w w' : World} {r : Except Error α} {c' : Connection} (h : op.Assures c Q) (he : Ends others op c w r c' w') :
    Q r c' :=
  Timed.Gives.ends (P := fun p : Except Error α × Connection => Q p.1 p.2) h he

section

variable {Q : Except Error α → Connection → Prop} {R : Except Error β → Connection → Prop}

theorem assures_pure {x : α} : Assures (pure x) c Q ↔ Q (.ok x) c := Timed.gives_done

theorem assures_throw {e : Error} : Assures (throw e) c Q ↔ Q (.error e) c := Timed.gives_done

theorem assures_bind {op : Op α} {f : α → Op β} :
    Assures (op >>= f) c R ↔ op.Assures c fun r c' => match r with
      | .ok x => (f x).Assures c' R
      | .error e => R (.error e) c' := by
  have hb : (op >>= f) c = (op c).bind fun p => ExceptT.bindCont f p.1 p.2 := rfl
  rw [Assures, hb, Timed.gives_bind]
  refine ⟨fun h => Timed.Gives.mono h ?_, fun h => Timed.Gives.mono h ?_⟩
  · rintro ⟨e | x, c'⟩ h
    · exact assures_throw.1 h
    · exact h
  · rintro ⟨e | x, c'⟩ h
    · exact assures_throw.2 h
    · exact h

theorem assures_get_bind {f : Connection → Op β} : Assures (get >>= f) c R ↔ (f c).Assures c R := Iff.rfl

theorem assures_modify {g : Connection → Connection} {R : Except Error Unit → Connection → Prop} :
    Assures (modify g) c R ↔ R (.ok ()) (g c) := Timed.gives_done

theorem assures_modify_bind {g : Connection → Connection} {f : Unit → Op β} :
    Assures (modify g >>= f) c R ↔ (f ()).Assures (g c) R := Iff.rfl

theorem assures_ofExcept {x : Except Error α} : Assures (ofExcept x) c Q ↔ Q x c := by
  cases x with
  | ok x => exact assures_pure
  | error e => exact assures_throw

theorem assures_attempt {op : Op α} {Q : Except Error (Except Error α) → Connection → Prop}
    (h : op.Assures c fun r c' => Q (caught r) c') : Assures (attempt op) c Q :=
  Timed.gives_bind.2 (Timed.Gives.mono h fun _ hp => .done _ hp)

theorem assures_shared {t : Timed World α} (h : ∀ x, Q (.ok x) c) : Assures (shared t) c Q :=
  Timed.gives_bind.2 (Timed.gives_of_forall (fun x => .done _ (h x)) t)

theorem assures_call {limit : Option Duration} {late : Duration → NativeError} {call : Call α}
    {Q : Except Error (Except NativeError α) → Connection → Prop} (h : ∀ x client, Q (.ok x) { c with client }) :
    Assures (Op.call limit late call) c Q :=
  Timed.gives_bind.2 (Timed.gives_of_forall (fun p : Except NativeError α × Client => .done _ (h p.1 p.2)) _)

end

/-! ## What is kept -/

/-- wherever it ends, the operation has left this about the connection as it was -/
def Keeps (f : Connection → γ) (op : Op α) : Prop :=
  ∀ c, op.Assures c fun _ c' => f c' = f c

section

variable {f : Connection → γ}

theorem keeps_pure (x : α) : Keeps f (pure x : Op α) := fun _ => assures_pure.2 rfl

theorem keeps_throw (e : Error) : Keeps f (throw e : Op α) := fun _ => assures_throw.2 rfl

theorem keeps_modify {g : Connection → Connection} (hg : ∀ c, f (g c) = f c) : Keeps f (modify g : Op Unit) :=
  fun c => assures_modify.2 (hg c)

theorem keeps_bind {op : Op α} {k : α → Op β} (h : Keeps f op) (hk : ∀ x, Keeps f (k x)) : Keeps f (op >>= k) := by
  intro c
  refine assures_bind.2 ((h c).mono fun r c₁ h₁ => ?_)
  cases r with
  | error e => exact h₁
  | ok x => exact (hk x c₁).mono fun _ _ h₂ => h₂.trans h₁

theorem keeps_get_bind {k : Connection → Op β} (hk : ∀ c, Keeps f (k c)) : Keeps f (get >>= k) :=
  fun c => assures_get_bind.2 (hk c c)

theorem keeps_ofExcept (x : Except Error α) : Keeps f (ofExcept x) := by
  cases x with
  | ok x => exact keeps_pure x
  | error e => exact keeps_throw e

theorem keeps_attempt {op : Op α} (h : Keeps f op) : Keeps f (attempt op) := fun c => assures_attempt (h c)

theorem keeps_discard {op : Op α} (h : Keeps f op) : Keeps f (discard op) := keeps_bind h fun _ => keeps_pure ()

theorem keeps_shared (t : Timed World α) : Keeps f (shared t) :=
  fun _ => assures_shared fun _ => rfl

theorem keeps_silent {op : Op Unit} (h : Keeps f op) : Keeps f (silent op) := keeps_bind h fun _ => keeps_pure _

theorem keeps_giving {g : α → Answer} {op : Op α} (h : Keeps f op) : Keeps f (giving g op) :=
  keeps_bind h fun _ => keeps_pure _

/-- calls change nothing but the client -/
theorem keeps_call (hclient : ∀ c client, f { c with client } = f c) (limit : Option Duration)
    (late : Duration → NativeError) (call : Call α) : Keeps f (Op.call limit late call) :=
  fun c => assures_call fun _ client => hclient c client

theorem keeps_notify (heard : Heard) : Keeps f (notify heard) := keeps_get_bind fun _ => keeps_shared _

theorem keeps_disconnect (hclient : ∀ c client, f { c with client } = f c) : Keeps f disconnect := by
  refine keeps_get_bind fun c => ?_
  dsimp only
  split
  · exact keeps_bind (keeps_shared _) fun _ => keeps_modify fun c => hclient c _
  · exact keeps_pure ()

theorem keeps_tryOpen (hclient : ∀ c client, f { c with client } = f c)
    (hretries : ∀ c retries, f { c with retries } = f c) (limit : Option Duration) (spare : Nat) :
    Keeps f (tryOpen limit spare) := by
  induction spare with
  | zero => exact keeps_call hclient _ _ _
  | succ spare ih =>
    refine keeps_bind (keeps_call hclient _ _ _) fun x => ?_
    cases x with
    | ok _ => exact keeps_pure _
    | error cause => exact keeps_bind (keeps_modify fun c => hretries c _) fun _ => ih

end

/-! ## Statements keep settings and draft -/

/-- it tells nothing of a connection but what its settings and its draft decide -/
def Lasting (f : Connection → γ) : Prop :=
  ∀ c c', c'.config = c.config → c'.registry = c.registry → c'.draft = c.draft → f c' = f c

section

variable {f : Connection → γ} (hf : Lasting f)
include hf

theorem keeps_edit {g : Connection → Connection}
    (hg : ∀ c, (g c).config = c.config ∧ (g c).registry = c.registry ∧ (g c).draft = c.draft) :
    Keeps f (modify g : Op Unit) :=
  keeps_modify fun c => hf c (g c) (hg c).1 (hg c).2.1 (hg c).2.2

theorem keeps_openSession (lost : Nat) : Keeps f (openSession lost) := by
  refine keeps_get_bind fun c => keeps_bind (keeps_ofExcept _) fun limit => ?_
  refine keeps_bind (keeps_tryOpen (fun _ _ => hf _ _ rfl rfl rfl) (fun _ _ => hf _ _ rfl rfl rfl) _ _) fun x => ?_
  cases x with
  | error cause => exact keeps_bind (keeps_edit hf fun _ => ⟨rfl, rfl, rfl⟩) fun _ => keeps_throw _
  | ok _ =>
    refine keeps_bind (keeps_edit hf fun _ => ⟨rfl, rfl, rfl⟩) fun _ => ?_
    split
    · exact keeps_bind (keeps_edit hf fun _ => ⟨rfl, rfl, rfl⟩) fun _ => keeps_throw _
    · exact keeps_pure ()

theorem keeps_connect (force : Bool) : Keeps f (connect force) := by
  have hclose : Keeps f disconnect := keeps_disconnect fun _ _ => hf _ _ rfl rfl rfl
  refine keeps_get_bind fun c => ?_
  split_ifs
  · refine keeps_bind hclose fun _ => keeps_bind (keeps_edit hf fun _ => ⟨rfl, rfl, rfl⟩) fun _ => ?_
    exact keeps_openSession hf 0
  · exact keeps_bind hclose fun _ => keeps_openSession hf c.depth
  · exact keeps_openSession hf 0
  · exact keeps_pure ()

theorem keeps_failWith (kind : NativeError → String → Error) (cause : NativeError) :
    Keeps f (failWith kind cause : Op α) := by
  refine keeps_get_bind fun c => keeps_bind (keeps_edit hf fun _ => ⟨rfl, rfl, rfl⟩) fun _ => ?_
  refine keeps_bind (keeps_notify _) fun _ => ?_
  split
  · exact keeps_throw _
  · exact keeps_throw _

theorem keeps_conclude (outcome : Except NativeError Reply) : Keeps f (conclude outcome) := by
  cases outcome with
  | error cause => exact keeps_failWith hf _ cause
  | ok reply =>
    refine keeps_bind (keeps_edit hf fun _ => ⟨rfl, rfl, rfl⟩) fun _ => keeps_get_bind fun _ => ?_
    exact keeps_bind (keeps_notify _) fun _ => keeps_pure reply

/-- every statement begins like this -/
theorem keeps_begin {statement : Statement} {own : Option Duration} {k : Option Duration → Op β}
    (hk : ∀ limit, Keeps f (k limit)) :
    Keeps f (beginning statement own k) := by
  refine keeps_bind (keeps_connect hf false) fun _ => keeps_bind (keeps_edit hf fun _ => ⟨rfl, rfl, rfl⟩) fun _ => ?_
  exact keeps_get_bind fun c => keeps_bind (keeps_ofExcept _) hk

theorem keeps_statementCall (limit : Option Duration) (call : Call α) : Keeps f (Op.call limit statementLate call) :=
  keeps_call (fun _ _ => hf _ _ rfl rfl rfl) _ _ _

theorem keeps_prepare (statement : Statement) (own : Option Duration) : Keeps f (prepare statement own) := by
  refine keeps_begin hf fun limit => keeps_bind (keeps_statementCall hf _ _) fun x => ?_
  cases x with
  | ok handle => exact keeps_pure _
  | error cause => exact keeps_failWith hf _ cause

theorem keeps_execute (statement : Statement) (own : Option Duration) : Keeps f (execute statement own) := by
  refine keeps_get_bind fun c => keeps_bind (keeps_ofExcept _) fun limit => ?_
  refine keeps_bind (keeps_prepare hf statement own) fun p => ?_
  exact keeps_bind (keeps_statementCall hf _ _) (keeps_conclude hf)

theorem keeps_executePrepared (p : Prepared) (own : Option Duration) : Keeps f (executePrepared p own) :=
  keeps_begin hf fun _ => keeps_bind (keeps_statementCall hf _ _) (keeps_conclude hf)

theorem keeps_query (text : String) (own : Option Duration) : Keeps f (query text own) := by
  refine keeps_begin hf fun _ => keeps_bind (keeps_statementCall hf _ _) fun x => ?_
  exact keeps_bind (keeps_conclude hf x) fun _ => keeps_pure _

theorem keeps_fetch (statement : Statement) : Keeps f (fetch statement) :=
  keeps_bind (keeps_execute hf statement none) fun _ => keeps_pure _

theorem keeps_escape (text : String) : Keeps f (escape text) :=
  keeps_bind (keeps_connect hf false) fun _ => keeps_pure _

theorem keeps_explain (statement : Statement) : Keeps f (explain statement) :=
  keeps_bind (keeps_fetch hf _) fun _ => keeps_bind (keeps_edit hf fun _ => ⟨rfl, rfl, rfl⟩) fun _ => keeps_pure _

theorem keeps_fetchTotalCount : Keeps f fetchTotalCount := by
  refine keeps_get_bind fun c => keeps_bind (keeps_ofExcept _) fun limit => ?_
  refine keeps_bind (keeps_statementCall hf _ _) fun x => ?_
  cases x with
  | error cause => exact keeps_failWith hf _ cause
  | ok reply => exact keeps_edit hf fun _ => ⟨rfl, rfl, rfl⟩

/-! Transactions and locks -/

theorem keeps_startStatement (depth : Nat) : Keeps f (startStatement depth) := by
  unfold startStatement
  split
  · exact keeps_discard (keeps_query hf _ _)
  · refine keeps_bind (keeps_shared _) fun savepoints => ?_
    split
    · exact keeps_discard (keeps_query hf _ _)
    · exact keeps_pure ()

theorem keeps_start : Keeps f start := by
  refine keeps_bind (keeps_connect hf false) fun _ => keeps_get_bind fun c => ?_
  refine keeps_bind (keeps_edit hf fun _ => ⟨rfl, rfl, rfl⟩) fun _ => ?_
  refine keeps_bind (keeps_attempt (keeps_startStatement hf _)) fun x => ?_
  cases x with
  | ok _ => exact keeps_pure ()
  | error e => exact keeps_bind (keeps_edit hf fun _ => ⟨rfl, rfl, rfl⟩) fun _ => keeps_throw e

theorem keeps_leave : Keeps f leave := by
  have hrest : Keeps f countingOff :=
    keeps_get_bind fun c => keeps_bind (keeps_edit hf fun _ => ⟨rfl, rfl, rfl⟩) fun _ => keeps_pure _
  refine keeps_get_bind fun c => ?_
  split
  · exact keeps_bind (keeps_connect hf false) fun _ => hrest
  · exact hrest

theorem keeps_commit : Keeps f commit := by
  refine keeps_bind (keeps_leave hf) fun depth => ?_
  split
  · exact keeps_discard (keeps_query hf _ _)
  · exact keeps_pure ()

theorem keeps_rollback : Keeps f rollback := by
  refine keeps_bind (keeps_leave hf) fun depth => ?_
  split_ifs
  · exact keeps_discard (keeps_query hf _ _)
  · refine keeps_bind (keeps_shared _) fun savepoints => ?_
    split
    · exact keeps_discard (keeps_query hf _ _)
    · exact keeps_pure ()
  · exact keeps_pure ()

theorem keeps_settle (x : Except Error α) : Keeps f (settle x) := by
  cases x with
  | ok x => exact keeps_bind (keeps_commit hf) fun _ => keeps_pure x
  | error e => exact keeps_bind (keeps_discard (keeps_attempt (keeps_rollback hf))) fun _ => keeps_throw e

theorem keeps_transaction {work : Op α} (h : Keeps f work) : Keeps f (transaction work) :=
  keeps_bind (keeps_start hf) fun _ => keeps_bind (keeps_attempt h) (keeps_settle hf)

theorem keeps_executeAll (statements : List Statement) : Keeps f (executeAll statements) := by
  induction statements with
  | nil => exact keeps_pure 0
  | cons s rest ih =>
    exact keeps_bind (keeps_execute hf s none) fun _ => keeps_bind ih fun _ => keeps_pure _

theorem keeps_batch (statements : List Statement) : Keeps f (batch statements) := by
  unfold batch
  split
  · exact keeps_pure 0
  · exact keeps_transaction hf (keeps_executeAll hf statements)

theorem keeps_lock (tables : List String) : Keeps f (lock tables) := by
  refine keeps_get_bind fun c => ?_
  split
  · exact keeps_bind (keeps_throw _) fun _ => keeps_discard (keeps_query hf _ _)
  · exact keeps_discard (keeps_query hf _ _)

theorem keeps_columns (table : String) : Keeps f (columns table) :=
  keeps_get_bind fun _ => keeps_bind (keeps_query hf _ _) fun _ => keeps_get_bind fun _ => keeps_pure _

theorem keeps_tables (database : Option String) : Keeps f (tables database) :=
  keeps_bind (keeps_query hf _ _) fun _ => keeps_get_bind fun _ => keeps_pure _

end

end Op

/-! ## Every operation keeps the settings -/

/-- what a connection is used with: its settings, its registry and the prefix of its draft -/
def Connection.settings (c : Connection) : Config × Registry × String :=
  (c.config, c.registry, c.draft.tablePrefix)

theorem lasting_settings : Op.Lasting Connection.settings := by
  intro c c' hconfig hregistry hdraft
  rw [Connection.settings, hconfig, hregistry, hdraft]
  rfl

namespace Op

variable {α : Type}

theorem keeps_record (clause : Clause) : Keeps Connection.settings (record clause) := by
  intro c
  have hbefore := Draft.tablePrefix_recordIn (some c.registry) c.draft clause
  exact .done _ (congrArg (fun p => (c.config, c.registry, p)) hbefore)

theorem keeps_recordAll (clauses : List (Except Error Clause)) : Keeps Connection.settings (recordAll clauses) := by
  induction clauses with
  | nil => exact keeps_pure ()
  | cons clause rest ih =>
    exact keeps_bind (keeps_ofExcept clause) fun clause => keeps_bind (keeps_record clause) fun _ => ih

theorem keeps_clearDraft : Keeps Connection.settings (modify Connection.clearDraft) := keeps_modify fun _ => rfl

theorem keeps_takeDraft : Keeps Connection.settings takeDraft :=
  keeps_get_bind fun _ => keeps_bind keeps_clearDraft fun _ => keeps_pure _

theorem keeps_select (asHandle : Bool) (own : Option Duration) : Keeps Connection.settings (select asHandle own) := by
  refine keeps_bind keeps_takeDraft fun d => keeps_bind (keeps_ofExcept _) fun s => ?_
  split
  · exact keeps_bind (keeps_prepare lasting_settings _ _) fun _ => keeps_pure _
  · refine keeps_bind (keeps_execute lasting_settings _ _) fun reply => ?_
    split
    · exact keeps_bind (keeps_fetchTotalCount lasting_settings) fun _ => keeps_pure _
    · exact keeps_pure _

theorem keeps_selectRows (own : Option Duration) : Keeps Connection.settings (selectRows own) :=
  keeps_bind (keeps_select false own) fun _ => keeps_pure _

theorem keeps_first (own : Option Duration) : Keeps Connection.settings (first own) :=
  keeps_bind (keeps_record _) fun _ => keeps_bind (keeps_selectRows own) fun _ => keeps_pure _

theorem keeps_value (column : String) (own : Option Duration) : Keeps Connection.settings (value column own) :=
  keeps_bind (keeps_record _) fun _ => keeps_bind (keeps_record _) fun _ =>
    keeps_bind (keeps_selectRows own) fun _ => keeps_pure _

theorem keeps_column (name : String) (own : Option Duration) : Keeps Connection.settings (column name own) :=
  keeps_bind (keeps_record _) fun _ => keeps_bind (keeps_selectRows own) fun _ => keeps_pure _

theorem keeps_change (compile : Draft → Except Error Statement) (own : Option Duration) :
    Keeps Connection.settings (change compile own) :=
  keeps_bind keeps_takeDraft fun _ => keeps_bind (keeps_ofExcept _) fun s => keeps_execute lasting_settings s own

theorem keeps_insert (verb : Query.InsertVerb) (row : Query.Row) (own : Option Duration) :
    Keeps Connection.settings (insert verb row own) :=
  keeps_bind (keeps_change _ own) fun _ => keeps_pure _

theorem keeps_update (row : Query.Row) (force : Bool) (own : Option Duration) :
    Keeps Connection.settings (update row force own) :=
  keeps_bind (keeps_change _ own) fun _ => keeps_pure _

theorem keeps_delete (force : Bool) (own : Option Duration) : Keeps Connection.settings (delete force own) :=
  keeps_bind (keeps_change _ own) fun _ => keeps_pure _

theorem keeps_keep (name : String) (p : Prepared) : Keeps Connection.settings (keep name p) := keeps_shared _

theorem keeps_finish (q : BoundQuery) : Keeps Connection.settings (finish q) := by
  unfold finish
  split
  · exact keeps_pure _
  · exact keeps_get_bind fun c => keeps_bind (keeps_ofExcept _) fun _ => keeps_pure _
  · refine keeps_bind (keeps_select _ _) fun selection => ?_
    cases selection with
    | rows rows => exact keeps_pure _
    | handle p => exact keeps_bind (keeps_keep q.name p) fun _ => keeps_pure _
  · exact keeps_bind (keeps_select _ _) fun _ => keeps_pure _
  · exact keeps_giving (keeps_first _)
  · exact keeps_giving (keeps_value _ _)
  · exact keeps_giving (keeps_column _ _)
  · exact keeps_bind (keeps_ofExcept _) fun _ => keeps_giving (keeps_insert _ _ _)
  · exact keeps_bind (keeps_ofExcept _) fun _ => keeps_giving (keeps_update _ _ _)
  · exact keeps_giving (keeps_delete _ _)

theorem keeps_bound (q : BoundQuery) : Keeps Connection.settings (bound q) :=
  keeps_bind (keeps_recordAll _) fun _ => keeps_finish q

theorem keeps_tablesExist (tables : List String) : Keeps Connection.settings (tablesExist tables) := by
  have hasked : ∀ names : List Datum, ∀ database : String, Keeps Connection.settings (do
      modify Connection.clearDraft
      record (.table "information_schema.tables")
      record (.fields ["table_name"])
      record (.filter ⟨.and, "table_schema", "=", .operand (.bind (.text database))⟩)
      record (.filterIn "table_name" (.list names))
      record .totalCount
      record (.limit ⟨none, names.length⟩)
      discard (select false none)
      pure ((← get).totalCount == names.length)) := by
    intro names database
    refine keeps_bind keeps_clearDraft fun _ => ?_
    refine keeps_bind (keeps_record _) fun _ => keeps_bind (keeps_record _) fun _ => ?_
    refine keeps_bind (keeps_record _) fun _ => keeps_bind (keeps_record _) fun _ => ?_
    refine keeps_bind (keeps_record _) fun _ => keeps_bind (keeps_record _) fun _ => ?_
    exact keeps_bind (keeps_discard (keeps_select _ _)) fun _ => keeps_get_bind fun _ => keeps_pure _
  refine keeps_get_bind fun c => ?_
  split
  · exact keeps_bind (keeps_throw _) fun _ => hasked _ _
  · exact hasked _ _

theorem keeps_setFieldCase (name : String) : Keeps Connection.settings (setFieldCase name) := by
  unfold setFieldCase
  split
  · exact keeps_throw _
  · exact keeps_bind (keeps_modify fun _ => rfl) fun _ => keeps_pure _

theorem keeps_named (name : String) : Keeps Connection.settings (named name) := by
  refine keeps_bind (keeps_shared _) fun found => ?_
  cases found with
  | some p => exact keeps_pure _
  | none => exact keeps_throw _

theorem keeps_bodyResult (failure : Option String) (outcome : Except Error Unit) :
    Keeps Connection.settings (bodyResult failure outcome) := by
  cases outcome with
  | error e => exact keeps_pure _
  | ok _ =>
    cases failure with
    | some reason => exact keeps_pure _
    | none => exact keeps_get_bind fun _ => keeps_pure _

/-- what making a connection ready leaves, even if it fails: the settings, and no clauses -/
theorem assures_beforeUse {γ : Type} {f : Connection → γ} (hf : Lasting f) (c : Connection) :
    beforeUse.Assures c fun _ c' => f c' = f c.clearDraft := by
  have hundone : Keeps f undoing := by
    refine keeps_get_bind fun c => ?_
    split
    · exact keeps_bind (keeps_edit hf fun _ => ⟨rfl, rfl, rfl⟩) fun _ => keeps_rollback hf
    · exact keeps_pure ()
  rw [beforeUse, assures_modify_bind, assures_get_bind]
  split
  · refine keeps_bind (keeps_connect hf true) (fun _ => ?_) c.clearDraft
    exact keeps_bind (keeps_edit hf fun _ => ⟨rfl, rfl, rfl⟩) fun _ => hundone
  · exact hundone c.clearDraft

theorem keeps_beforeUse : Keeps Connection.settings beforeUse := assures_beforeUse lasting_settings

end Op

namespace Operation

open Op

mutual

/-- **Settings last.** -/
theorem keeps_perform : (operation : Operation) → Keeps Connection.settings operation.perform
  | arrange _ => keeps_silent (keeps_shared _)
  | unreadable reason => keeps_throw reason
  | connect force => keeps_silent (keeps_connect lasting_settings force)
  | disconnect => keeps_silent (keeps_disconnect fun _ _ => rfl)
  | beforeUse => keeps_silent keeps_beforeUse
  | clearDraft => keeps_silent keeps_clearDraft
  | start => keeps_silent (keeps_start lasting_settings)
  | commit => keeps_silent (keeps_commit lasting_settings)
  | rollback => keeps_silent (keeps_rollback lasting_settings)
  | lock names => keeps_silent (keeps_lock lasting_settings names)
  | unlock => keeps_silent (keeps_discard (keeps_query lasting_settings _ _))
  | sleep _ => keeps_silent (keeps_shared _)
  | prepare name statement limit =>
    keeps_bind (keeps_prepare lasting_settings statement limit) fun p =>
      keeps_bind (keeps_keep name p) fun _ => keeps_pure _
  | executePrepared name limit => keeps_bind (keeps_named name) fun p =>
    keeps_giving (keeps_executePrepared lasting_settings p limit)
  | execute statement limit => keeps_giving (keeps_execute lasting_settings statement limit)
  | query text limit => keeps_giving (keeps_query lasting_settings text limit)
  | fetch statement => keeps_giving (keeps_fetch lasting_settings statement)
  | fetchFirst statement => keeps_giving (keeps_fetch lasting_settings statement)
  | explain statement => keeps_giving (keeps_explain lasting_settings statement)
  | escape text => keeps_giving (keeps_escape lasting_settings text)
  | batch statements => keeps_giving (keeps_batch lasting_settings statements)
  | setLockMethod _ => keeps_bind (keeps_modify fun _ => rfl) fun _ => keeps_pure _
  | setFieldCase name => keeps_setFieldCase name
  | columns table => keeps_giving (keeps_columns lasting_settings table)
  | tables database => keeps_giving (keeps_tables lasting_settings database)
  | tablesExist names => keeps_giving (keeps_tablesExist names)
  | expandTables _ => keeps_get_bind fun _ => keeps_pure _
  | showLog => keeps_get_bind fun _ => keeps_pure _
  | clearLog => keeps_silent (keeps_modify fun _ => rfl)
  | describe => keeps_get_bind fun _ => keeps_pure _
  | target => keeps_get_bind fun _ => keeps_pure _
  | bound q => keeps_bound q
  | transaction body failure => by
    refine keeps_bind (keeps_attempt (keeps_start lasting_settings)) fun started => ?_
    cases started with
    | error e => exact keeps_pure _
    | ok _ =>
      refine keeps_bind (keeps_performAll body) fun done => ?_
      refine keeps_bind (keeps_bodyResult failure done.2) fun result => ?_
      exact keeps_bind (keeps_attempt (keeps_settle lasting_settings result)) fun _ => keeps_pure _

theorem keeps_performAll : (operations : List Operation) → Keeps Connection.settings (performAll operations)
  | [] => keeps_pure _
  | operation :: rest => by
    refine keeps_bind (keeps_attempt (keeps_perform operation)) fun outcome => ?_
    cases outcome with
    | error e => exact keeps_pure _
    | ok answer => exact keeps_bind (keeps_performAll rest) fun _ => keeps_pure _

end

end Operation

/-- programs of steps that keep the settings keep them -/
theorem keeps_program {Step : Type → Type} {perform : {β : Type} → Step β → Op β}
    (h : ∀ {β : Type} (s : Step β), Op.Keeps Connection.settings (perform s)) {α : Type} (work : Program Step α) :
    Op.Keeps Connection.settings (work.op perform) := by
  induction work with
  | finish result => exact Op.keeps_ofExcept result
  | step s next ih => exact Op.keeps_bind (Op.keeps_attempt (h s)) ih
  | transaction inner next ih ihn =>
    exact Op.keeps_bind (Op.keeps_attempt (Op.keeps_transaction lasting_settings ih)) ihn

/-! ## Sessions that are relied on -/

/-- the connection is where it was, in a session that is relied on -/
structure Connection.Steady (c c' : Connection) : Prop where
  sure : c'.needsReconnect = false
  depth : c'.depth = c.depth

/-- no clauses behind this prefix, no open transaction, and no session that is not relied on -/
structure Connection.Revalidated (tablePrefix : String) (c : Connection) : Prop where
  draft : c.draft = .fresh tablePrefix
  depth : c.depth = 0
  sure : c.needsReconnect = false

namespace Op

variable {α β : Type}

/-- what holds of the connection behind a success -/
def Secures (op : Op α) (c : Connection) (R : α → Connection → Prop) : Prop :=
  op.Assures c fun r c' => ∀ x, r = .ok x → R x c'

theorem secures_pure {x : α} {c : Connection} {R : α → Connection → Prop} (h : R x c) : Secures (pure x) c R := by
  refine assures_pure.2 fun y hy => ?_
  cases hy
  exact h

theorem secures_throw {e : Error} {c : Connection} {R : α → Connection → Prop} : Secures (throw e) c R :=
  assures_throw.2 fun _ hy => (nomatch hy)

theorem secures_get_bind {k : Connection → Op β} {c : Connection} {R : β → Connection → Prop}
    (h : (k c).Secures c R) : (get >>= k).Secures c R :=
  assures_get_bind.2 h

theorem secures_modify_bind {g : Connection → Connection} {k : Unit → Op β} {c : Connection}
    {R : β → Connection → Prop} (h : (k ()).Secures (g c) R) : (modify g >>= k).Secures c R :=
  assures_modify_bind.2 h

theorem secures_bind {op : Op α} {k : α → Op β} {c : Connection} {R : β → Connection → Prop}
    (h : op.Secures c fun x c₁ => (k x).Secures c₁ R) : (op >>= k).Secures c R := by
  refine assures_bind.2 (h.mono fun r c₁ h₁ => ?_)
  cases r with
  | error e => exact fun y hy => (nomatch hy)
  | ok x => exact h₁ x rfl

theorem Secures.mono {op : Op α} {c : Connection} {R R' : α → Connection → Prop} (h : op.Secures c R)
    (hR : ∀ x c', R x c' → R' x c') : op.Secures c R' :=
  Assures.mono h fun _ c' hr x hx => hR x c' (hr x hx)

theorem Keeps.secures {γ : Type} {f : Connection → γ} {op : Op α} (h : Keeps f op) (c : Connection) :
    op.Secures c fun _ c' => f c' = f c :=
  (h c).mono fun _ _ hf _ _ => hf

theorem secures_ofExcept (x : Except Error α) (c : Connection) : (ofExcept x).Secures c fun _ c' => c' = c :=
  assures_ofExcept.2 fun _ _ => rfl

theorem secures_openSession (lost : Nat) (c : Connection) : (openSession lost).Secures c fun _ c' => c.Steady c' := by
  have hdepth : ∀ limit spare, Keeps Connection.depth (tryOpen limit spare) :=
    fun limit spare => keeps_tryOpen (fun _ _ => rfl) (fun _ _ => rfl) limit spare
  refine secures_get_bind (secures_bind ((secures_ofExcept _ c).mono fun limit c₁ hc => ?_))
  subst hc
  refine secures_bind (((hdepth _ _).secures c₁).mono fun x c₂ hd => ?_)
  cases x with
  | error cause => exact secures_modify_bind secures_throw
  | ok _ =>
    refine secures_modify_bind ?_
    split
    · exact secures_modify_bind secures_throw
    · exact secures_pure ⟨rfl, hd⟩

theorem secures_connect (c : Connection) : (connect false).Secures c fun _ c' => c.Steady c' := by
  have hdepth : Keeps Connection.depth disconnect := keeps_disconnect fun _ _ => rfl
  refine secures_get_bind ?_
  simp only [Bool.false_eq_true, ite_false]
  split_ifs with hn hc
  · refine secures_bind ((hdepth.secures c).mono fun _ c₁ hd => ?_)
    exact (secures_openSession c.depth c₁).mono fun _ c₂ h => ⟨h.sure, h.depth.trans hd⟩
  · exact secures_openSession 0 c
  · exact secures_pure ⟨by simpa using hn, rfl⟩

/-- a new session is asked for at any depth -/
theorem secures_reconnect (c : Connection) : (connect true).Secures c fun _ c' => c'.needsReconnect = false := by
  refine secures_get_bind ?_
  simp only [ite_true]
  have hclose : Keeps Connection.config disconnect := keeps_disconnect fun _ _ => rfl
  refine secures_bind ((hclose.secures c).mono fun _ c₁ _ => secures_modify_bind ?_)
  exact (secures_openSession 0 _).mono fun _ _ h => h.sure

theorem secures_conclude (outcome : Except NativeError Reply) (c : Connection) :
    (conclude outcome).Secures c fun _ c' => c'.needsReconnect = c.needsReconnect ∧ c'.depth = c.depth := by
  cases outcome with
  | error cause =>
    refine secures_get_bind (secures_modify_bind (secures_bind ?_))
    refine ((keeps_notify (f := id) _).secures _).mono fun _ c₁ _ => ?_
    split <;> exact secures_throw
  | ok reply =>
    refine secures_modify_bind (secures_get_bind (secures_bind ?_))
    refine ((keeps_notify (f := id) _).secures _).mono fun _ c₁ hc => secures_pure ?_
    obtain rfl : c₁ = c.recordSuccess reply := hc
    exact ⟨rfl, rfl⟩

/-- a statement that succeeded leaves a session that is relied on, at the depth where it was -/
theorem secures_query (text : String) (own : Option Duration) (c : Connection) :
    (query text own).Secures c fun _ c' => c.Steady c' := by
  refine secures_bind ((secures_connect c).mono fun _ c₁ hc => ?_)
  refine secures_modify_bind (secures_get_bind ?_)
  refine secures_bind ((secures_ofExcept _ _).mono fun limit c₂ hc₂ => ?_)
  subst hc₂
  refine secures_bind (assures_call fun x client _ _ => ?_)
  refine secures_bind ((secures_conclude _ _).mono fun reply c₃ h => secures_pure ?_)
  exact ⟨h.1.trans hc.sure, h.2.trans hc.depth⟩

theorem secures_leave {c : Connection} (hd : 0 < c.depth) :
    leave.Secures c fun depth c' => depth = c.depth ∧ c'.needsReconnect = false ∧ c'.depth = c.depth - 1 := by
  refine secures_get_bind ?_
  rw [if_pos hd]
  refine secures_bind ((secures_connect c).mono fun _ c₁ hc => ?_)
  refine secures_get_bind (secures_modify_bind (secures_pure ?_))
  exact ⟨hc.depth, hc.sure, by rw [hc.depth]⟩

/-- the outermost transaction is left, or the failure is told -/
theorem secures_rollback {c : Connection} (hd : c.depth = 1) :
    rollback.Secures c fun _ c' => c'.needsReconnect = false ∧ c'.depth = 0 := by
  refine secures_bind ((secures_leave (by omega)).mono fun depth c₁ h => ?_)
  obtain ⟨rfl, -, hd₁⟩ := h
  rw [if_pos hd]
  refine secures_bind ((secures_query _ none c₁).mono fun _ c₂ h => secures_pure ?_)
  exact ⟨h.sure, by rw [h.depth, hd₁, hd]⟩

/-- **Made ready.** Whatever state a connection was in: if making it ready succeeds, nothing is left of what its last
holder did. -/
theorem secures_beforeUse (c : Connection) : beforeUse.Secures c fun _ c' => c'.Revalidated c.draft.tablePrefix := by
  have hundone : ∀ c : Connection, c.needsReconnect = false →
      undoing.Secures c fun _ c' => c'.needsReconnect = false ∧ c'.depth = 0 := by
    intro c hs
    refine secures_get_bind ?_
    split
    · exact secures_modify_bind (secures_rollback rfl)
    · exact secures_pure ⟨hs, by omega⟩
  have hstate : beforeUse.Secures c fun _ c' => c'.needsReconnect = false ∧ c'.depth = 0 := by
    refine secures_modify_bind (secures_get_bind ?_)
    split
    · refine secures_bind ((secures_reconnect _).mono fun _ c₁ hs => ?_)
      exact secures_modify_bind (hundone _ hs)
    · next hn => exact hundone _ (by simpa using hn)
  have hdraft : beforeUse.Assures c fun _ c' => c'.draft = c.draft.reset :=
    assures_beforeUse (fun _ _ _ _ h => h) c
  exact (hstate.and hdraft).mono fun r c' h x hx => ⟨h.2, (h.1 x hx).2, (h.1 x hx).1⟩

end Op

end SqlSession
