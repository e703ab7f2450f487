/-
Operations under settings whose seconds may have no span.

Seconds become spans when a session is opened and when a statement begins, again each time. An operation fails for want
of a span only where it had to convert seconds that have none, and where it has to it fails.
- `Converts`: an operation fails so only for a reason, kept where operations are put together;
- `converts_connect`, `converts_task`, `converts_count`, `converts_beforeUse`: the reasons;
- `assures_connect_overlong`, `assures_task_overlong`: seconds without a span are a reason;
- `Connection.Strained`: so they are where a connection that is made ready needs another session or is in a transaction;
- `strained_of_beforeUse`, `secures_beforeUse_strained`: else there is no reason, and then it is never ready;
- `stops_beforeUse`: unless a session has to be opened first it fails before it waits for anything.
-/
import SqlSession.Proofs.Decimal.Spans
import SqlSession.Proofs.Session.Diagnostics

namespace SqlSession

open Config (Overlong)

/-- the limit of a statement is an error if it has none of its own and the configured seconds have no span -/
theorem Connection.limit_eq_error_iff {c : Connection} {own : Option Duration} {e : Error} :
    c.limit own = .error e ↔ e = .secondsOverflow ∧ own = none ∧ Overlong c.config.executeSeconds := by
  cases own with
  | some d => exact ⟨fun h => (nomatch h), fun h => (nomatch h.2.1)⟩
  | none =>
    have hspan : c.limit none = Config.span c.config.executeSeconds := rfl
    rw [hspan, Config.span_eq_error_iff]
    exact ⟨fun h => ⟨h.1, rfl, h.2⟩, fun h => ⟨h.1, h.2.2⟩⟩

/-- making the connection ready has to convert seconds that have no span: those for connects, if the session is
doubtful, or if it is closed and a transaction is counted, or those for statements, if a transaction is counted -/
inductive Connection.Strained (c : Connection) : Prop
  | doubtful (doubt : c.needsReconnect = true) (overlong : Overlong c.config.connectSeconds)
  | closed (sure : c.needsReconnect = false) (open_ : 0 < c.depth) (closed : c.client.connected = false)
      (overlong : Overlong c.config.connectSeconds)
  | undoing (sure : c.needsReconnect = false) (open_ : 0 < c.depth) (overlong : Overlong c.config.executeSeconds)

/-- a result that is there at once is what is gone on with -/
theorem Timed.proceed_bind {σ α β : Type} {t : Timed σ α} {f : α → Timed σ β} {s s' : σ} {x : α}
    (h : t.proceed s = (.inl x, s')) : (t.bind f).proceed s = (f x).proceed s' := by
  induction t generalizing s with
  | done y =>
    cases h
    rfl
  | act change rest ih => exact ih s h
  | wait n rest ih =>
    cases n with
    | zero => exact ih h
    | succ n => cases h

namespace Op

/-- with these settings the operation keeps them, and fails for want of a span only for this reason -/
def Converts {α : Type} (config : Config) (reason : Prop) (op : Op α) : Prop :=
  ∀ c : Connection, c.config = config →
    op.Assures c fun r c' => c'.config = config ∧ (r = .error .secondsOverflow → reason)

section

variable {α β : Type} {config : Config} {reason reason' : Prop}

/-! ## Ways of putting operations together -/

theorem Converts.mono {op : Op α} (h : Converts config reason op) (hr : reason → reason') :
    Converts config reason' op :=
  fun c hc => (h c hc).mono fun _ _ hq => ⟨hq.1, fun hover => hr (hq.2 hover)⟩

theorem converts_pure (x : α) : Converts config reason (pure x) :=
  fun _ hc => assures_pure.2 ⟨hc, nofun⟩

theorem converts_throw {e : Error} (h : e ≠ .secondsOverflow) : Converts (α := α) config reason (throw e) :=
  fun _ hc => assures_throw.2 ⟨hc, fun hover => absurd (Except.error.inj hover) h⟩

theorem Converts.bind {op : Op α} {f : α → Op β} (h : Converts config reason op)
    (hf : ∀ x, Converts config reason (f x)) : Converts config reason (op >>= f) := by
  refine fun c hc => assures_bind.2 ((h c hc).mono fun r c₁ hq => ?_)
  cases r with
  | ok x => exact hf x c₁ hq.1
  | error e => exact ⟨hq.1, fun hover => hq.2 (congrArg Except.error (Except.error.inj hover))⟩

theorem converts_get_bind {f : Connection → Op β} (h : ∀ c, c.config = config → Converts config reason (f c)) :
    Converts config reason (get >>= f) :=
  fun c hc => assures_get_bind.2 (h c hc c hc)

theorem converts_modify {g : Connection → Connection} (hg : ∀ c, (g c).config = c.config) :
    Converts config reason (modify g) :=
  fun c hc => assures_modify.2 ⟨(hg c).trans hc, nofun⟩

theorem converts_modify_bind {g : Connection → Connection} {f : Unit → Op β} (hg : ∀ c, (g c).config = c.config)
    (hf : Converts config reason (f ())) : Converts config reason (modify g >>= f) :=
  (converts_modify hg).bind fun _ => hf

theorem converts_ofExcept {x : Except Error α} (h : ∀ e, x = .error e → reason) :
    Converts config reason (ofExcept x) :=
  fun _ hc => assures_ofExcept.2 ⟨hc, h _⟩

theorem converts_shared (t : Timed World α) : Converts config reason (shared t) :=
  fun _ hc => assures_shared fun _ => ⟨hc, nofun⟩

theorem converts_call (limit : Option Duration) (late : Duration → NativeError) (call : Call α) :
    Converts config reason (Op.call limit late call) :=
  fun _ hc => assures_call fun _ _ => ⟨hc, nofun⟩

theorem Converts.discard {op : Op α} (h : Converts config reason op) : Converts config reason (discard op) :=
  h.bind fun _ => converts_pure ()

/-! ## Sessions -/

theorem converts_disconnect : Converts config reason disconnect := by
  refine converts_get_bind fun c _ => ?_
  dsimp only
  split
  · exact (converts_shared _).bind fun _ => converts_modify fun _ => rfl
  · exact converts_pure ()

theorem converts_tryOpen (limit : Option Duration) (spare : Nat) : Converts config reason (tryOpen limit spare) := by
  induction spare with
  | zero => exact converts_call _ _ _
  | succ spare ih =>
    refine (converts_call _ _ _).bind fun x => ?_
    cases x with
    | ok _ => exact converts_pure _
    | error _ => exact converts_modify_bind (fun _ => rfl) ih

theorem converts_openSession (lost : Nat) : Converts config (Overlong config.connectSeconds) (openSession lost) := by
  refine converts_get_bind fun c hc => ?_
  rw [hc]
  refine (converts_ofExcept fun e he => (Config.span_eq_error_iff.1 he).2).bind fun limit => ?_
  refine (converts_tryOpen limit _).bind fun x => ?_
  cases x with
  | error cause => exact converts_modify_bind (fun _ => rfl) (converts_throw nofun)
  | ok _ =>
    refine converts_modify_bind (fun _ => rfl) ?_
    split
    · exact converts_modify_bind (fun _ => rfl) (converts_throw nofun)
    · exact converts_pure ()

/-- to make sure of a session fails so only if the seconds for connects have no span -/
theorem converts_connect (force : Bool) : Converts config (Overlong config.connectSeconds) (connect force) := by
  refine converts_get_bind fun c _ => ?_
  split_ifs
  · exact converts_disconnect.bind fun _ => converts_modify_bind (fun _ => rfl) (converts_openSession 0)
  · exact converts_disconnect.bind fun _ => converts_openSession c.depth
  · exact converts_openSession 0
  · exact converts_pure ()

theorem assures_openSession_overlong {c : Connection} (lost : Nat) (h : Overlong c.config.connectSeconds) :
    (openSession lost).Assures c fun r _ => r = .error .secondsOverflow := by
  have hlimit : c.config.connectLimit = .error .secondsOverflow := Config.span_eq_error_iff.2 ⟨rfl, h⟩
  refine assures_get_bind.2 (assures_bind.2 (assures_ofExcept.2 ?_))
  rw [hlimit]

/-- no session can be opened while the seconds for connects have no span -/
theorem assures_connect_overlong {c : Connection} {force : Bool} (h : Overlong c.config.connectSeconds)
    (hneeded : force = true ∨ c.needsReconnect = true ∨ c.client.connected = false) :
    (connect force).Assures c fun r _ => r = .error .secondsOverflow := by
  have hconverts : Converts c.config True disconnect := converts_disconnect
  have hdisconnect : disconnect.Assures c fun r c₁ => r = .ok () ∧ c₁.config = c.config :=
    ((assures_disconnect c).and (hconverts c rfl)).mono fun _ _ hq => ⟨hq.1.1, hq.2.1⟩
  refine assures_get_bind.2 ?_
  split_ifs with hforce hlost hclosed
  · refine assures_bind.2 (hdisconnect.mono ?_)
    rintro _ c₁ ⟨rfl, hc₁⟩
    exact assures_modify_bind.2 (assures_openSession_overlong 0 (hc₁ ▸ h))
  · refine assures_bind.2 (hdisconnect.mono ?_)
    rintro _ c₁ ⟨rfl, hc₁⟩
    exact assures_openSession_overlong c.depth (hc₁ ▸ h)
  · exact assures_openSession_overlong 0 h
  · simp [hforce, hlost] at hneeded
    simp [hneeded] at hclosed

/-! ## Statements -/

theorem converts_notify (heard : Heard) : Converts config reason (notify heard) :=
  converts_get_bind fun _ _ => converts_shared _

theorem converts_failWith {kind : NativeError → String → Error} (h : Carries kind) (cause : NativeError) :
    Converts (α := α) config reason (failWith kind cause) := by
  refine converts_get_bind fun c _ => converts_modify_bind (fun _ => rfl) ((converts_notify _).bind fun _ => ?_)
  split
  · exact converts_throw nofun
  · refine converts_throw fun hover => ?_
    have hcause := h.cause cause c.lastQuery
    rw [hover] at hcause
    cases hcause

theorem converts_conclude (outcome : Except NativeError Reply) : Converts config reason (conclude outcome) := by
  cases outcome with
  | error cause => exact converts_failWith carries_execute cause
  | ok reply =>
    refine converts_modify_bind (fun _ => rfl) (converts_get_bind fun c _ => ?_)
    exact (converts_notify _).bind fun _ => converts_pure reply

/-- the seconds that a statement with such a limit of its own converts have no span -/
def Wanting (config : Config) (own : Option Duration) : Prop :=
  Overlong config.connectSeconds ∨ own = none ∧ Overlong config.executeSeconds

theorem converts_limit {c : Connection} (hc : c.config = config) (own : Option Duration) :
    Converts config (Wanting config own) (ofExcept (c.limit own)) :=
  converts_ofExcept fun _ he => .inr (hc ▸ (Connection.limit_eq_error_iff.1 he).2)

theorem converts_begin {statement : Statement} {own : Option Duration} {k : Option Duration → Op α}
    (hk : ∀ limit, Converts config (Wanting config own) (k limit)) :
    Converts config (Wanting config own) (beginning statement own k) := by
  refine ((converts_connect false).mono .inl).bind fun _ => converts_modify_bind (fun _ => rfl) ?_
  exact converts_get_bind fun c hc => (converts_limit hc own).bind hk

theorem converts_prepare (statement : Statement) (own : Option Duration) :
    Converts config (Wanting config own) (prepare statement own) := by
  refine converts_begin fun limit => (converts_call _ _ _).bind fun x => ?_
  cases x with
  | ok handle => exact converts_pure _
  | error cause => exact converts_failWith carries_prepare cause

theorem converts_query (text : String) (own : Option Duration) :
    Converts config (Wanting config own) (query text own) :=
  converts_begin fun _ => (converts_call _ _ _).bind fun x => (converts_conclude x).bind fun _ => converts_pure _

/-- a statement fails so only if the seconds for connects have no span, or those for statements that have no limit of
their own -/
theorem converts_task (task : Task) (own : Option Duration) : Converts config (Wanting config own) (task.op own) := by
  have hrun : ∀ (limit : Option Duration) (call : Call Reply),
      Converts config (Wanting config own) (do conclude (← Op.call limit statementLate call)) := fun _ _ =>
    (converts_call _ _ _).bind converts_conclude
  cases task with
  | prepare s => exact converts_prepare s own
  | execute s =>
    refine converts_get_bind fun c hc => (converts_limit hc own).bind fun limit => ?_
    exact (converts_prepare s own).bind fun p => hrun _ _
  | executePrepared p => exact converts_begin fun limit => hrun _ _
  | query text => exact converts_query text own

/-- the count of rows has no limit of its own -/
theorem converts_count : Converts config (Overlong config.executeSeconds) fetchTotalCount := by
  refine converts_get_bind fun c hc => ?_
  rw [hc]
  refine (converts_ofExcept fun e he => (Config.span_eq_error_iff.1 he).2).bind fun limit => ?_
  refine (converts_call _ _ _).bind fun x => ?_
  cases x with
  | error cause => exact converts_failWith carries_execute cause
  | ok reply => exact converts_modify fun _ => rfl

/-! ## Revalidation -/

theorem converts_leave : Converts config (Overlong config.connectSeconds) leave := by
  refine converts_get_bind fun c _ => ?_
  split
  · refine (converts_connect false).bind fun _ => converts_get_bind fun c _ => ?_
    exact converts_modify_bind (fun _ => rfl) (converts_pure _)
  · exact converts_get_bind fun c _ => converts_modify_bind (fun _ => rfl) (converts_pure _)

theorem converts_rollback : Converts config (Wanting config none) rollback := by
  refine (converts_leave.mono .inl).bind fun depth => ?_
  split
  · exact (converts_query _ none).discard
  · split
    · refine (converts_shared _).bind fun savepoints => ?_
      split
      · exact (converts_query _ none).discard
      · exact converts_pure ()
    · exact converts_pure ()

/-- making a connection ready fails so only if the seconds for connects or those for statements have no span -/
theorem converts_beforeUse : Converts config (Wanting config none) beforeUse := by
  have hback : Converts config (Wanting config none) (do
      if 0 < (← get).depth then
        modify fun c => { c with depth := 1 }
        rollback) := by
    refine converts_get_bind fun c _ => ?_
    split
    · exact converts_modify_bind (fun _ => rfl) converts_rollback
    · exact converts_pure ()
  refine converts_modify_bind (fun _ => rfl) (converts_get_bind fun c _ => ?_)
  dsimp only
  split
  · refine ((converts_connect true).mono .inl).bind fun _ => converts_modify_bind (fun _ => rfl) hback
  · exact hback

/-! ## Failures -/

theorem limit_overlong {c : Connection} (h : Overlong c.config.executeSeconds) :
    c.limit none = .error .secondsOverflow :=
  Connection.limit_eq_error_iff.2 ⟨rfl, rfl, h⟩

theorem assures_begin_overlong {c : Connection} {statement : Statement} {k : Option Duration → Op α}
    (h : Overlong c.config.executeSeconds) :
    (beginning statement none k).Assures c fun r _ => ∀ x, r ≠ .ok x := by
  refine assures_bind.2 ((converts_connect false c rfl).mono fun r c₁ hq => ?_)
  cases r with
  | error e => exact nofun
  | ok _ =>
    refine assures_modify_bind.2 (assures_get_bind.2 (assures_bind.2 (assures_ofExcept.2 ?_)))
    have hlimit : (c₁.beginStatement statement).limit none = .error .secondsOverflow := limit_overlong (hq.1 ▸ h)
    rw [hlimit]
    exact nofun

/-- no statement without a limit of its own succeeds while the seconds for statements have no span -/
theorem assures_task_overlong {c : Connection} (task : Task) (h : Overlong c.config.executeSeconds) :
    (task.op none).Assures c fun r _ => ∀ x, r ≠ .ok x := by
  cases task with
  | prepare s => exact assures_begin_overlong h
  | execute s =>
    refine assures_get_bind.2 (assures_bind.2 (assures_ofExcept.2 ?_))
    rw [limit_overlong h]
    exact nofun
  | executePrepared p => exact assures_begin_overlong h
  | query text => exact assures_begin_overlong h

theorem assures_count_overlong {c : Connection} (h : Overlong c.config.executeSeconds) :
    fetchTotalCount.Assures c fun r _ => r = .error .secondsOverflow := by
  have hlimit : c.config.executeLimit = .error .secondsOverflow := Config.span_eq_error_iff.2 ⟨rfl, h⟩
  refine assures_get_bind.2 (assures_bind.2 (assures_ofExcept.2 ?_))
  rw [hlimit]

/-! ## Failures of revalidation -/

theorem connect_live {c : Connection} (hsure : c.needsReconnect = false) (hlive : c.client.connected = true) :
    connect false c = .done (.ok (), c) := by
  obtain ⟨client⟩ := c
  cases client
  cases hsure
  cases hlive
  rfl

theorem leave_live {c : Connection} (hdepth : c.depth = 1) (hsure : c.needsReconnect = false)
    (hlive : c.client.connected = true) : leave c = .done (.ok 1, c.shallower) := by
  obtain ⟨client⟩ := c
  cases client
  cases hdepth
  cases hsure
  cases hlive
  rfl

/-- in a session that is there only the limit of the statement is converted -/
theorem assures_query_live {c : Connection} (text : String) (own : Option Duration) (hsure : c.needsReconnect = false)
    (hlive : c.client.connected = true) :
    (query text own).Assures c fun r _ =>
      r = .error .secondsOverflow → own = none ∧ Overlong c.config.executeSeconds := by
  have hrest : Converts c.config (own = none ∧ Overlong c.config.executeSeconds) (do
      modify fun c => c.beginStatement (.ofText text)
      let limit ← ofExcept ((← get).limit own)
      let reply ← conclude (← Op.call limit statementLate (Call.query text limit))
      pure reply.rows) := by
    refine converts_modify_bind (fun _ => rfl) (converts_get_bind fun c' hc => ?_)
    refine (converts_ofExcept fun _ he => hc ▸ (Connection.limit_eq_error_iff.1 he).2).bind fun limit => ?_
    exact (converts_call _ _ _).bind fun x => (converts_conclude x).bind fun _ => converts_pure _
  have hconnect : (connect false).Assures c fun r c₁ => r = .ok () ∧ c₁ = c := by
    rw [Assures, connect_live hsure hlive]
    exact .done _ ⟨rfl, rfl⟩
  refine assures_bind.2 (hconnect.mono ?_)
  rintro _ _ ⟨rfl, rfl⟩
  exact (hrest _ rfl).mono fun _ _ hq => hq.2

theorem assures_rollback_live {c : Connection} (hdepth : c.depth = 1) (hsure : c.needsReconnect = false)
    (hlive : c.client.connected = true) :
    rollback.Assures c fun r _ => r = .error .secondsOverflow → Overlong c.config.executeSeconds := by
  have hleave : leave.Assures c fun r c₁ => r = .ok 1 ∧ c₁ = c.shallower := by
    rw [Assures, leave_live hdepth hsure hlive]
    exact .done _ ⟨rfl, rfl⟩
  refine assures_bind.2 (hleave.mono ?_)
  rintro _ _ ⟨rfl, rfl⟩
  have hquery := assures_query_live (c := c.shallower) "ROLLBACK" none hsure hlive
  refine assures_bind.2 (hquery.mono fun r c₁ hq => ?_)
  cases r with
  | error e => exact fun hover => (hq (congrArg Except.error (Except.error.inj hover))).2
  | ok _ =>
    refine assures_pure.2 fun hover => ?_
    cases hover

theorem secures_connect_overlong {c : Connection} {force : Bool} {R : Unit → Connection → Prop}
    (h : Overlong c.config.connectSeconds)
    (hneeded : force = true ∨ c.needsReconnect = true ∨ c.client.connected = false) : (connect force).Secures c R :=
  (assures_connect_overlong h hneeded).mono fun _ _ hr _ hx => nomatch hr.symm.trans hx

theorem Assures.of_eq {op op' : Op α} {c c₁ : Connection} {Q : Except Error α → Connection → Prop}
    (h : op c = op' c₁) (ha : op'.Assures c₁ Q) : op.Assures c Q := by
  rw [Assures, h]
  exact ha

/-- behind a new session nothing is undone -/
theorem beforeUse_doubtful {c : Connection} (h : c.needsReconnect = true) :
    beforeUse c = (connect true >>= fun _ => modify fun c => { c with depth := 0 }) c.clearDraft := by
  cases c
  cases h
  rfl

theorem beforeUse_open {c : Connection} (hsure : c.needsReconnect = false) (hopen : 0 < c.depth) :
    beforeUse c = rollback { c.clearDraft with depth := 1 } := by
  obtain ⟨depth, hdepth⟩ := Nat.exists_eq_succ_of_ne_zero hopen.ne'
  cases c
  cases hsure
  cases hdepth
  rfl

theorem beforeUse_settled {c : Connection} (hsure : c.needsReconnect = false) (hdepth : c.depth = 0) :
    beforeUse c = .done (.ok (), c.clearDraft) := by
  cases c
  cases hsure
  cases hdepth
  rfl

/-- making a connection ready fails so only if it is strained -/
theorem strained_of_beforeUse (c : Connection) :
    beforeUse.Assures c fun r _ => r = .error .secondsOverflow → c.Strained := by
  cases hsure : c.needsReconnect with
  | true =>
    refine .of_eq (beforeUse_doubtful hsure) (assures_bind.2 ?_)
    refine (converts_connect true c.clearDraft rfl).mono fun r c₁ hq => ?_
    cases r with
    | error e => exact fun hover => .doubtful hsure (hq.2 (congrArg Except.error (Except.error.inj hover)))
    | ok _ =>
      refine assures_modify.2 fun hover => ?_
      cases hover
  | false =>
    rcases Nat.eq_zero_or_pos c.depth with hdepth | hopen
    · rw [Assures, beforeUse_settled hsure hdepth]
      refine .done _ fun hover => ?_
      cases hover
    let counted : Connection := { c.clearDraft with depth := 1 }
    have hundo : beforeUse c = rollback counted := beforeUse_open hsure hopen
    refine .of_eq hundo ?_
    cases hlive : c.client.connected with
    | true =>
      have hundone := assures_rollback_live (c := counted) rfl hsure hlive
      exact hundone.mono fun _ _ hq hover => .undoing hsure hopen (hq hover)
    | false =>
      refine (converts_rollback counted rfl).mono fun _ _ hq hover => ?_
      obtain hlong | ⟨-, hlong⟩ := hq.2 hover
      · exact .closed hsure hopen hlive hlong
      · exact .undoing hsure hopen hlong

/-- a strained connection is never ready -/
theorem secures_beforeUse_strained {c : Connection} (h : c.Strained) : beforeUse.Secures c fun _ _ => False := by
  cases h with
  | doubtful doubt overlong =>
    refine Assures.of_eq (beforeUse_doubtful doubt) ?_
    exact secures_bind (secures_connect_overlong (c := c.clearDraft) overlong (.inl rfl))
  | closed sure open_ closed overlong =>
    refine Assures.of_eq (beforeUse_open sure open_) (secures_bind (secures_get_bind (secures_bind ?_)))
    exact secures_connect_overlong (c := { c.clearDraft with depth := 1 }) overlong (.inr (.inr closed))
  | undoing sure open_ overlong =>
    let counted : Connection := { c.clearDraft with depth := 1 }
    have hleft : leave.Assures counted fun r c₁ => (∀ d, r = .ok d → d = 1) ∧ c₁.config = c.config :=
      ((secures_leave (c := counted) Nat.one_pos).and (converts_leave counted rfl)).mono fun r c₁ hq =>
        ⟨fun d hd => (hq.1 d hd).1, hq.2.1⟩
    refine Assures.of_eq (beforeUse_open sure open_) (secures_bind (hleft.mono fun r c₁ hq d hd => ?_))
    obtain rfl := hq.1 d hd
    have hquery := assures_task_overlong (c := c₁) (.query "ROLLBACK") (hq.2.symm ▸ overlong)
    exact secures_bind (hquery.mono fun r _ hr x hx => absurd hx (hr x))

/-! ## Failures at once -/

/-- the operation fails for want of a span before it waits for anything -/
def Stops (op : Op α) (c : Connection) : Prop :=
  ∀ w, ∃ c' w', (op c).proceed w = (.inl (.error .secondsOverflow, c'), w')

theorem Stops.bind {op : Op α} {f : α → Op β} {c : Connection} (h : op.Stops c) : (op >>= f).Stops c := by
  intro w
  obtain ⟨c', w', h⟩ := h w
  exact ⟨c', w', Timed.proceed_bind h⟩

theorem stops_bind {op : Op α} {f : α → Op β} {c c₁ : Connection} {x : α} (h : op c = .done (.ok x, c₁))
    (hf : (f x).Stops c₁) : (op >>= f).Stops c := by
  intro w
  obtain ⟨c', w', hf⟩ := hf w
  have hop : (op c).proceed w = (.inl (.ok x, c₁), w) := by rw [h]; rfl
  exact ⟨c', w', (Timed.proceed_bind hop).trans hf⟩

theorem proceed_disconnect (c : Connection) (w : World) :
    ∃ c₁ w₁, (disconnect c).proceed w = (.inl (.ok (), c₁), w₁) ∧ c₁.config = c.config := by
  obtain ⟨client⟩ := c
  obtain ⟨id, openings, connected⟩ := client
  cases connected with
  | true => exact ⟨_, _, rfl, rfl⟩
  | false => exact ⟨_, _, rfl, rfl⟩

theorem stops_openSession {c : Connection} (lost : Nat) (h : Overlong c.config.connectSeconds) :
    (openSession lost).Stops c := by
  have hlimit : c.config.connectLimit = .error .secondsOverflow := Config.span_eq_error_iff.2 ⟨rfl, h⟩
  refine stops_bind rfl (Stops.bind ?_)
  rw [hlimit]
  exact fun w => ⟨c, w, rfl⟩

theorem stops_connect {c : Connection} {force : Bool} (h : Overlong c.config.connectSeconds)
    (hneeded : force = true ∨ c.needsReconnect = true ∨ c.client.connected = false) : (connect force).Stops c := by
  have hclosed : ∀ {k : Unit → Op Unit}, (∀ c₁ : Connection, c₁.config = c.config → (k ()).Stops c₁) →
      (disconnect >>= k).Stops c := by
    intro k hk w
    obtain ⟨c₁, w₁, hd, hc₁⟩ := proceed_disconnect c w
    obtain ⟨c', w', hb⟩ := hk c₁ hc₁ w₁
    exact ⟨c', w', (Timed.proceed_bind hd).trans hb⟩
  refine stops_bind (x := c) rfl ?_
  split_ifs with hforce hlost hopen
  · exact hclosed fun c₁ hc₁ => stops_bind (x := ()) rfl (stops_openSession 0 (hc₁.symm ▸ h))
  · exact hclosed fun c₁ hc₁ => stops_openSession c.depth (hc₁.symm ▸ h)
  · exact stops_openSession 0 h
  · simp [hforce, hlost] at hneeded
    simp [hneeded] at hopen

theorem stops_query_live {c : Connection} (text : String) (h : Overlong c.config.executeSeconds)
    (hsure : c.needsReconnect = false) (hlive : c.client.connected = true) : (query text none).Stops c := by
  have hlimit : (c.beginStatement (.ofText text)).limit none = .error .secondsOverflow := limit_overlong h
  refine stops_bind (connect_live hsure hlive) (stops_bind (x := ()) rfl (stops_bind rfl (Stops.bind ?_)))
  rw [hlimit]
  exact fun w => ⟨_, w, rfl⟩

/-- a strained connection fails at once, unless a session has to be opened and can be before the statement fails -/
theorem stops_beforeUse {c : Connection} (h : c.Strained)
    (hat : c.needsReconnect = true ∨ c.client.connected = true ∨ Overlong c.config.connectSeconds) :
    beforeUse.Stops c := by
  have hclosed : c.needsReconnect = false → 0 < c.depth → c.client.connected = false →
      Overlong c.config.connectSeconds → beforeUse.Stops c := by
    intro hsure hopen hclosed hlong
    rw [Stops, beforeUse_open hsure hopen]
    refine Stops.bind (stops_bind rfl (Stops.bind ?_))
    exact stops_connect (c := { c.clearDraft with depth := 1 }) hlong (.inr (.inr hclosed))
  cases h with
  | doubtful doubt overlong =>
    rw [Stops, beforeUse_doubtful doubt]
    exact Stops.bind (stops_connect (c := c.clearDraft) overlong (.inl rfl))
  | closed sure open_ closed overlong => exact hclosed sure open_ closed overlong
  | undoing sure open_ overlong =>
    cases hlive : c.client.connected with
    | true =>
      let counted : Connection := { c.clearDraft with depth := 1 }
      rw [Stops, beforeUse_open sure open_]
      refine stops_bind (leave_live (c := counted) rfl sure hlive) (Stops.bind ?_)
      exact stops_query_live (c := counted.shallower) "ROLLBACK" overlong sure hlive
    | false =>
      obtain hdoubt | hlive' | hlong := hat
      · exact absurd (sure.symm.trans hdoubt) (by decide)
      · exact absurd (hlive.symm.trans hlive') (by decide)
      · exact hclosed sure open_ hlive hlong

end

end Op

end SqlSession
