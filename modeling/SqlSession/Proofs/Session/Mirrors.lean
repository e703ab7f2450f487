/-
Two connections side by side.

`Mirrored` relates two connections that differ in nothing a holder can find out by statements: not in settings, clauses
or transactions, but perhaps in their log, in what the last statement left there, and in which numbers and sessions
their clients have come to. `Mirrors` is what an operation on one and an operation on the other have in common: begun
with such connections in facing worlds they go alike, give related results and leave such connections.
- `mirrors_connect`: sessions that are made sure of, also where only one side needs one;
- `mirrors_prepare`, `mirrors_execute`, `mirrors_executePrepared`, `mirrors_query`: statements;
- `mirrors_start`, `mirrors_commit`, `mirrors_rollback`, `mirrors_beforeUse`: transactions.

What the last statement left counts once the holder has run a statement (`Connection.tally`); until then it is not
looked at, since nobody is in a transaction.
-/
import SqlSession.Proofs.Session.Pairs
import SqlSession.Session.Operation

namespace SqlSession

/-- what the last statement left -/
def Connection.tally (c : Connection) : Statement × Nat × Nat := (c.last, c.affected, c.totalCount)

/-- two connections that a holder cannot tell apart; with some slack, only behind its first statement or deeper in
transactions than that do their counts agree -/
structure Mirrored (g : Stage) (slack : Option Nat) (c c' : Connection) : Prop where
  client : c.client.Mirrors g c'.client
  config : c.config = g.config
  config' : c'.config = g.config
  registry : c.registry = c'.registry
  draft : c.draft = c'.draft
  retries : c.retries = c'.retries ∨ g.free
  needsReconnect : c.needsReconnect = c'.needsReconnect
  depth : c.depth = c'.depth
  fieldCase : c.fieldCase = c'.fieldCase
  lockMethod : c.lockMethod = c'.lockMethod
  tally : (∃ depth, slack = some depth ∧ c.depth ≤ depth) ∨ c.tally = c'.tally

/-- ... and both have a session or both have none -/
structure Even (g : Stage) (slack : Option Nat) (c c' : Connection) : Prop extends Mirrored g slack c c' where
  even : c.client.connected = c'.client.connected

/-- how two operations end: with related results, or with the same error, which leaves related connections unless it is
an abort -/
inductive Settled {α α' : Type} (E K : Connection → Connection → Prop) (R : α → α' → Prop) :
    Except Error α × Connection → Except Error α' × Connection → Prop
  | ok {x : α} {x' : α'} {c c' : Connection} (result : R x x') (kept : K c c') : Settled E K R (.ok x, c) (.ok x', c')
  | error {e : Error} {c c' : Connection} (kept : e.isAbort = false → E c c') :
      Settled E K R (.error e, c) (.error e, c')

namespace Op

/-- begun with connections related by `P`, the two operations go alike; they leave connections related by `K`, or by
`E` if they fail -/
def Mirrors {α α' : Type} (g : Stage) (P E K : Connection → Connection → Prop) (R : α → α' → Prop) (op : Op α)
    (op' : Op α') : Prop :=
  ∀ c c', P c c' → Timed.Alike (Facing g) (Settled E K R) (op c) (op' c')

section

variable {g : Stage} {α α' β β' : Type} {P P' E E' K K' : Connection → Connection → Prop} {R : α → α' → Prop}
  {R' : β → β' → Prop}

/-! ## Ways of putting operations together -/

theorem Mirrors.mono {op : Op α} {op' : Op α'} (h : Mirrors g P E K R op op') (hP : ∀ c c', P' c c' → P c c')
    (hE : ∀ c c', E c c' → E' c c') (hK : ∀ c c', K c c' → K' c c') : Mirrors g P' E' K' R op op' := by
  intro c c' hc
  refine (h c c' (hP c c' hc)).mono fun r r' hr => ?_
  cases hr with
  | ok result kept => exact .ok result (hK _ _ kept)
  | error kept => exact .error fun hgoes => hE _ _ (kept hgoes)

theorem Mirrors.imp {R₁ : α → α' → Prop} {op : Op α} {op' : Op α'} (h : Mirrors g P E K R op op')
    (hR : ∀ x x', R x x' → R₁ x x') : Mirrors g P E K R₁ op op' := by
  intro c c' hc
  refine (h c c' hc).mono fun r r' hr => ?_
  cases hr with
  | ok result kept => exact .ok (hR _ _ result) kept
  | error kept => exact .error kept

theorem mirrors_pure {x : α} {x' : α'} (hR : R x x') (hK : ∀ c c', P c c' → K c c') :
    Mirrors g P E K R (pure x) (pure x') :=
  fun c c' hc => .done (.ok hR (hK c c' hc))

theorem mirrors_throw (e : Error) (hE : ∀ c c', P c c' → E c c') :
    Mirrors g P E K R (throw e : Op α) (throw e : Op α') :=
  fun c c' hc => .done (.error fun _ => hE c c' hc)

/-- the first operations go alike with these connections, and those behind them with any that they may leave -/
theorem alike_bind {op : Op α} {op' : Op α'} {f : α → Op β} {f' : α' → Op β'} {c c' : Connection}
    (h : Timed.Alike (Facing g) (Settled E K R) (op c) (op' c'))
    (hf : ∀ x x', R x x' → Mirrors g K E K' R' (f x) (f' x')) :
    Timed.Alike (Facing g) (Settled E K' R') ((op >>= f) c) ((op' >>= f') c') := by
  refine Timed.Alike.bind h fun r r' hr => ?_
  cases hr with
  | ok result kept => exact hf _ _ result _ _ kept
  | error kept => exact .done (.error kept)

theorem mirrors_bind {op : Op α} {op' : Op α'} {f : α → Op β} {f' : α' → Op β'} (h : Mirrors g P E K R op op')
    (hf : ∀ x x', R x x' → Mirrors g K E K' R' (f x) (f' x')) : Mirrors g P E K' R' (op >>= f) (op' >>= f') :=
  fun c c' hc => alike_bind (h c c' hc) hf

theorem mirrors_get_bind {f : Connection → Op β} {f' : Connection → Op β'}
    (hf : ∀ d d', P d d' → Mirrors g P E K R' (f d) (f' d')) : Mirrors g P E K R' (get >>= f) (get >>= f') :=
  fun c c' hc => hf c c' hc c c' hc

/-- ... with the connections at hand that are read -/
theorem mirrors_read_bind {f : Connection → Op β} {f' : Connection → Op β'}
    (hf : ∀ d d', P d d' → Mirrors g (fun c c' => c = d ∧ c' = d') E K R' (f d) (f' d')) :
    Mirrors g P E K R' (get >>= f) (get >>= f') :=
  fun c c' hc => hf c c' hc c c' ⟨rfl, rfl⟩

theorem mirrors_modify {f f' : Connection → Connection} (hf : ∀ c c', P c c' → K (f c) (f' c')) :
    Mirrors g P E K (· = ·) (modify f : Op Unit) (modify f' : Op Unit) :=
  fun c c' hc => .done (.ok rfl (hf c c' hc))

theorem mirrors_modify_bind {f f' : Connection → Connection} {k : Unit → Op β} {k' : Unit → Op β'}
    (hf : ∀ c c', P c c' → K (f c) (f' c')) (hk : Mirrors g K E K' R' (k ()) (k' ())) :
    Mirrors g P E K' R' (modify f >>= k) (modify f' >>= k') :=
  mirrors_bind (mirrors_modify hf) fun _ _ _ => hk

theorem mirrors_ofExcept_bind {x : Except Error α} {f : α → Op β} {f' : α → Op β'} (hE : ∀ c c', P c c' → E c c')
    (hf : ∀ y, x = .ok y → Mirrors g P E K R' (f y) (f' y)) :
    Mirrors g P E K R' (ofExcept x >>= f) (ofExcept x >>= f') := by
  cases x with
  | ok y => exact hf y rfl
  | error e => exact mirrors_throw e hE

theorem mirrors_attempt_bind {op : Op α} {op' : Op α'} {f : Except Error α → Op β} {f' : Except Error α' → Op β'}
    (h : Mirrors g P E' K R op op') (herror : ∀ e, Mirrors g E' E K' R' (f (.error e)) (f' (.error e)))
    (hok : ∀ x x', R x x' → Mirrors g K E K' R' (f (.ok x)) (f' (.ok x'))) :
    Mirrors g P E K' R' (attempt op >>= f) (attempt op' >>= f') := by
  intro c c' hc
  rw [attempt_bind_apply, attempt_bind_apply]
  refine Timed.Alike.bind (h c c' hc) fun r r' hr => ?_
  cases hr with
  | ok result kept => exact hok _ _ result _ _ kept
  | @error e c c' kept =>
    cases he : e.isAbort with
    | true =>
      -- both are aborted, and nothing goes on
      simp only [caught_error he]
      exact .done (.error fun hgoes => by cases he.symm.trans hgoes)
    | false =>
      simp only [caught_of_not (x := .error e) he]
      exact herror e _ _ (kept he)

/-- related values, or the same error -/
inductive Both {ε α α' : Type} (R : α → α' → Prop) : Except ε α → Except ε α' → Prop
  | ok {x : α} {x' : α'} (related : R x x') : Both R (.ok x) (.ok x')
  | error (e : ε) : Both R (.error e) (.error e)

theorem mirrors_attempt {op : Op α} {op' : Op α'} (h : Mirrors g P E' E' R op op') :
    Mirrors g P E E' (Both R) (attempt op) (attempt op') := by
  intro c c' hc
  refine Timed.Alike.bind (h c c' hc) fun r r' hr => ?_
  cases hr with
  | ok result kept => exact .done (.ok (.ok result) kept)
  | @error e c c' kept =>
    cases he : e.isAbort with
    | true =>
      simp only [caught_error he]
      exact .done (.error fun hgoes => by cases he.symm.trans hgoes)
    | false =>
      simp only [caught_of_not (x := .error e) he]
      exact .done (.ok (.error e) (kept he))

theorem mirrors_discard {op : Op α} {op' : Op α'} (h : Mirrors g P E K R op op') :
    Mirrors g P E K (· = ·) (discard op) (discard op') :=
  mirrors_bind h fun _ _ _ => mirrors_pure rfl fun _ _ hc => hc

theorem mirrors_shared {t : Timed World α} {t' : Timed World α'} (h : Timed.Alike (Facing g) R t t') :
    Mirrors g P E P R (shared t) (shared t') :=
  fun _ _ hc => h.bind fun _ _ hx => .done (.ok hx hc)

theorem mirrors_look {f : World → α} {f' : World → α'} (hf : ∀ w w', Facing g w w' → R (f w) (f' w')) :
    Mirrors g P E P R (shared (.look f)) (shared (.look f')) :=
  mirrors_shared (.act (fun _ _ hw => hw) fun w w' hw => .done (hf w w' hw))

theorem mirrors_change {f f' : World → World} (hf : ∀ w w', Facing g w w' → Facing g (f w) (f' w')) :
    Mirrors g P E P (· = ·) (shared (.change f)) (shared (.change f')) :=
  mirrors_shared (.act hf fun _ _ _ => .done rfl)

/-- calls of the two clients go alike, and what they leave of the clients fits the connections -/
theorem mirrors_call {limit : Option Duration} {late : Duration → NativeError} {call : Call α} {call' : Call α'}
    {R : Except NativeError α → Except NativeError α' → Prop}
    (h : ∀ c c', P c c' → Timed.Alike (Facing g)
      (fun p p' => R p.1 p'.1 ∧ K { c with client := p.2 } { c' with client := p'.2 })
      ((call c.client).within limit fun d => (.error (late d), c.client))
      ((call' c'.client).within limit fun d => (.error (late d), c'.client))) :
    Mirrors g P E K R (Op.call limit late call) (Op.call limit late call') :=
  fun c c' hc => (h c c' hc).bind fun _ _ hp => .done (.ok hp.1 hp.2)

end

/-! ## Sessions -/

end Op

section

variable {g : Stage} {slack : Option Nat} {c c' : Connection}

theorem Mirrored.slacken (h : Mirrored g none c c') : Mirrored g slack c c' := by
  refine { h with tally := h.tally.imp ?_ id }
  rintro ⟨depth, heq, -⟩
  cases heq

theorem Even.slacken (h : Even g none c c') : Even g slack c c' := { h.toMirrored.slacken with even := h.even }

/-- the clients change, and nothing else does -/
theorem Mirrored.withClients {client client' : Client} (h : Mirrored g slack c c')
    (hclients : client.Mirrors g client') : Mirrored g slack { c with client } { c' with client := client' } :=
  { h with client := hclients }

theorem Even.withClients {client client' : Client} (h : Even g slack c c') (hclients : client.Mirrors g client')
    (heven : client.connected = client'.connected) : Even g slack { c with client } { c' with client := client' } :=
  { h.toMirrored.withClients hclients with even := heven }

theorem Mirrored.all (h : Mirrored g none c c') : c.tally = c'.tally := by
  refine h.tally.resolve_left ?_
  rintro ⟨depth, heq, -⟩
  cases heq

/-- the connection in a session, behind an opening that nothing was in the way of -/
def Connection.inSession (c : Connection) : Connection :=
  if c.client.connected then c else { c with client := c.client.opened }.recordOpened

/-- where only one side needs a session, both have one behind it -/
theorem even_inSession (h : Mirrored g slack c c') (hsure : c.needsReconnect = false)
    (huneven : c.client.connected ≠ c'.client.connected) : Even g slack c.inSession c'.inSession := by
  obtain ⟨hfree, -⟩ := h.client.uneven huneven
  have hsure' : c'.needsReconnect = false := h.needsReconnect.symm.trans hsure
  unfold Connection.inSession
  cases hc : c.client.connected with
  | true =>
    have hc' : c'.client.connected = false := by
      rw [hc] at huneven
      exact Bool.eq_false_iff.2 huneven.symm
    rw [if_pos rfl, hc', if_neg Bool.false_ne_true]
    exact { h with
      client := (h.client.flip.opened_left hc).flip
      retries := .inr hfree
      needsReconnect := hsure
      even := hc }
  | false =>
    have hc' : c'.client.connected = true := by
      rw [hc] at huneven
      exact Bool.eq_true_of_not_eq_false huneven.symm
    rw [if_neg Bool.false_ne_true, hc', if_pos rfl]
    exact { h with
      client := h.client.opened_left hc'
      retries := .inr hfree
      needsReconnect := hsure'.symm
      even := hc'.symm }

end

namespace Op

section

variable {g : Stage} {slack : Option Nat} {E : Connection → Connection → Prop} {c : Connection}

/-- a session that is closed is not seen from the other side -/
theorem leads_disconnect (hid : c.client.id = g.left.client) :
    (disconnect c).Leads (Facing g) (· = (.ok (), { c with client := c.client.shut })) := by
  show Timed.Leads _ _ ((if c.client.connected then _ else _ : Op Unit) c)
  unfold Client.shut
  split
  · exact .act (fun _ _ hw => facing_note_left hw hid rfl) fun _ _ _ => .done rfl
  · exact .done rfl

theorem mirrors_disconnect : Mirrors g (Mirrored g slack) E (Even g slack) (· = ·) disconnect disconnect := by
  intro c c' hc
  refine alike_of_both (leads_disconnect hc.client.left) (leads_disconnect hc.client.flip.left) ?_
  rintro _ _ rfl rfl
  exact .ok rfl ⟨hc.withClients hc.client.shut, (connected_shut _).trans (connected_shut _).symm⟩

theorem mirrors_tryOpen (limit : Option Duration) (spare : Nat) :
    Mirrors g (Even g slack) E (Even g slack) (· = ·) (tryOpen limit spare) (tryOpen limit spare) := by
  have hopening : Mirrors g (Even g slack) E (Even g slack) (· = ·) (call limit connectLate Call.openSession)
      (call limit connectLate Call.openSession) := by
    refine mirrors_call fun c c' hc => (alike_opening hc.client limit).mono fun p p' hp => ?_
    cases hp with
    | refused cause => exact ⟨rfl, hc⟩
    | opened => exact ⟨rfl, hc.withClients hc.client.opened rfl⟩
  induction spare with
  | zero => exact hopening
  | succ spare ih =>
    refine mirrors_bind hopening ?_
    rintro x _ rfl
    cases x with
    | ok _ => exact mirrors_pure rfl fun _ _ hc => hc
    | error cause =>
      exact mirrors_modify_bind (fun c c' hc => { hc with retries := hc.retries.imp (congrArg (· + 1)) id }) ih

theorem leads_tryOpen (hid : c.client.id = g.left.client) (hfree : g.free) {limit : Option Duration}
    (hlimit : g.config.connectLimit = .ok limit) (spare : Nat) :
    (tryOpen limit spare c).Leads (Facing g) (· = (.ok (.ok ()), { c with client := c.client.opened })) := by
  have hcall : (call limit connectLate Call.openSession c).Leads (Facing g)
      (· = (.ok (.ok ()), { c with client := c.client.opened })) := by
    refine (leads_opening hid hfree hlimit).bind ?_
    rintro _ rfl
    exact .done rfl
  cases spare with
  | zero => exact hcall
  | succ spare =>
    refine hcall.bind ?_
    rintro _ rfl
    exact .done rfl

theorem mirrors_openSession (lost : Nat) :
    Mirrors g (Even g slack) (Mirrored g slack) (Even g slack) (· = ·) (openSession lost) (openSession lost) := by
  refine mirrors_get_bind fun d d' hd => ?_
  rw [hd.config, hd.config']
  refine mirrors_ofExcept_bind (fun _ _ hc => hc.toMirrored) fun limit hlimit => ?_
  have htried : Mirrors g (Even g slack) (Mirrored g slack) (Even g slack) (· = ·)
      (tryOpen limit (g.config.maxRetries - d.retries)) (tryOpen limit (g.config.maxRetries - d'.retries)) := by
    rcases hd.retries with heq | hfree
    · rw [heq]
      exact mirrors_tryOpen limit _
    · -- the budgets differ, but neither side needs more than one try
      intro c c' hc
      refine alike_of_both (leads_tryOpen hc.client.left hfree hlimit _)
        (leads_tryOpen hc.client.flip.left hfree hlimit _) ?_
      rintro _ _ rfl rfl
      exact .ok rfl (hc.withClients hc.client.opened rfl)
  refine mirrors_bind htried ?_
  rintro x _ rfl
  cases x with
  | error cause =>
    refine mirrors_modify_bind (K := Mirrored g slack) (fun c c' hc => { hc.toMirrored with }) ?_
    exact mirrors_throw _ fun _ _ hc => hc
  | ok _ =>
    refine mirrors_modify_bind (K := Even g slack)
      (fun c c' hc => { hc with retries := .inl rfl, needsReconnect := rfl }) ?_
    split
    · refine mirrors_modify_bind (K := Mirrored g slack) (fun c c' hc => ?_) (mirrors_throw _ fun _ _ hc => hc)
      refine { hc.toMirrored with depth := rfl, tally := ?_ }
      exact hc.tally.imp (fun ⟨depth, heq, _⟩ => ⟨depth, heq, Nat.zero_le depth⟩) id
    · exact mirrors_pure rfl fun _ _ hc => hc

/-- making sure of a session: of another one if it is not relied on, and of one if there is none -/
theorem connect_eq (c : Connection) :
    connect false c =
      if c.needsReconnect then (disconnect >>= fun _ => openSession c.depth) c
      else if c.client.connected then .done (.ok (), c) else openSession 0 c := by
  have hread : connect false c =
      (if c.needsReconnect then disconnect >>= fun _ => openSession c.depth
        else if !c.client.connected then openSession 0 else pure () : Op Unit) c := rfl
  rw [hread]
  cases c.needsReconnect with
  | true => rfl
  | false => cases c.client.connected <;> rfl

/-- making sure of a session of a connection that is relied on, where everybody is let in in time -/
theorem leads_connect (hid : c.client.id = g.left.client) (hconfig : c.config = g.config) (hfree : g.free)
    {limit : Option Duration} (hlimit : g.config.connectLimit = .ok limit) (hsure : c.needsReconnect = false) :
    (connect false c).Leads (Facing g) (· = (.ok (), c.inSession)) := by
  have hlimited : c.config.connectLimit = .ok limit := hconfig ▸ hlimit
  rw [connect_eq, hsure, if_neg Bool.false_ne_true, Connection.inSession]
  split
  · exact .done rfl
  · show Timed.Leads _ _ ((ofExcept c.config.connectLimit >>= fun limit =>
      tryOpen limit (c.config.maxRetries - c.retries) >>= _ : Op Unit) c)
    rw [hlimited]
    refine (leads_tryOpen hid hfree hlimit _).bind ?_
    rintro _ rfl
    exact .done rfl

/-- **Sessions.** Both sides make sure of a session, or both fail to, and behind that both have one. -/
theorem mirrors_connect (force : Bool) :
    Mirrors g (Mirrored g slack) (Mirrored g slack) (Even g slack) (· = ·) (connect force) (connect force) := by
  cases force with
  | true =>
    refine mirrors_get_bind fun _ _ _ => mirrors_bind mirrors_disconnect fun _ _ _ => ?_
    refine mirrors_modify_bind (K := Even g slack) (fun c c' hc => { hc with retries := .inl rfl }) ?_
    exact mirrors_openSession 0
  | false =>
    intro c c' hc
    by_cases hsure : c.needsReconnect = true
    · rw [connect_eq, connect_eq, ← hc.needsReconnect, if_pos hsure, if_pos hsure, ← hc.depth]
      exact mirrors_bind mirrors_disconnect (fun _ _ _ => mirrors_openSession c.depth) c c' hc
    have hsure : c.needsReconnect = false := Bool.eq_false_iff.2 hsure
    have hsure' : c'.needsReconnect = false := hc.needsReconnect.symm.trans hsure
    by_cases heven : c.client.connected = c'.client.connected
    · rw [connect_eq, connect_eq, hsure, hsure', if_neg Bool.false_ne_true, if_neg Bool.false_ne_true, ← heven]
      split
      · exact .done (.ok rfl { hc with even := heven })
      · exact mirrors_openSession 0 c c' { hc with even := heven }
    · obtain ⟨hfree, -⟩ := hc.client.uneven heven
      obtain ⟨limit, hlimit⟩ := g.limited hfree
      refine alike_of_both (leads_connect hc.client.left hc.config hfree hlimit hsure)
        (leads_connect hc.client.flip.left hc.config' hfree hlimit hsure') ?_
      rintro _ _ rfl rfl
      exact .ok rfl (even_inSession hc hsure heven)

/-! ## Statements -/

variable {α α' : Type} {K : Connection → Connection → Prop} {R : α → α' → Prop}

theorem Mirrors.of_even {op : Op α} {op' : Op α'} (h : Mirrors g (Mirrored g slack) E K R op op') :
    Mirrors g (Even g slack) E K R op op' :=
  h.mono (fun _ _ hc => hc.toMirrored) (fun _ _ hc => hc) fun _ _ hc => hc

theorem limit_eq {c c' : Connection} (h : Mirrored g slack c c') (own : Option Duration) :
    c.limit own = c'.limit own := by
  unfold Connection.limit
  rw [h.config, h.config']

/-- what both make of the beginning of a statement -/
theorem mirrors_begin {statement : Statement} {own : Option Duration} {k : Option Duration → Op α}
    {k' : Option Duration → Op α'}
    (hk : ∀ limit, Mirrors g (Even g none) (Mirrored g slack) K R (k limit) (k' limit)) :
    Mirrors g (Mirrored g slack) (Mirrored g slack) K R (beginning statement own k) (beginning statement own k') := by
  refine mirrors_bind (mirrors_connect false) fun _ _ _ => ?_
  refine mirrors_modify_bind (K := Even g none) (fun c c' hc => { hc with tally := .inr rfl }) ?_
  refine mirrors_get_bind fun d d' hd => ?_
  rw [limit_eq hd.toMirrored]
  exact mirrors_ofExcept_bind (fun _ _ hc => hc.toMirrored.slacken) fun limit _ => hk limit

theorem mirrors_notify (heard : Heard) :
    Mirrors g (Mirrored g none) E (Mirrored g none) (· = ·) (notify heard) (notify heard) := by
  refine mirrors_get_bind fun d d' hd => ?_
  rw [hd.registry]
  exact mirrors_change fun _ _ hw => facing_tell hw

theorem lastQuery_eq {c c' : Connection} (h : Mirrored g none c c') : c.lastQuery = c'.lastQuery :=
  congrArg (fun tally => tally.1.filled) h.all

/-- both record a failure and fail -/
theorem mirrors_failWith (kind : NativeError → String → Error) (cause : NativeError) :
    Mirrors g (Mirrored g none) (Mirrored g slack) K R (failWith kind cause) (failWith kind cause) := by
  refine mirrors_get_bind fun d d' hd => ?_
  rw [lastQuery_eq hd]
  refine mirrors_modify_bind (K := Mirrored g none) (fun c c' hc => ?_) ?_
  · have hsure : (c.recordFailure cause).needsReconnect = (c'.recordFailure cause).needsReconnect := by
      rw [Connection.recordFailure, Connection.recordFailure, hc.needsReconnect]
    exact { hc with needsReconnect := hsure }
  · refine mirrors_bind (mirrors_notify _) fun _ _ _ => ?_
    split <;> exact mirrors_throw _ fun _ _ hc => hc.slacken

/-- both record how a statement ended -/
theorem mirrors_conclude (outcome : Except NativeError Reply) :
    Mirrors g (Mirrored g none) (Mirrored g slack) (Mirrored g none) (· = ·) (conclude outcome) (conclude outcome) := by
  cases outcome with
  | error cause => exact mirrors_failWith _ cause
  | ok reply =>
    refine mirrors_modify_bind (K := Mirrored g none) (fun c c' hc => ?_) (mirrors_get_bind fun d d' hd => ?_)
    · have hlast : c.last = c'.last := congrArg Prod.fst hc.all
      have htotal : c.totalCount = c'.totalCount := congrArg (fun tally => tally.2.2) hc.all
      exact { hc with tally := .inr (by rw [Connection.tally, Connection.tally]; simp [Connection.recordSuccess, *]) }
    · rw [lastQuery_eq hd]
      exact mirrors_bind (mirrors_notify _) fun _ _ _ => mirrors_pure rfl fun _ _ hc => hc

theorem mirrors_preparing (text : String) (limit : Option Duration) :
    Mirrors g (Even g none) E (Even g none) (Both g.Paired) (call limit statementLate (Call.prepare text limit))
      (call limit statementLate (Call.prepare text limit)) := by
  refine mirrors_call fun c c' hc => (alike_preparing hc.client text limit).mono fun p p' hp => ?_
  cases hp with
  | failed cause => exact ⟨.error cause, hc⟩
  | prepared => exact ⟨.ok hc.client.next, hc.withClients (hc.client.withPrepared hc.even text) hc.even⟩

theorem even_answers {c c' : Connection} (hc : Even g slack c c') {p p' : Except NativeError Reply × Client}
    (hp : Answers c.client c'.client p p') :
    p.1 = p'.1 ∧ Even g slack { c with client := p.2 } { c' with client := p'.2 } := by
  cases hp with
  | unanswered cause => exact ⟨rfl, hc⟩
  | answered reply => exact ⟨rfl, hc⟩
  | failed cause =>
    have heven : (c.client.told cause).connected = (c'.client.told cause).connected := by
      unfold Client.told
      split
      · rfl
      · exact hc.even
    dsimp only
    exact ⟨rfl, hc.withClients (hc.client.told cause) heven⟩

theorem mirrors_executing {handle handle' : Nat} (hp : g.Paired handle handle') (binds : List Datum)
    (limit : Option Duration) :
    Mirrors g (Even g none) E (Even g none) (· = ·) (call limit statementLate (Call.execute handle binds limit))
      (call limit statementLate (Call.execute handle' binds limit)) :=
  mirrors_call fun _ _ hc => (alike_executing hc.client hp binds limit).mono fun _ _ hp => even_answers hc hp

theorem mirrors_querying (text : String) (limit : Option Duration) :
    Mirrors g (Even g slack) E (Even g slack) (· = ·) (call limit statementLate (Call.query text limit))
      (call limit statementLate (Call.query text limit)) :=
  mirrors_call fun _ _ hc => (alike_querying hc.client text limit).mono fun _ _ hp => even_answers hc hp

/-- **Preparing.** The numbers of the statement differ by where the holders began. -/
theorem mirrors_prepare (statement : Statement) (own : Option Duration) :
    Mirrors g (Mirrored g slack) (Mirrored g slack) (Even g none) (Prepared.Mirrors g) (prepare statement own)
      (prepare statement own) := by
  refine mirrors_begin fun limit => mirrors_bind (mirrors_preparing statement.text limit) fun x x' hx => ?_
  cases hx with
  | ok hp => exact mirrors_pure ⟨rfl, hp⟩ fun _ _ hc => hc
  | error cause => exact (mirrors_failWith _ cause).of_even

theorem mirrors_execute (statement : Statement) (own : Option Duration) :
    Mirrors g (Mirrored g slack) (Mirrored g slack) (Mirrored g none) (· = ·) (execute statement own)
      (execute statement own) := by
  refine mirrors_get_bind fun d d' hd => ?_
  rw [limit_eq hd]
  refine mirrors_ofExcept_bind (fun _ _ hc => hc) fun limit _ => ?_
  refine mirrors_bind (mirrors_prepare statement own) fun p p' hp => ?_
  refine mirrors_bind (mirrors_executing hp.handle statement.binds limit) ?_
  rintro outcome _ rfl
  exact (mirrors_conclude outcome).of_even

theorem mirrors_executePrepared {p p' : Prepared} (hp : p.Mirrors g p') (own : Option Duration) :
    Mirrors g (Mirrored g slack) (Mirrored g slack) (Mirrored g none) (· = ·) (executePrepared p own)
      (executePrepared p' own) := by
  unfold executePrepared
  rw [hp.statement]
  refine mirrors_begin fun limit => mirrors_bind (mirrors_executing hp.handle _ limit) ?_
  rintro outcome _ rfl
  exact (mirrors_conclude outcome).of_even

theorem mirrors_query (text : String) (own : Option Duration) :
    Mirrors g (Mirrored g slack) (Mirrored g slack) (Mirrored g none) (· = ·) (query text own) (query text own) := by
  refine mirrors_begin fun limit => mirrors_bind (mirrors_querying text limit) ?_
  rintro outcome _ rfl
  refine (mirrors_bind (mirrors_conclude outcome) ?_).of_even
  rintro reply _ rfl
  exact mirrors_pure rfl fun _ _ hc => hc

theorem mirrors_escape (text : String) :
    Mirrors g (Mirrored g slack) (Mirrored g slack) (Mirrored g slack) (· = ·) (escape text) (escape text) :=
  mirrors_bind (mirrors_connect false) fun _ _ _ => mirrors_pure rfl fun _ _ hc => hc.toMirrored

theorem mirrors_fetch (statement : Statement) :
    Mirrors g (Mirrored g slack) (Mirrored g slack) (Mirrored g none) (· = ·) (fetch statement) (fetch statement) := by
  refine mirrors_bind (mirrors_execute statement none) ?_
  rintro reply _ rfl
  exact mirrors_pure rfl fun _ _ hc => hc

/-- the plan goes into the log, which may differ -/
theorem mirrors_explain (statement : Statement) :
    Mirrors g (Mirrored g slack) (Mirrored g slack) (Mirrored g none) (· = ·) (explain statement)
      (explain statement) := by
  refine mirrors_bind (mirrors_fetch _) ?_
  rintro plan _ rfl
  refine mirrors_modify_bind (K := Mirrored g none) (fun c c' hc => { hc with }) ?_
  exact mirrors_pure rfl fun _ _ hc => hc

theorem mirrors_fetchTotalCount :
    Mirrors g (Mirrored g none) (Mirrored g slack) (Mirrored g none) (· = ·) fetchTotalCount fetchTotalCount := by
  refine mirrors_get_bind fun d d' hd => ?_
  rw [hd.config, hd.config']
  refine mirrors_ofExcept_bind (fun _ _ hc => hc.slacken) fun limit _ => ?_
  have hasked : Mirrors g (Mirrored g none) (Mirrored g slack) (Mirrored g none) (· = ·)
      (call limit statementLate (Call.query foundRowsText limit))
      (call limit statementLate (Call.query foundRowsText limit)) := by
    refine mirrors_call fun c c' hc => (alike_querying hc.client foundRowsText limit).mono fun p p' hp => ?_
    cases hp with
    | unanswered cause => exact ⟨rfl, hc⟩
    | answered reply => exact ⟨rfl, hc⟩
    | failed cause =>
      dsimp only
      exact ⟨rfl, hc.withClients (hc.client.told cause)⟩
  refine mirrors_bind hasked ?_
  rintro outcome _ rfl
  cases outcome with
  | error cause => exact mirrors_failWith _ cause
  | ok reply =>
    refine mirrors_modify fun c c' hc => { hc with tally := .inr ?_ }
    have hlast : c.last = c'.last := congrArg Prod.fst hc.all
    have haffected : c.affected = c'.affected := congrArg (fun tally => tally.2.1) hc.all
    simp [Connection.tally, hlast, haffected]

/-! ## Transactions -/

/-- the slack of a holder who is in a transaction only behind a statement of its own -/
def due (counted : Bool) : Option Nat := if counted then none else some 0

theorem mirrors_hasSavepoints {P : Connection → Connection → Prop} :
    Mirrors g P E P (· = ·) hasSavepoints hasSavepoints :=
  mirrors_look fun _ _ hw => Server.eq_of_outlook Server.savepoints hw.server fun _ => rfl

theorem mirrors_send (text : String) :
    Mirrors g (Mirrored g slack) (Mirrored g slack) (Mirrored g slack) (· = ·) (discard (query text none))
      (discard (query text none)) :=
  mirrors_discard ((mirrors_query text none).mono (fun _ _ hc => hc) (fun _ _ hc => hc) fun _ _ hc => hc.slacken)

/-- a mark is set or gone back to on both sides, or counted only -/
theorem mirrors_marking (text : String) :
    Mirrors g (Mirrored g slack) (Mirrored g slack) (Mirrored g slack) (· = ·) (marking text) (marking text) := by
  refine mirrors_bind mirrors_hasSavepoints ?_
  rintro savepoints _ rfl
  cases savepoints with
  | true => exact mirrors_send text
  | false => exact mirrors_pure rfl fun _ _ hc => hc

theorem mirrors_opening {slack' : Option Nat} {statement : Op Unit}
    (h : Mirrors g (Mirrored g slack) (Mirrored g slack) (Mirrored g none) (· = ·) statement statement)
    (hback : ∀ c c', Mirrored g slack c c' →
      Mirrored g slack' { c with depth := c.depth - 1 } { c' with depth := c'.depth - 1 }) :
    Mirrors g (Mirrored g slack) (Mirrored g slack') (Mirrored g none) (· = ·) (opening statement)
      (opening statement) := by
  refine mirrors_attempt_bind h (fun e => ?_) fun _ _ _ => mirrors_pure rfl fun _ _ hc => hc
  exact mirrors_modify_bind (K := Mirrored g slack') hback (mirrors_throw e fun _ _ hc => hc)

/-- **Opening a transaction.** Behind it the counts agree: the outermost one has sent a statement. -/
theorem mirrors_start (counted : Bool) :
    Mirrors g (Mirrored g (due counted)) (Mirrored g (due counted)) (Mirrored g none) (· = ·) start start := by
  refine mirrors_bind (mirrors_connect false) fun _ _ _ => mirrors_read_bind fun d d' hd => ?_
  rw [← hd.depth]
  rcases hd.tally with ⟨depth, hdue, hdepth⟩ | htally
  · -- nothing has been sent yet, and BEGIN is
    obtain rfl : depth = 0 := by
      cases counted with
      | true => cases hdue
      | false => exact (Option.some.inj hdue).symm
    obtain hzero : d.depth = 0 := Nat.le_zero.1 hdepth
    rw [hzero]
    refine mirrors_modify_bind (K := Mirrored g (some 1)) ?_ ?_
    · rintro c c' ⟨rfl, rfl⟩
      exact { hd.toMirrored with depth := rfl, tally := .inl ⟨1, rfl, Nat.le_refl 1⟩ }
    · refine mirrors_opening (mirrors_discard (mirrors_query "BEGIN" none)) fun c c' hc => ?_
      refine { hc with depth := congrArg (· - 1) hc.depth, tally := hc.tally.imp ?_ id }
      rintro ⟨one, hone, hle⟩
      obtain rfl := Option.some.inj hone
      exact ⟨0, hdue, Nat.sub_le_sub_right hle 1⟩
  · refine mirrors_modify_bind (K := Mirrored g none) ?_ ?_
    · rintro c c' ⟨rfl, rfl⟩
      exact { hd.toMirrored with depth := rfl, tally := .inr htally }
    · have hopens : Mirrors g (Mirrored g none) (Mirrored g none) (Mirrored g none) (· = ·)
          (startStatement (d.depth + 1)) (startStatement (d.depth + 1)) := by
        unfold startStatement
        split
        · exact mirrors_send "BEGIN"
        · exact mirrors_marking _
      refine mirrors_opening hopens fun c c' hc => ?_
      exact { hc with depth := congrArg (· - 1) hc.depth, tally := .inr hc.all }

/-- both leave the innermost transaction -/
theorem mirrors_leave :
    Mirrors g (Mirrored g slack) (Mirrored g slack) (Mirrored g slack) (· = ·) leave leave := by
  have hcounted : Mirrors g (Mirrored g slack) (Mirrored g slack) (Mirrored g slack) (· = ·) countingOff
      countingOff := by
    refine mirrors_read_bind fun d d' hd => ?_
    rw [← hd.depth]
    refine mirrors_modify_bind (K := Mirrored g slack) ?_ (mirrors_pure rfl fun _ _ hc => hc)
    rintro c c' ⟨rfl, rfl⟩
    refine { hd with depth := rfl, tally := hd.tally.imp ?_ id }
    rintro ⟨depth, hslack, hle⟩
    exact ⟨depth, hslack, (Nat.sub_le _ 1).trans hle⟩
  refine mirrors_get_bind fun d d' hd => ?_
  rw [← hd.depth]
  dsimp only
  split
  · refine mirrors_bind (mirrors_connect false) fun _ _ _ => ?_
    exact hcounted.of_even
  · exact hcounted

theorem mirrors_commit :
    Mirrors g (Mirrored g slack) (Mirrored g slack) (Mirrored g slack) (· = ·) commit commit := by
  refine mirrors_bind mirrors_leave ?_
  rintro depth _ rfl
  split
  · exact mirrors_send "COMMIT"
  · exact mirrors_pure rfl fun _ _ hc => hc

theorem mirrors_rollback :
    Mirrors g (Mirrored g slack) (Mirrored g slack) (Mirrored g slack) (· = ·) rollback rollback := by
  refine mirrors_bind mirrors_leave ?_
  rintro depth _ rfl
  split
  · exact mirrors_send "ROLLBACK"
  split
  · exact mirrors_marking _
  · exact mirrors_pure rfl fun _ _ hc => hc

/-- both end a transaction whose work ended in the same way -/
theorem mirrors_settle (x : Except Error α) :
    Mirrors g (Mirrored g slack) (Mirrored g slack) (Mirrored g slack) (· = ·) (settle x) (settle x) := by
  cases x with
  | ok x => exact mirrors_bind mirrors_commit fun _ _ _ => mirrors_pure rfl fun _ _ hc => hc
  | error e =>
    exact mirrors_bind (mirrors_discard (mirrors_attempt mirrors_rollback)) fun _ _ _ =>
      mirrors_throw e fun _ _ hc => hc

theorem both_eq {x x' : Except Error α} (h : Both (· = ·) x x') : x = x' := by
  cases h with
  | ok heq => exact congrArg Except.ok heq
  | error e => rfl

theorem mirrors_transaction (counted : Bool) {work : Op α}
    (h : Mirrors g (Mirrored g none) (Mirrored g none) (Mirrored g none) (· = ·) work work) :
    Mirrors g (Mirrored g (due counted)) (Mirrored g (due counted)) (Mirrored g none) (· = ·) (transaction work)
      (transaction work) := by
  have hworked : Mirrors g (Mirrored g none) (Mirrored g none) (Mirrored g none) (· = ·) (attempt work >>= settle)
      (attempt work >>= settle) := by
    refine mirrors_bind (mirrors_attempt h) fun x x' hx => ?_
    rw [both_eq hx]
    exact mirrors_settle x'
  refine mirrors_bind (mirrors_start counted) fun _ _ _ => ?_
  exact hworked.mono (fun _ _ hc => hc) (fun _ _ hc => hc.slacken) fun _ _ hc => hc

theorem mirrors_executeAll (statements : List Statement) :
    Mirrors g (Mirrored g none) (Mirrored g none) (Mirrored g none) (· = ·) (executeAll statements)
      (executeAll statements) := by
  induction statements with
  | nil => exact mirrors_pure rfl fun _ _ hc => hc
  | cons statement rest ih =>
    refine mirrors_bind (mirrors_execute statement none) ?_
    rintro reply _ rfl
    refine mirrors_bind ih ?_
    rintro affected _ rfl
    exact mirrors_pure rfl fun _ _ hc => hc

theorem mirrors_batch (counted : Bool) (statements : List Statement) :
    Mirrors g (Mirrored g (due counted)) (Mirrored g (due counted)) (Mirrored g (due counted)) (· = ·)
      (batch statements) (batch statements) := by
  unfold batch
  split
  · exact mirrors_pure rfl fun _ _ hc => hc
  · exact (mirrors_transaction counted (mirrors_executeAll statements)).mono (fun _ _ hc => hc) (fun _ _ hc => hc)
      fun _ _ hc => hc.slacken

/-- both make a connection ready -/
theorem mirrors_beforeUse (counted : Bool) :
    Mirrors g (Mirrored g (due counted)) (Mirrored g (due counted)) (Mirrored g (due counted)) (· = ·) beforeUse
      beforeUse := by
  have hundone : Mirrors g (Mirrored g (due counted)) (Mirrored g (due counted)) (Mirrored g (due counted)) (· = ·)
      undoing undoing := by
    refine mirrors_read_bind fun d d' hd => ?_
    rw [← hd.depth]
    split
    · next hopen =>
      have htally : d.tally = d'.tally := by
        refine hd.tally.resolve_left ?_
        rintro ⟨depth, hdue, hdepth⟩
        cases counted with
        | true => cases hdue
        | false =>
          obtain rfl := Option.some.inj hdue
          omega
      refine mirrors_modify_bind (K := Mirrored g (due counted)) ?_ mirrors_rollback
      rintro c c' ⟨rfl, rfl⟩
      exact { hd with depth := rfl, tally := .inr htally }
    · refine mirrors_pure rfl ?_
      rintro c c' ⟨rfl, rfl⟩
      exact hd
  refine mirrors_modify_bind (K := Mirrored g (due counted))
    (fun c c' hc => { hc with draft := congrArg Query.Draft.reset hc.draft }) ?_
  refine mirrors_get_bind fun d d' hd => ?_
  rw [← hd.needsReconnect]
  split
  · refine mirrors_bind (mirrors_connect true) fun _ _ _ => ?_
    refine mirrors_modify_bind (K := Mirrored g (due counted)) (fun c c' hc => ?_) hundone
    refine { hc.toMirrored with depth := rfl, tally := hc.tally.imp ?_ id }
    rintro ⟨depth, hdue, -⟩
    exact ⟨depth, hdue, Nat.zero_le depth⟩
  · exact hundone

/-! ## Locks -/

theorem mirrors_lock (tables : List String) :
    Mirrors g (Mirrored g slack) (Mirrored g slack) (Mirrored g slack) (· = ·) (lock tables) (lock tables) := by
  refine mirrors_get_bind fun d d' hd => ?_
  rw [hd.config, hd.config', hd.lockMethod]
  split
  · exact mirrors_throw _ fun _ _ hc => hc
  · exact mirrors_send _

theorem mirrors_unlock :
    Mirrors g (Mirrored g slack) (Mirrored g slack) (Mirrored g slack) (· = ·) unlock unlock :=
  mirrors_send "UNLOCK TABLES"

end

end Op

end SqlSession
