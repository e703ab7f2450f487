/-
How often a session is tried to be opened.

A connection counts the tries that failed since the last success, and never beyond its settings. The count outlives the
call that it was made in, so what a call may still try depends on what came before.
- `Trying`, `ends_trying`: tries up to the first that succeeds, or as many as there are left;
- `Connecting`, `connecting_of_ends`: all that a connect can do within a limit, with its count;
- `Unopened`, `unopened_of_ends`: what it does if no span holds the seconds for connects: it tries nothing;
- `Upholds`, `rules_upholds`: what every connect leaves true of settings and count, every operation does;
- `connect_keeps_budget`: so the count stays within the settings, and every connect that has a limit, or none, makes as
  many tries as are left.
-/
import SqlSession.Config.Reader
import SqlSession.Proofs.Decimal.Spans
import SqlSession.Proofs.Session.Keeping
import SqlSession.Proofs.Session.Rules

namespace SqlSession

/-! ## Tries -/

section

variable (others : World → World → Prop) (limit : Option Duration) (client : Client)

/-- tries that failed, one after the other, and their causes -/
inductive FailedTries : World → List NativeError → World → Prop
  | none (w : World) : FailedTries w [] w
  | first (cause : NativeError) (causes : List NativeError) (w w₁ w' : World)
      (tried : Opening others limit client w (.error cause) client w₁) (rest : FailedTries w₁ causes w') :
      FailedTries w (cause :: causes) w'

/-- tries up to the first that succeeds, and at most `spare` of them again. The causes are those of the tries before the
last one -/
inductive Trying (spare : Nat) (w : World) (causes : List NativeError) :
    Except NativeError Unit → Client → World → Prop
  | opened (w₁ w' : World) (few : causes.length ≤ spare) (failed : FailedTries others limit client w causes w₁)
      (last : Opening others limit client w₁ (.ok ()) client.opened w') :
      Trying spare w causes (.ok ()) client.opened w'
  | exhausted (cause : NativeError) (w₁ w' : World) (all : causes.length = spare)
      (failed : FailedTries others limit client w causes w₁)
      (last : Opening others limit client w₁ (.error cause) client w') :
      Trying spare w causes (.error cause) client w'

end

section

variable {others : World → World → Prop} {limit : Option Duration} {client client' : Client} {w w₁ w' : World}

theorem client_opening {x : Except NativeError Unit} (h : Opening others limit client w x client' w') :
    (x = .ok () ∧ client' = client.opened) ∨ ∃ cause, x = .error cause ∧ client' = client := by
  cases h with
  | late d _ _ _ _ => exact .inr ⟨_, rfl, rfl⟩
  | refused n _ _ _ _ _ => exact .inr ⟨_, rfl, rfl⟩
  | opened _ _ _ _ => exact .inl ⟨rfl, rfl⟩

theorem Trying.client_of_ok {spare : Nat} {causes : List NativeError}
    (h : Trying others limit client spare w causes (.ok ()) client' w') : client' = client.opened := by
  cases h with
  | opened _ _ _ _ _ => rfl

theorem Trying.spent {spare : Nat} {causes : List NativeError} {cause : NativeError}
    (h : Trying others limit client spare w causes (.error cause) client' w') :
    client' = client ∧ causes.length = spare := by
  cases h with
  | exhausted _ _ _ all _ _ => exact ⟨rfl, all⟩

/-- one more failure in front -/
theorem Trying.behind {spare : Nat} {cause : NativeError} {causes : List NativeError} {x : Except NativeError Unit}
    (first : Opening others limit client w (.error cause) client w₁)
    (h : Trying others limit client spare w₁ causes x client' w') :
    Trying others limit client (spare + 1) w (cause :: causes) x client' w' := by
  cases h with
  | opened w₂ w' few failed last =>
    exact .opened w₂ w' (Nat.succ_le_succ few) (.first cause causes w w₁ w₂ first failed) last
  | exhausted cause' w₂ w' all failed last =>
    exact .exhausted cause' w₂ w' (congrArg Nat.succ all) (.first cause causes w w₁ w₂ first failed) last

end

namespace Op

variable {others : World → World → Prop} {c c' : Connection} {w w' : World}

/-- every failure is counted but the last one, behind which nothing is tried any more -/
theorem ends_trying {limit : Option Duration} {spare : Nat} {r : Except Error (Except NativeError Unit)}
    (h : Ends others (tryOpen limit spare) c w r c' w') :
    ∃ causes x client, r = .ok x ∧ Trying others limit c.client spare w causes x client w' ∧
      c' = { c with client, retries := c.retries + causes.length } := by
  induction spare generalizing c w with
  | zero =>
    rw [tryOpen] at h
    obtain ⟨x, client, rfl, rfl, hc⟩ := ends_call h
    have ho := ends_opening hc
    refine ⟨[], x, client, rfl, ?_, rfl⟩
    obtain ⟨rfl, rfl⟩ | ⟨cause, rfl, rfl⟩ := client_opening ho
    · exact .opened w w' (le_refl 0) (.none w) ho
    · exact .exhausted cause w w' rfl (.none w) ho
  | succ spare ih =>
    rw [tryOpen] at h
    obtain ⟨x, client, w₁, hc, h⟩ := ends_call_bind h
    have ho := ends_opening hc
    obtain ⟨rfl, rfl⟩ | ⟨cause, rfl, rfl⟩ := client_opening ho
    · obtain ⟨rfl, rfl, rfl⟩ := ends_pure.1 h
      exact ⟨[], _, _, rfl, .opened w w' (Nat.zero_le _) (.none w) ho, rfl⟩
    · rw [ends_modify_bind] at h
      obtain ⟨causes, x, client, rfl, htrying, rfl⟩ := ih h
      refine ⟨cause :: causes, x, client, rfl, htrying.behind ho, ?_⟩
      simp only [List.length_cons, Nat.add_assoc, Nat.add_comm 1]

end Op

/-! ## Connects -/

namespace Connection

/-- failed tries that count when a session is asked for; with `force` they are forgotten -/
def counted (c : Connection) (force : Bool) : Nat := if force then 0 else c.retries

/-- the depth at which a transaction is lost when a session is asked for; with `force` nothing is said of it -/
def losing (c : Connection) (force : Bool) : Nat := if !force && c.needsReconnect then c.depth else 0

theorem losing_of_pos {c : Connection} {force : Bool} (h : 0 < c.losing force) : c.losing force = c.depth := by
  unfold losing at h ⊢
  split at h
  · next hlost => rw [if_pos hlost]
  · exact absurd h (lt_irrefl 0)

/-- the count is within the settings -/
def Thrifty (c : Connection) : Prop := c.retries ≤ c.config.maxRetries

theorem Thrifty.counted {c : Connection} (h : c.Thrifty) (force : Bool) : c.counted force ≤ c.config.maxRetries := by
  unfold Connection.counted
  split
  · exact Nat.zero_le _
  · exact h

end Connection

/-- how the session of a client ends, if it has one -/
inductive Closing (others : World → World → Prop) (client : Client) (w : World) : World → Prop
  | idle (none : client.connected = false) : Closing others client w w
  | closed (w₁ : World) (live : client.connected = true) (shared : others w w₁) :
      Closing others client w (w₁.note (.closed client.session))

/-- how a session is made sure of where connects have this limit: the one that is relied on is left alone, unless
another one is forced; else what there is of one is closed, and another one is tried to be opened as often as the
settings and the count allow -/
inductive Connecting (others : World → World → Prop) (limit : Option Duration) (force : Bool) (c : Connection)
    (w : World) : Except Error Unit → Connection → World → Prop
  | live (unforced : force = false) (ready : c.Ready) : Connecting others limit force c w (.ok ()) c w
  | opened (causes : List NativeError) (w₁ w' : World) (needed : force = true ∨ ¬c.Ready)
      (closed : Closing others c.client w w₁)
      (trying : Trying others limit c.client.shut (c.config.maxRetries - c.counted force) w₁ causes (.ok ())
        c.client.shut.opened w')
      (none : c.losing force = 0) :
      Connecting others limit force c w (.ok ())
        { c with client := c.client.shut.opened, retries := 0, needsReconnect := false } w'
  | lost (causes : List NativeError) (w₁ w' : World) (needed : force = true ∨ ¬c.Ready)
      (closed : Closing others c.client w w₁)
      (trying : Trying others limit c.client.shut (c.config.maxRetries - c.counted force) w₁ causes (.ok ())
        c.client.shut.opened w')
      (some : 0 < c.losing force) :
      Connecting others limit force c w (.error (.transactionLost c.depth))
        { c with
          client := c.client.shut.opened, retries := 0, needsReconnect := false, depth := 0, lastErrno := 0
          lastError := (Error.transactionLost c.depth).message } w'
  | exhausted (causes : List NativeError) (cause : NativeError) (w₁ w' : World) (needed : force = true ∨ ¬c.Ready)
      (closed : Closing others c.client w w₁)
      (trying : Trying others limit c.client.shut (c.config.maxRetries - c.counted force) w₁ causes (.error cause)
        c.client.shut w') :
      Connecting others limit force c w (.error (.connect c.config.target cause))
        { c with
          client := c.client.shut, retries := c.config.maxRetries, lastErrno := cause.errno
          lastError := cause.message } w'

/-- how it goes where no span holds the seconds for connects: a session that is relied on is left alone, unless another
one is forced; else what there is of one is closed, and the program ends before anything is tried -/
inductive Unopened (others : World → World → Prop) (force : Bool) (c : Connection) (w : World) :
    Except Error Unit → Connection → World → Prop
  | live (unforced : force = false) (ready : c.Ready) : Unopened others force c w (.ok ()) c w
  | aborted (w' : World) (needed : force = true ∨ ¬c.Ready) (closed : Closing others c.client w w') :
      Unopened others force c w (.error .secondsOverflow)
        { c with client := c.client.shut, retries := c.counted force } w'

section

variable {others : World → World → Prop} {limit : Option Duration} {force : Bool} {c c' : Connection} {w w' : World}
  {r : Except Error Unit}

theorem Connecting.thrifty (h : Connecting others limit force c w r c' w') (hc : c.Thrifty) : c'.Thrifty := by
  cases h with
  | live _ _ => exact hc
  | opened _ _ _ _ _ _ _ => exact Nat.zero_le _
  | lost _ _ _ _ _ _ _ => exact Nat.zero_le _
  | exhausted _ _ _ _ _ _ _ => exact Nat.le_refl _

theorem Unopened.thrifty (h : Unopened others force c w r c' w') (hc : c.Thrifty) : c'.Thrifty := by
  cases h with
  | live _ _ => exact hc
  | aborted _ _ _ => exact hc.counted force

end

namespace Op

variable {others : World → World → Prop} {c c' : Connection} {w w' : World}

theorem ends_closing {r : Except Error Unit} (h : Ends others disconnect c w r c' w') :
    r = .ok () ∧ c' = { c with client := c.client.shut } ∧ Closing others c.client w w' := by
  rw [disconnect, ends_get_bind] at h
  unfold Client.shut
  dsimp only at h
  split at h
  · next hc =>
    obtain ⟨_, w₁, hm, h⟩ := ends_shared_bind.1 h
    obtain ⟨w₂, hs, hm⟩ := Timed.ends_act.1 hm
    obtain ⟨-, rfl⟩ := Timed.ends_done.1 hm
    obtain ⟨rfl, rfl, rfl⟩ := ends_modify.1 h
    exact ⟨rfl, by rw [if_pos hc], .closed w₂ hc hs⟩
  · next hc =>
    obtain ⟨rfl, rfl, rfl⟩ := ends_pure.1 h
    exact ⟨rfl, by rw [if_neg hc], .idle (eq_false_of_ne_true hc)⟩

/-- a session that is relied on is left alone, or the last one is closed and another one is opened -/
theorem connect_cases {force : Bool} {r : Except Error Unit} (h : Ends others (connect force) c w r c' w') :
    (force = false ∧ c.Ready ∧ r = .ok () ∧ c' = c ∧ w' = w) ∨
      ∃ w₁, (force = true ∨ ¬c.Ready) ∧ Closing others c.client w w₁ ∧
        Ends others (openSession (c.losing force))
          { c with client := c.client.shut, retries := c.counted force } w₁ r c' w' := by
  rw [connect, ends_get_bind] at h
  cases force with
  | true =>
    rw [if_pos rfl] at h
    rcases ends_bind.1 h with ⟨e, hd, -⟩ | ⟨_, c₁, w₁, hd, h⟩
    · cases (ends_closing hd).1
    obtain ⟨-, rfl, hclosed⟩ := ends_closing hd
    rw [ends_modify_bind] at h
    exact .inr ⟨w₁, .inl rfl, hclosed, h⟩
  | false =>
    rw [if_neg (by decide)] at h
    split_ifs at h with hdoubt hclosed
    · rcases ends_bind.1 h with ⟨e, hd, -⟩ | ⟨_, c₁, w₁, hd, h⟩
      · cases (ends_closing hd).1
      obtain ⟨-, rfl, hclosed⟩ := ends_closing hd
      have hlosing : c.losing false = c.depth := by simp [Connection.losing, hdoubt]
      refine .inr ⟨w₁, .inr fun hready => by simp [hready.sure] at hdoubt, hclosed, ?_⟩
      rw [hlosing]
      exact h
    · have hgone : c.client.connected = false := by simpa using hclosed
      have hshut : c.client.shut = c.client := by simp [Client.shut, hgone]
      have hlosing : c.losing false = 0 := by simp [Connection.losing, hdoubt]
      refine .inr ⟨w, .inr fun hready => by simp [hready.live] at hgone, .idle hgone, ?_⟩
      rw [hlosing, hshut]
      exact h
    · obtain ⟨rfl, rfl, rfl⟩ := ends_pure.1 h
      exact .inl ⟨rfl, ⟨by simpa using hdoubt, by simpa using hclosed⟩, rfl, rfl, rfl⟩

/-- **How a connect goes** within a limit -/
theorem connecting_of_ends {limit : Option Duration} {force : Bool} {r : Except Error Unit}
    (h : Ends others (connect force) c w r c' w') (hl : c.config.connectLimit = .ok limit) (hc : c.Thrifty) :
    Connecting others limit force c w r c' w' := by
  obtain ⟨hforce, hready, rfl, rfl, rfl⟩ | ⟨w₁, needed, closed, h⟩ := connect_cases h
  · exact .live hforce hready
  rw [openSession, ends_get_bind] at h
  obtain ⟨e, he, -⟩ | ⟨limit', hl', h⟩ := ends_ofExcept_bind.1 h
  · cases hl.symm.trans he
  obtain rfl : limit' = limit := Except.ok.inj (hl'.symm.trans hl)
  rcases ends_bind.1 h with ⟨e, ht, -⟩ | ⟨x, c₁, w₂, ht, h⟩
  · obtain ⟨_, _, _, heq, -⟩ := ends_trying ht
    cases heq
  obtain ⟨causes, x, client, heq, htrying, rfl⟩ := ends_trying ht
  cases heq
  cases x with
  | error cause =>
    rw [ends_modify_bind] at h
    obtain ⟨rfl, rfl, rfl⟩ := ends_throw.1 h
    obtain ⟨hclient, hall⟩ := htrying.spent
    obtain rfl : client = c.client.shut := hclient
    have hspent : c.counted force + causes.length = c.config.maxRetries := by
      have hcounted := hc.counted force
      have hleft : causes.length = c.config.maxRetries - c.counted force := hall
      omega
    show Connecting others _ force c w (.error (.connect c.config.target cause))
      { c with
        client := c.client.shut, retries := c.counted force + causes.length, lastErrno := cause.errno
        lastError := cause.message } w'
    rw [hspent]
    exact .exhausted causes cause w₁ w' needed closed htrying
  | ok _ =>
    obtain rfl : client = c.client.shut.opened := htrying.client_of_ok
    rw [ends_modify_bind] at h
    split at h
    · next hlost =>
      rw [ends_modify_bind] at h
      obtain ⟨rfl, rfl, rfl⟩ := ends_throw.1 h
      have hlosing := Connection.losing_of_pos hlost
      simp only [hlosing]
      exact .lost causes w₁ w' needed closed htrying hlost
    · next hkept =>
      obtain ⟨rfl, rfl, rfl⟩ := ends_pure.1 h
      exact .opened causes w₁ w' needed closed htrying (by omega)

theorem unopened_of_ends {e : Error} {force : Bool} {r : Except Error Unit}
    (h : Ends others (connect force) c w r c' w') (hl : c.config.connectLimit = .error e) :
    Unopened others force c w r c' w' := by
  obtain ⟨hforce, hready, rfl, rfl, rfl⟩ | ⟨w₁, needed, closed, h⟩ := connect_cases h
  · exact .live hforce hready
  rw [openSession, ends_get_bind] at h
  obtain ⟨e', he, rfl, rfl, rfl⟩ | ⟨limit, hl', -⟩ := ends_ofExcept_bind.1 h
  · obtain rfl : e' = .secondsOverflow := (Config.span_eq_error_iff.1 he).1
    exact .aborted w' needed closed
  · cases hl.symm.trans hl'

/-- no connect counts more failed tries than the settings allow -/
theorem thrifty_connect {force : Bool} {r : Except Error Unit} (h : Ends others (connect force) c w r c' w')
    (hc : c.Thrifty) : c'.Thrifty := by
  cases hl : c.config.connectLimit with
  | ok limit => exact (connecting_of_ends h hl hc).thrifty hc
  | error e => exact (unopened_of_ends h hl).thrifty hc

/-! ## What every operation upholds -/

/-- what holds of the connection before the operation holds of it behind it -/
def Upholds (P : Connection → Prop) {α : Type} (op : Op α) : Prop :=
  ∀ (others : World → World → Prop) (c : Connection) (w : World) (r : Except Error α) (c' : Connection) (w' : World),
    Ends others op c w r c' w' → P c → P c'

/-- nothing but the settings and the count of a connection decides whether this holds of it -/
def Counting (P : Connection → Prop) : Prop :=
  ∀ c c' : Connection, c'.config = c.config → c'.retries = c.retries → P c → P c'

section

variable {α β : Type} {P : Connection → Prop}

theorem upholds_pure (x : α) : Upholds P (pure x : Op α) := by
  intro others c w r c' w' h hc
  obtain ⟨-, rfl, -⟩ := ends_pure.1 h
  exact hc

theorem upholds_throw (e : Error) : Upholds P (throw e : Op α) := by
  intro others c w r c' w' h hc
  obtain ⟨-, rfl, -⟩ := ends_throw.1 h
  exact hc

theorem upholds_bind {op : Op α} {f : α → Op β} (h : Upholds P op) (hf : ∀ x, Upholds P (f x)) :
    Upholds P (op >>= f) := by
  intro others c w r c' w' hends hc
  rcases ends_bind.1 hends with ⟨e, hop, -⟩ | ⟨x, c₁, w₁, hop, hends⟩
  · exact h others c w _ c' w' hop hc
  · exact hf x others c₁ w₁ r c' w' hends (h others c w _ c₁ w₁ hop hc)

theorem upholds_get_bind {f : Connection → Op β} (hf : ∀ c, Upholds P (f c)) : Upholds P (get >>= f) :=
  fun others c w r c' w' h hc => hf c others c w r c' w' (ends_get_bind.1 h) hc

theorem upholds_attempt {op : Op α} (h : Upholds P op) : Upholds P (attempt op) := by
  intro others c w r c' w' hends hc
  obtain ⟨x, -, hends⟩ := ends_attempt.1 hends
  exact h others c w x c' w' hends hc

theorem upholds_ofExcept (x : Except Error α) : Upholds P (ofExcept x) := by
  cases x with
  | ok x => exact upholds_pure x
  | error e => exact upholds_throw e

theorem upholds_discard {op : Op α} (h : Upholds P op) : Upholds P (discard op) :=
  upholds_bind h fun _ => upholds_pure ()

theorem upholds_shared (t : Timed World α) : Upholds P (shared t) := by
  intro others c w r c' w' h hc
  obtain ⟨x, -, rfl, -⟩ := ends_shared.1 h
  exact hc

theorem upholds_notify (heard : Heard) : Upholds P (notify heard) := upholds_get_bind fun _ => upholds_shared _

section

variable (hP : Counting P)
include hP

theorem upholds_modify {f : Connection → Connection}
    (hf : ∀ c, (f c).config = c.config ∧ (f c).retries = c.retries) : Upholds P (modify f : Op Unit) := by
  intro others c w r c' w' h hc
  obtain ⟨-, rfl, -⟩ := ends_modify.1 h
  exact hP c _ (hf c).1 (hf c).2 hc

theorem upholds_call (limit : Option Duration) (late : Duration → NativeError) (call : Call α) :
    Upholds P (Op.call limit late call) := by
  intro others c w r c' w' h hc
  obtain ⟨x, client, -, rfl, -⟩ := ends_call h
  exact hP c _ rfl rfl hc

theorem upholds_disconnect : Upholds P disconnect := by
  intro others c w r c' w' h hc
  obtain ⟨-, rfl, -⟩ := ends_closing h
  exact hP c _ rfl rfl hc

theorem upholds_failWith (kind : NativeError → String → Error) (cause : NativeError) :
    Upholds P (failWith kind cause : Op α) := by
  refine upholds_get_bind fun c => upholds_bind (upholds_modify hP fun _ => ⟨rfl, rfl⟩) fun _ => ?_
  refine upholds_bind (upholds_notify _) fun _ => ?_
  split
  · exact upholds_throw _
  · exact upholds_throw _

theorem upholds_conclude (outcome : Except NativeError Reply) : Upholds P (conclude outcome) := by
  cases outcome with
  | error cause => exact upholds_failWith hP _ cause
  | ok reply =>
    refine upholds_bind (upholds_modify hP fun _ => ⟨rfl, rfl⟩) fun _ => upholds_get_bind fun _ => ?_
    exact upholds_bind (upholds_notify _) fun _ => upholds_pure reply

theorem upholds_countingOff : Upholds P countingOff :=
  upholds_get_bind fun _ => upholds_bind (upholds_modify hP fun _ => ⟨rfl, rfl⟩) fun _ => upholds_pure _

theorem upholds_fetchTotalCount : Upholds P fetchTotalCount := by
  refine upholds_get_bind fun c => upholds_bind (upholds_ofExcept _) fun limit => ?_
  refine upholds_bind (upholds_call hP _ _ _) fun x => ?_
  cases x with
  | error cause => exact upholds_failWith hP _ cause
  | ok reply => exact upholds_modify hP fun _ => ⟨rfl, rfl⟩

variable (hconnect : ∀ force, Upholds P (connect force))
include hconnect

/-- every statement begins like this -/
theorem upholds_begin {statement : Statement} {own : Option Duration} {k : Option Duration → Op β}
    (hk : ∀ limit, Upholds P (k limit)) : Upholds P (beginning statement own k) := by
  refine upholds_bind (hconnect false) fun _ => upholds_bind (upholds_modify hP fun _ => ⟨rfl, rfl⟩) fun _ => ?_
  exact upholds_get_bind fun c => upholds_bind (upholds_ofExcept _) hk

theorem upholds_prepare (statement : Statement) (own : Option Duration) : Upholds P (prepare statement own) := by
  refine upholds_begin hP hconnect fun limit => upholds_bind (upholds_call hP _ _ _) fun x => ?_
  cases x with
  | ok handle => exact upholds_pure _
  | error cause => exact upholds_failWith hP _ cause

theorem upholds_execute (statement : Statement) (own : Option Duration) : Upholds P (execute statement own) := by
  refine upholds_get_bind fun c => upholds_bind (upholds_ofExcept _) fun limit => ?_
  refine upholds_bind (upholds_prepare hP hconnect statement own) fun p => ?_
  exact upholds_bind (upholds_call hP _ _ _) (upholds_conclude hP)

theorem upholds_executePrepared (p : Prepared) (own : Option Duration) : Upholds P (executePrepared p own) :=
  upholds_begin hP hconnect fun _ => upholds_bind (upholds_call hP _ _ _) (upholds_conclude hP)

theorem upholds_query (text : String) (own : Option Duration) : Upholds P (query text own) := by
  refine upholds_begin hP hconnect fun _ => upholds_bind (upholds_call hP _ _ _) fun x => ?_
  exact upholds_bind (upholds_conclude hP x) fun _ => upholds_pure _

theorem upholds_marking (text : String) : Upholds P (marking text) := by
  refine upholds_bind (upholds_shared _) fun savepoints => ?_
  split
  · exact upholds_discard (upholds_query hP hconnect _ _)
  · exact upholds_pure ()

theorem upholds_start : Upholds P start := by
  have hstatement : ∀ depth, Upholds P (startStatement depth) := by
    intro depth
    unfold startStatement
    split
    · exact upholds_discard (upholds_query hP hconnect _ _)
    · exact upholds_marking hP hconnect _
  refine upholds_bind (hconnect false) fun _ => upholds_get_bind fun c => ?_
  refine upholds_bind (upholds_modify hP fun _ => ⟨rfl, rfl⟩) fun _ => ?_
  refine upholds_bind (upholds_attempt (hstatement _)) fun x => ?_
  cases x with
  | ok _ => exact upholds_pure ()
  | error e => exact upholds_bind (upholds_modify hP fun _ => ⟨rfl, rfl⟩) fun _ => upholds_throw e

theorem upholds_leave : Upholds P leave := by
  refine upholds_get_bind fun c => ?_
  split
  · exact upholds_bind (hconnect false) fun _ => upholds_countingOff hP
  · exact upholds_countingOff hP

theorem upholds_commit : Upholds P commit := by
  refine upholds_bind (upholds_leave hP hconnect) fun depth => ?_
  split
  · exact upholds_discard (upholds_query hP hconnect _ _)
  · exact upholds_pure ()

theorem upholds_rollback : Upholds P rollback := by
  refine upholds_bind (upholds_leave hP hconnect) fun depth => ?_
  split_ifs
  · exact upholds_discard (upholds_query hP hconnect _ _)
  · exact upholds_marking hP hconnect _
  · exact upholds_pure ()

theorem upholds_beforeUse : Upholds P beforeUse := by
  have hundoing : Upholds P undoing := by
    refine upholds_get_bind fun c => ?_
    split
    · exact upholds_bind (upholds_modify hP fun _ => ⟨rfl, rfl⟩) fun _ => upholds_rollback hP hconnect
    · exact upholds_pure ()
  refine upholds_bind (upholds_modify hP fun _ => ⟨rfl, rfl⟩) fun _ => upholds_get_bind fun c => ?_
  split
  · exact upholds_bind (hconnect true) fun _ => upholds_bind (upholds_modify hP fun _ => ⟨rfl, rfl⟩) fun _ => hundoing
  · exact hundoing

/-- **What connects uphold, every operation upholds**, if it is about settings and count alone. -/
theorem rules_upholds : Rules AnyText true fun _ op => Upholds P op where
  pure := upholds_pure
  throw := upholds_throw
  bind := upholds_bind
  get_bind := upholds_get_bind
  attempt := upholds_attempt
  look _ := upholds_shared _
  pause _ := upholds_shared _
  keep _ _ := upholds_shared _
  arrange _ _ := upholds_shared _
  drafted f := by
    intro others c w r c' w' h hc
    obtain ⟨heq, -⟩ := Timed.ends_done.1 h
    obtain ⟨-, rfl⟩ := Prod.mk.inj heq
    exact hP c _ rfl rfl hc
  fieldCase _ := upholds_modify hP fun _ => ⟨rfl, rfl⟩
  lockMethod _ := upholds_modify hP fun _ => ⟨rfl, rfl⟩
  explained _ := upholds_modify hP fun _ => ⟨rfl, rfl⟩
  clearedLog := upholds_modify hP fun _ => ⟨rfl, rfl⟩
  connect := hconnect false
  reconnect _ := hconnect true
  disconnect _ := upholds_disconnect hP
  beforeUse := upholds_beforeUse hP hconnect
  start := upholds_start hP hconnect
  commit := upholds_commit hP hconnect
  rollback := upholds_rollback hP hconnect
  prepare s own _ := upholds_prepare hP hconnect s own
  execute s own _ := upholds_execute hP hconnect s own
  executePrepared p own := upholds_executePrepared hP hconnect p own
  query text own _ := upholds_query hP hconnect text own
  counted s own f _ :=
    upholds_bind (upholds_execute hP hconnect s own) fun _ =>
      upholds_bind (upholds_fetchTotalCount hP) fun _ => upholds_pure _

end

end

end Op

/-! ## All uses -/

/-- whatever waits comes to an end, as long as others let it go on -/
theorem Timed.ends_exists {σ α : Type} {others : σ → σ → Prop} (serial : ∀ s, ∃ s', others s s') (t : Timed σ α)
    (s : σ) : ∃ x s', Timed.Ends others t s x s' := by
  induction t generalizing s with
  | done x => exact ⟨x, s, .done x s⟩
  | act change rest ih =>
    obtain ⟨s₂, hs⟩ := serial s
    obtain ⟨x, s', h⟩ := ih s₂ (change s₂)
    exact ⟨x, s', .act change rest s s₂ x s' hs h⟩
  | wait millis rest ih =>
    obtain ⟨x, s', h⟩ := ih s
    exact ⟨x, s', .wait millis rest s x s' h⟩

/-- **The count of failed tries.** Whatever has been done with a connection, its count is within its settings. From
there, if a span holds the seconds for connects, or there are none, a connect leaves a session alone that is relied on;
another one it tries to open until it is there or as many tries have failed as the settings and the count allow. A
session sets the count to zero, and the last failure to the number in the settings. If no span holds the seconds, a
connect that needs a session tries nothing, and the program ends. Either comes to an end as long as others let it go
on. -/
theorem connect_keeps_budget {others : World → World → Prop} {id : Nat} {config : Config} {registry : Query.Registry}
    {w₀ w : World} {α : Type} (work : Program (Use AnyText true) α) {x : Except Error α} {c : Connection}
    (reached : Op.Ends others (work.op Use.perform) (.new (.new id) config registry) w₀ x c w) :
    c.config = config ∧ c.retries ≤ config.maxRetries ∧
      ∀ force : Bool,
        (∀ limit, config.connectLimit = .ok limit →
          ∀ (r : Except Error Unit) (c' : Connection) (w' : World), Op.Ends others (Op.connect force) c w r c' w' →
            Connecting others limit force c w r c' w') ∧
        (∀ e, config.connectLimit = .error e →
          ∀ (r : Except Error Unit) (c' : Connection) (w' : World), Op.Ends others (Op.connect force) c w r c' w' →
            Unopened others force c w r c' w') ∧
        ((∀ w, ∃ w', others w w') → ∃ r c' w', Op.Ends others (Op.connect force) c w r c' w') := by
  have hsettings : c.settings = (Connection.new (.new id) config registry).settings :=
    (keeps_program (fun s => match s with | .operation step _ => Operation.keeps_perform step) work _).ends reached
  have hconfig : c.config = config := congrArg Prod.fst hsettings
  have hcounting : Op.Counting Connection.Thrifty := by
    intro c c' hconfig hretries hc
    rw [Connection.Thrifty, hconfig, hretries]
    exact hc
  have hconnect : ∀ force, Op.Upholds Connection.Thrifty (Op.connect force) :=
    fun force others c w r c' w' h hc => Op.thrifty_connect h hc
  have hthrifty : c.Thrifty :=
    (Op.rules_upholds hcounting hconnect).program (fun _ _ => trivial) work others _ w₀ x c w reached (Nat.zero_le _)
  subst hconfig
  refine ⟨rfl, hthrifty, fun force => ⟨fun limit hl r c' w' h => Op.connecting_of_ends h hl hthrifty,
    fun e he r c' w' h => Op.unopened_of_ends h he, fun serial => ?_⟩⟩
  obtain ⟨⟨r, c'⟩, w', h⟩ := Timed.ends_exists serial (Op.connect force c) w
  exact ⟨r, c', w', h⟩

/-- with `10 ^ 20` seconds for connects nothing is tried -/
example :
    ((Config.ofText "\x7b\"connect_timeout_secs\": 1e20\x7d").toOption.map fun config =>
      let run := (Op.connect false (.new (.new 0) config .empty)).run 0 .fresh
      (run.1.1, run.2.2.server.attempts)) = some (.error .secondsOverflow, 0) := by
  decide +kernel

/-- a session is asked for, and nobody looks at what comes of that -/
def asking : Program (Use AnyText true) Answer :=
  .step (.operation (.connect false) fun _ => rfl) fun r => .finish r

/-- two tries have failed and the count is as high as it can be: the next call has one try -/
theorem connect_keeps_budget_spent :
    let w := World.fresh.arrange fun s => { s with refusals := 3 }
    let run := (asking.op Use.perform (.new (.new 0) .standard .empty)).run 0 w
    let next := (Op.connect false run.1.2).run run.2.1 run.2.2
    Config.standard.connectLimit = .ok none ∧ run.2.2.server.attempts = 2 ∧ run.1.2.retries = 1 ∧
      Connecting (· = ·) none false run.1.2 run.2.2 next.1.1 next.1.2 next.2.2 ∧
      next.2.2.server.attempts = 3 ∧ next.1.1 = .error (.connect Config.standard.target Server.refusal) ∧
      next.1.2.retries = 1 := by
  intro w
  generalize hrun : (asking.op Use.perform (.new (.new 0) .standard .empty)).run 0 w = run
  dsimp only
  generalize hnext : (Op.connect false run.1.2).run run.2.1 run.2.2 = next
  have hfirst : run.2.2.server.attempts = 2 ∧ run.1.2.retries = 1 := by rw [← hrun]; decide +kernel
  have hsecond : next.2.2.server.attempts = 3 ∧
      next.1.1 = .error (.connect Config.standard.target Server.refusal) ∧ next.1.2.retries = 1 := by
    rw [← hnext, ← hrun]
    decide +kernel
  have hlimit : Config.standard.connectLimit = .ok none := rfl
  have hreached := Op.ends_of_run (fun _ _ => rfl) hrun (Timed.throughout_of_forall (fun _ => trivial) _ _)
  have hconnect := Op.ends_of_run (fun _ _ => rfl) hnext (Timed.throughout_of_forall (fun _ => trivial) _ _)
  obtain ⟨-, -, hbudget⟩ := connect_keeps_budget asking hreached
  exact ⟨hlimit, hfirst.1, hfirst.2, (hbudget false).1 none hlimit _ _ _ hconnect, hsecond⟩

end SqlSession
