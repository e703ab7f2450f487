/-
The limits of calls.

A `CallRun` is a run of an operation with the calls that its client makes for statements in it (`Native`). Each of them is
given a limit and raced against it. Between them the connection makes sure of its session, keeps its books and tells its
listeners.
- `callRun_received`: a run leaves out nothing that reaches the server, whose ledger has the same limits;
- `run_within_le`: a call does not take longer than the limit that it is raced against;
- `makes_task`, `makes_queried`: the calls of a task and of a call that ends a query;
- `limited_calls`: they are made under the limit of their caller, if there is one, else under the configured one.
The count of rows behind a select is made under the configured limit, even if the query has one of its own
(`limited_calls_count`).
-/
import SqlSession.Proofs.Session.Diagnostics
import SqlSession.Proofs.Session.Events

namespace SqlSession

open Query (Clause Draft)

/-! ## Calls under limits -/

theorem Timed.run_withinTicks_le {σ α : Type} (late : α) (left : Nat) (t : Timed σ α) (now : Nat) (s : σ) :
    ((t.withinTicks late left).run now s).2.1 ≤ now + left := by
  induction t generalizing left now s with
  | done x => exact Nat.le_add_right now left
  | act change rest ih => exact ih s left now (change s)
  | wait millis rest ih =>
    rw [withinTicks]
    split
    · next h =>
      have hrest := ih (left - millis) (now + millis) s
      rw [run]
      omega
    · exact Nat.le_refl _

/-- a program under a limit takes no longer than that -/
theorem Timed.run_within_le {σ α : Type} (d : Duration) (late : Duration → α) (t : Timed σ α) (now : Nat) (s : σ) :
    ((t.within (some d) late).run now s).2.1 ≤ now + d.ticks :=
  Timed.run_withinTicks_le (late d) d.ticks t now s

/-- a call of a client for a statement -/
inductive Native where
  | prepare (text : String)
  | execute (handle : Nat) (binds : List Datum)
  | query (text : String)

namespace Native

def Value : Native → Type
  | prepare _ => Nat
  | execute _ _ => Reply
  | query _ => Reply

/-- the call as it is given a limit -/
def call (limit : Option Duration) : (n : Native) → Call n.Value
  | prepare text => Call.prepare text limit
  | execute handle binds => Call.execute handle binds limit
  | query text => Call.query text limit

end Native

/-- a call that was made, and the limit that it was given and raced against -/
structure TimedCall where
  native : Native
  limit : Option Duration

/-- a run of an operation with the calls for statements in it, in order -/
inductive CallRun (others : World → World → Prop) : Connection → World → List TimedCall → Connection → World → Prop
  | here (c : Connection) (w : World) : CallRun others c w [] c w
  /-- the books are kept -/
  | booked {c c₁ c' : Connection} {w w' : World} {calls : List TimedCall} (client : c₁.client = c.client)
      (rest : CallRun others c₁ w calls c' w') : CallRun others c w calls c' w'
  /-- listeners are told -/
  | told {c c' : Connection} {w w₁ w' : World} {calls : List TimedCall} (heard : List Heard) (shared : others w w₁)
      (rest : CallRun others c { w₁ with heard := w₁.heard ++ heard } calls c' w') : CallRun others c w calls c' w'
  /-- a session is made sure of, or not -/
  | connected {c c₁ c' : Connection} {w w₁ w' : World} {calls : List TimedCall} (r : Except Error Unit)
      (connect : Op.Ends others (Op.connect false) c w r c₁ w₁) (rest : CallRun others c₁ w₁ calls c' w') :
      CallRun others c w calls c' w'
  | sent {c c' : Connection} {w w₁ w' : World} {calls : List TimedCall} (n : Native) (limit : Option Duration)
      (x : Except NativeError n.Value) (client : Client)
      (ends : CallEnds others limit (n.call limit) c.client w x client w₁)
      (rest : CallRun others { c with client } w₁ calls c' w') : CallRun others c w (⟨n, limit⟩ :: calls) c' w'

section

variable {others : World → World → Prop} {c c₁ c' : Connection} {w w₁ w' : World} {calls more : List TimedCall}

theorem CallRun.trans (h : CallRun others c w calls c₁ w₁) (h' : CallRun others c₁ w₁ more c' w') :
    CallRun others c w (calls ++ more) c' w' := by
  induction h with
  | here _ _ => exact h'
  | booked client _ ih => exact .booked client (ih h')
  | told heard shared _ ih => exact .told heard shared (ih h')
  | connected r connect _ ih => exact .connected r connect (ih h')
  | sent n limit x client ends _ ih => exact .sent n limit x client ends (ih h')

/-! ## What the server receives -/

/-- the limit that the server was told of -/
def Entry.limit? : Entry → Option (Option Duration)
  | .received _ _ limit => some limit
  | _ => none

theorem Exchange.limits {α : Type} {session : SessionId} {request : Request} {limit : Option Duration}
    {x : Except NativeError α} {entries : List Entry} (h : Exchange session request limit x entries) :
    (entries.filterMap Entry.limit?).Sublist [limit] := by
  cases h with
  | unsent cause => exact List.nil_sublist _
  | unanswered cause => exact .refl _
  | failed cause => exact .refl _
  | succeeded x => exact .refl _

/-- what the server receives of a call has the call's limit -/
theorem received_call {n : Native} {limit : Option Duration} {x : Except NativeError n.Value} {client client' : Client}
    (h : CallEnds others limit (n.call limit) client w x client' w') (ha : Apart others client.id) :
    client'.id = client.id ∧
      ∃ news, w'.own client.id = w.own client.id ++ news ∧ (news.filterMap Entry.limit?).Sublist [limit] := by
  cases n with
  | prepare text =>
    obtain ⟨⟨news, hex, hown⟩, herror, hok⟩ := exchange_preparing (ends_preparing h) ha
    refine ⟨?_, news, hown, hex.limits⟩
    cases x with
    | error cause => rw [herror cause rfl]
    | ok handle => rw [(hok handle rfl).2]; rfl
  | execute handle binds =>
    obtain ⟨⟨news, hown, hex⟩, hheeds⟩ := exchange_executing (ends_executing h) ha
    refine ⟨hheeds.rests.id, news, hown, ?_⟩
    obtain ⟨-, -, rfl⟩ | ⟨text, -, hex⟩ := hex
    · exact List.nil_sublist _
    · exact hex.limits
  | query text =>
    obtain ⟨⟨news, hex, hown⟩, hheeds⟩ := exchange_querying (ends_querying h) ha
    exact ⟨hheeds.rests.id, news, hown, hex.limits⟩

/-- **The ledger of a run.** What the server receives of it are some of its calls, in their order, and it is told
their limits. -/
theorem callRun_received (h : CallRun others c w calls c' w') (ha : Apart others c.client.id) :
    ∃ news, w'.own c.client.id = w.own c.client.id ++ news ∧
      (news.filterMap Entry.limit?).Sublist (calls.map TimedCall.limit) := by
  induction h with
  | here c w => exact ⟨[], by simp, .refl _⟩
  | booked client _ ih =>
    rw [client] at ih
    exact ih ha
  | told heard shared _ ih =>
    obtain ⟨news, hown, hsub⟩ := ih ha
    refine ⟨news, hown.trans ?_, hsub⟩
    rw [← ha _ _ shared]
    rfl
  | connected r connect _ ih =>
    have hc := Op.ends_connect connect ha
    obtain ⟨entries, hunasked, hown⟩ := hc.own
    rw [hc.id] at ih
    obtain ⟨news, hown', hsub⟩ := ih ha
    refine ⟨entries ++ news, by rw [hown', hown, List.append_assoc], ?_⟩
    have hnone : entries.filterMap Entry.limit? = [] := by
      refine List.filterMap_eq_nil_iff.2 fun e he => ?_
      have hr := hunasked e he
      cases e with
      | received session request limit => cases hr
      | _ => rfl
    rwa [List.filterMap_append, hnone]
  | sent n limit x client ends _ ih =>
    obtain ⟨hid, entries, hown, hfirst⟩ := received_call ends ha
    dsimp only at ih
    rw [hid] at ih
    obtain ⟨news, hown', hsub⟩ := ih ha
    refine ⟨entries ++ news, by rw [hown', hown, List.append_assoc], ?_⟩
    rw [List.filterMap_append]
    exact hfirst.append hsub

end

/-! ## The calls of an operation -/

namespace Op

variable {α β γ : Type} {others : World → World → Prop} {c : Connection}
  {P Q : List TimedCall → Except Error α → Connection → Prop} {R : List TimedCall → Except Error β → Connection → Prop}

/-- however it ends, the operation has made such calls -/
def Makes (others : World → World → Prop) (op : Op α) (c : Connection)
    (Q : List TimedCall → Except Error α → Connection → Prop) : Prop :=
  ∀ w r c' w', Ends others op c w r c' w' → ∃ calls, CallRun others c w calls c' w' ∧ Q calls r c'

theorem Makes.mono {op : Op α} (h : Makes others op c P) (hPQ : ∀ calls r c', P calls r c' → Q calls r c') :
    Makes others op c Q := by
  intro w r c' w' he
  obtain ⟨calls, hrun, hp⟩ := h w r c' w' he
  exact ⟨calls, hrun, hPQ calls r c' hp⟩

theorem Makes.keeping {f : Connection → γ} {op : Op α} (h : Makes others op c Q) (hf : Keeps f op) :
    Makes others op c fun calls r c' => Q calls r c' ∧ f c' = f c := by
  intro w r c' w' he
  obtain ⟨calls, hrun, hq⟩ := h w r c' w' he
  exact ⟨calls, hrun, hq, (hf c).ends he⟩

theorem makes_pure {x : α} (h : Q [] (.ok x) c) : Makes others (pure x) c Q := by
  intro w r c' w' he
  obtain ⟨rfl, rfl, rfl⟩ := ends_pure.1 he
  exact ⟨[], .here _ _, h⟩

theorem makes_throw {e : Error} (h : Q [] (.error e) c) : Makes others (throw e : Op α) c Q := by
  intro w r c' w' he
  obtain ⟨rfl, rfl, rfl⟩ := ends_throw.1 he
  exact ⟨[], .here _ _, h⟩

theorem makes_bind {op : Op α} {f : α → Op β}
    (h : Makes others op c fun front r c₁ => match r with
      | .ok x => Makes others (f x) c₁ fun back r c' => R (front ++ back) r c'
      | .error e => R front (.error e) c₁) : Makes others (op >>= f) c R := by
  intro w r c' w' he
  rcases ends_bind.1 he with ⟨e, hop, rfl⟩ | ⟨x, c₁, w₁, hop, hf⟩
  · exact h w _ c' w' hop
  · obtain ⟨front, hfront, hrest⟩ := h w _ c₁ w₁ hop
    obtain ⟨back, hback, hr⟩ := hrest w₁ r c' w' hf
    exact ⟨front ++ back, hfront.trans hback, hr⟩

theorem makes_get_bind {f : Connection → Op β} (h : Makes others (f c) c R) : Makes others (get >>= f) c R :=
  fun w r c' w' he => h w r c' w' (ends_get_bind.1 he)

theorem makes_modify_bind {g : Connection → Connection} {f : Unit → Op β} (hg : (g c).client = c.client)
    (h : Makes others (f ()) (g c) R) : Makes others (modify g >>= f) c R := by
  intro w r c' w' he
  obtain ⟨calls, hrun, hr⟩ := h w r c' w' (ends_modify_bind.1 he)
  exact ⟨calls, .booked hg hrun, hr⟩

theorem makes_modify {g : Connection → Connection} {Q : List TimedCall → Except Error Unit → Connection → Prop}
    (hg : (g c).client = c.client) (h : Q [] (.ok ()) (g c)) : Makes others (modify g) c Q := by
  intro w r c' w' he
  obtain ⟨rfl, rfl, rfl⟩ := ends_modify.1 he
  exact ⟨[], .booked hg (.here _ _), h⟩

theorem makes_ofExcept_bind {x : Except Error α} {f : α → Op β} (herror : ∀ e, x = .error e → R [] (.error e) c)
    (hok : ∀ y, x = .ok y → Makes others (f y) c R) : Makes others (ofExcept x >>= f) c R := by
  intro w r c' w' he
  rcases ends_ofExcept_bind.1 he with ⟨e, rfl, rfl, rfl, rfl⟩ | ⟨y, rfl, hf⟩
  · exact ⟨[], .here _ _, herror e rfl⟩
  · exact hok y rfl w r c' w' hf

theorem makes_notify_bind {heard : Heard} {f : Unit → Op β} (h : Makes others (f ()) c R) :
    Makes others (notify heard >>= f) c R := by
  intro w r c' w' he
  rcases ends_bind.1 he with ⟨e, hn, -⟩ | ⟨_, c₁, w₁, hn, hf⟩
  · obtain ⟨_, heq, -⟩ := ends_shared.1 (ends_get_bind.1 hn)
    cases heq
  · obtain ⟨_, -, rfl, hn⟩ := ends_shared.1 (ends_get_bind.1 hn)
    obtain ⟨w₂, hs, hn⟩ := Timed.ends_act.1 hn
    obtain ⟨-, rfl⟩ := Timed.ends_done.1 hn
    obtain ⟨calls, hrun, hr⟩ := h _ r c' w' hf
    exact ⟨calls, .told _ hs hrun, hr⟩

theorem makes_connect_bind {f : Unit → Op β} (herror : ∀ e c₁, R [] (.error e) c₁)
    (hok : ∀ c₁ : Connection, c₁.config = c.config → Makes others (f ()) c₁ R) :
    Makes others (connect false >>= f) c R := by
  intro w r c' w' he
  rcases ends_bind.1 he with ⟨e, hc, rfl⟩ | ⟨_, c₁, w₁, hc, hf⟩
  · exact ⟨[], .connected _ hc (.here _ _), herror e c'⟩
  · have hconfig : c₁.config = c.config := (keeps_connect (f := Connection.config) (fun _ _ h _ _ => h) false c).ends hc
    obtain ⟨calls, hrun, hr⟩ := hok c₁ hconfig w₁ r c' w' hf
    exact ⟨calls, .connected _ hc hrun, hr⟩

/-- a call for a statement -/
theorem makes_call_bind (n : Native) (limit : Option Duration) {f : Except NativeError n.Value → Op β}
    (h : ∀ x client, Makes others (f x) { c with client } fun back r c' => R (⟨n, limit⟩ :: back) r c') :
    Makes others (call limit statementLate (n.call limit) >>= f) c R := by
  intro w r c' w' he
  obtain ⟨x, client, w₁, hcall, hf⟩ := ends_call_bind he
  obtain ⟨back, hback, hr⟩ := h x client w₁ r c' w' hf
  exact ⟨⟨n, limit⟩ :: back, .sent n limit x client hcall hback, hr⟩

/-! ## Statements -/

theorem makes_failWith (kind : NativeError → String → Error) (cause : NativeError) :
    Makes others (failWith kind cause : Op α) c fun calls r _ => calls = [] ∧ ∃ e, r = .error e := by
  refine makes_get_bind (makes_modify_bind rfl (makes_notify_bind ?_))
  split
  · exact makes_throw ⟨rfl, _, rfl⟩
  · exact makes_throw ⟨rfl, _, rfl⟩

theorem makes_conclude (outcome : Except NativeError Reply) :
    Makes others (conclude outcome) c fun calls _ _ => calls = [] := by
  cases outcome with
  | error cause => exact (makes_failWith _ cause).mono fun _ _ _ h => h.1
  | ok reply => exact makes_modify_bind rfl (makes_get_bind (makes_notify_bind (makes_pure rfl)))

end Op

/-! ## Plans -/

/-- of the calls of a plan the first ones were made, and all of them behind a success -/
structure Fulfils {α : Type} (plan calls : List TimedCall) (r : Except Error α) : Prop where
  initial : calls <+: plan
  all : ∀ x, r = .ok x → calls = plan

namespace Fulfils

variable {α β : Type} {plan front back calls more : List TimedCall}

theorem full (plan : List TimedCall) (r : Except Error α) : Fulfils plan plan r := ⟨List.prefix_rfl, fun _ _ => rfl⟩

theorem none {e : Error} : Fulfils (α := α) plan [] (.error e) := ⟨List.nil_prefix, fun _ hx => (nomatch hx)⟩

theorem error {e : Error} (h : Fulfils (α := α) front calls (.error e)) :
    Fulfils (α := β) (front ++ back) calls (.error e) :=
  ⟨h.initial.trans (List.prefix_append front back), fun _ hx => (nomatch hx)⟩

theorem map {r : Except Error α} (h : Fulfils plan calls r) (f : α → β) : Fulfils plan calls (r.map f) := by
  cases r with
  | error e => exact ⟨h.initial, fun _ hx => (nomatch hx)⟩
  | ok x => exact ⟨h.initial, fun _ _ => h.all x rfl⟩

theorem trans {x : α} {r : Except Error β} (h : Fulfils front calls (.ok x)) (h' : Fulfils back more r) :
    Fulfils (front ++ back) (calls ++ more) r := by
  obtain rfl := h.all x rfl
  exact ⟨(List.prefix_append_right_inj _).2 h'.initial, fun y hy => by rw [h'.all y hy]⟩

end Fulfils

theorem Connection.limit_of_config {c c' : Connection} (h : c'.config = c.config) (own : Option Duration) :
    c'.limit own = c.limit own := by
  cases own with
  | some d => rfl
  | none => exact congrArg Config.executeLimit h

/-- the calls under the limit that a connection has for them, none if it cannot have one -/
def Connection.under (c : Connection) (own : Option Duration) (natives : List Native) : List TimedCall :=
  match c.limit own with
  | .ok limit => natives.map fun n => ⟨n, limit⟩
  | .error _ => []

theorem Connection.under_of_limit {c : Connection} {own limit : Option Duration} (h : c.limit own = .ok limit)
    (natives : List Native) : c.under own natives = natives.map fun n => ⟨n, limit⟩ := by
  rw [under, h]

/-- the calls of a task; the handle is what preparing a statement has given -/
def Task.natives (handle : Nat) : Task → List Native
  | prepare s => [.prepare s.text]
  | execute s => [.prepare s.text, .execute handle s.binds]
  | executePrepared p => [.execute p.handle p.statement.binds]
  | query text => [.query text]

namespace Op

variable {α β : Type} {others : World → World → Prop} {c : Connection} {own : Option Duration}

theorem makes_map {op : Op α} {plan : List TimedCall}
    (h : Makes others op c fun calls r _ => Fulfils plan calls r) (f : α → β) :
    Makes others (do pure (f (← op))) c fun calls r _ => Fulfils plan calls r := by
  intro w r c' w' he
  obtain ⟨x, hop, rfl⟩ := ends_map he
  obtain ⟨calls, hrun, hplan⟩ := h w x c' w' hop
  exact ⟨calls, hrun, hplan.map f⟩

/-- every statement begins like this -/
theorem makes_begin {statement : Statement} {k : Option Duration → Op β}
    {R : List TimedCall → Except Error β → Connection → Prop} (herror : ∀ e c₁, R [] (.error e) c₁)
    (hok : ∀ limit (c₁ : Connection), c.limit own = .ok limit → Makes others (k limit) c₁ R) :
    Makes others (beginning statement own k) c R := by
  refine makes_connect_bind herror fun c₁ hconfig => makes_modify_bind rfl (makes_get_bind ?_)
  have hlimit : (c₁.beginStatement statement).limit own = c.limit own := Connection.limit_of_config hconfig own
  rw [hlimit]
  exact makes_ofExcept_bind (fun e _ => herror e _) fun limit hl => hok limit _ hl

/-- a call with nothing but records behind it -/
theorem makes_single (n : Native) {limit : Option Duration} {f : Except NativeError n.Value → Op β}
    (h : ∀ x c₁, Makes others (f x) c₁ fun calls _ _ => calls = []) :
    Makes others (call limit statementLate (n.call limit) >>= f) c fun calls r _ => Fulfils [⟨n, limit⟩] calls r := by
  refine makes_call_bind n limit fun x client => (h x _).mono fun calls r _ hnone => ?_
  rw [hnone]
  exact .full _ r

theorem makes_prepare (statement : Statement) :
    Makes others (prepare statement own) c fun calls r _ => Fulfils (c.under own [.prepare statement.text]) calls r := by
  refine makes_begin (fun e _ => .none) fun limit c₁ hl => ?_
  rw [Connection.under_of_limit hl]
  refine makes_single (.prepare statement.text) fun x c₂ => ?_
  cases x with
  | ok handle => exact makes_pure rfl
  | error cause => exact (makes_failWith _ cause).mono fun _ _ _ h => h.1

theorem makes_execute (statement : Statement) :
    Makes others (execute statement own) c fun calls r _ =>
      ∃ handle, Fulfils (c.under own [.prepare statement.text, .execute handle statement.binds]) calls r := by
  refine makes_get_bind (makes_ofExcept_bind (fun e _ => ⟨0, .none⟩) fun limit hl => ?_)
  refine makes_bind ((makes_prepare statement).mono fun front r c₁ h => ?_)
  simp only [Connection.under_of_limit hl] at h ⊢
  cases r with
  | error e => exact ⟨0, h.error⟩
  | ok p =>
    refine (makes_single (.execute p.handle statement.binds) fun x c₂ => makes_conclude x).mono fun back r c' h' => ?_
    exact ⟨p.handle, h.trans h'⟩

theorem makes_executePrepared (p : Prepared) :
    Makes others (executePrepared p own) c fun calls r _ =>
      Fulfils (c.under own [.execute p.handle p.statement.binds]) calls r := by
  refine makes_begin (fun e _ => .none) fun limit c₁ hl => ?_
  rw [Connection.under_of_limit hl]
  exact makes_single (.execute p.handle p.statement.binds) fun x c₂ => makes_conclude x

theorem makes_query (text : String) :
    Makes others (query text own) c fun calls r _ => Fulfils (c.under own [.query text]) calls r := by
  refine makes_begin (fun e _ => .none) fun limit c₁ hl => ?_
  rw [Connection.under_of_limit hl]
  refine makes_single (.query text) fun x c₂ => makes_bind ((makes_conclude x).mono fun front r c₃ h => ?_)
  subst h
  cases r with
  | error e => rfl
  | ok reply => exact makes_pure rfl

/-- **Tasks.** The calls of a task are made under its limit. -/
theorem makes_task (task : Task) :
    Makes others (task.op own) c fun calls r _ => ∃ handle, Fulfils (c.under own (task.natives handle)) calls r := by
  cases task with
  | prepare s => exact (makes_prepare s).mono fun _ _ _ h => ⟨0, h⟩
  | execute s => exact makes_execute s
  | executePrepared p => exact (makes_executePrepared p).mono fun _ _ _ h => ⟨0, h⟩
  | query text => exact (makes_query text).mono fun _ _ _ h => ⟨0, h⟩

/-- the count of rows has the configured limit, whoever asks for it -/
theorem makes_fetchTotalCount :
    Makes others fetchTotalCount c fun calls r _ => Fulfils (c.under none [.query foundRowsText]) calls r := by
  refine makes_get_bind (makes_ofExcept_bind (fun e _ => .none) fun limit hl => ?_)
  have hl : c.limit none = .ok limit := hl
  rw [Connection.under_of_limit hl]
  refine makes_single (.query foundRowsText) fun x c₂ => ?_
  cases x with
  | ok reply => exact makes_modify rfl rfl
  | error cause => exact (makes_failWith _ cause).mono fun _ _ _ h => h.1

end Op

/-! ## Queries -/

namespace Terminal

variable {α : Type} {others : World → World → Prop} {c : Connection} {own : Option Duration}

/-- the calls for the statement of a query are made under the query's limit, and the count of its rows under the
configured one; nothing is counted behind a statement that is only prepared -/
def plan (c : Connection) (own : Option Duration) (d : Draft) (s : Statement) (handle : Nat) :
    Terminal α → List TimedCall
  | select true => c.under own ((Task.prepare s).natives handle)
  | t => c.under own ((Task.execute s).natives handle) ++
      if t.counts d then c.under none [.query Op.foundRowsText] else []

theorem makes_run (t : Terminal α) (d : Draft) (s : Statement) :
    Op.Makes others (t.run own d s) c fun calls r _ =>
      ∃ handle, Fulfils (c.under own ((Task.execute s).natives handle) ++
        if t.counts d then c.under none [.query Op.foundRowsText] else []) calls r := by
  have hkept : Op.Keeps Connection.config (Op.execute s own) := Op.keeps_execute (fun _ _ h _ _ => h) s own
  refine Op.makes_bind (((Op.makes_execute s).keeping hkept).mono fun front r c₁ h => ?_)
  obtain ⟨⟨handle, hfront⟩, hconfig⟩ := h
  have hunder : c₁.under none [.query Op.foundRowsText] = c.under none [.query Op.foundRowsText] := by
    rw [Connection.under, Connection.limit_of_config hconfig]
    rfl
  cases r with
  | error e => exact ⟨handle, hfront.error⟩
  | ok reply =>
    dsimp only
    split
    · have hcount : Op.Makes others Op.fetchTotalCount c₁ fun calls r _ =>
          Fulfils (c.under none [.query Op.foundRowsText]) calls r := hunder ▸ Op.makes_fetchTotalCount
      exact (Op.makes_map hcount _).mono fun back r c₂ hback => ⟨handle, hfront.trans hback⟩
    · exact Op.makes_pure ⟨handle, hfront.trans (.full [] _)⟩

theorem makes_send (t : Terminal α) (d : Draft) (s : Statement) :
    Op.Makes others (t.send own d s) c fun calls r _ => ∃ handle, Fulfils (t.plan c own d s handle) calls r := by
  cases t with
  | select asHandle =>
    cases asHandle with
    | false => exact (select false).makes_run d s
    | true => exact (Op.makes_map (Op.makes_prepare s) Selection.handle).mono fun _ _ _ h => ⟨0, h⟩
  | first => exact first.makes_run d s
  | value name => exact (value name).makes_run d s
  | column name => exact (column name).makes_run d s
  | insert verb row => exact (insert verb row).makes_run d s
  | update row force => exact (update row force).makes_run d s
  | delete force => exact (delete force).makes_run d s

end Terminal

namespace Op

variable {α : Type} {others : World → World → Prop} {c : Connection} {own : Option Duration}

/-- **Queries.** One that does not compile makes no calls; another one makes those for its statement. -/
theorem makes_queried (clauses : List Clause) (t : Terminal α) :
    Makes others (queried clauses t own) c fun calls r _ =>
      ∃ x, r = .ok ((c.recorded clauses).2, x) ∧
        match (c.recorded (clauses ++ t.clauses)).1.compile t.command with
        | .error e => x = .error e ∧ calls = []
        | .ok s => ∃ handle, Fulfils (t.plan c own (c.recorded (clauses ++ t.clauses)).1 s handle) calls x := by
  intro w r c' w' he
  have hclear : c.clearDraft.client = c.client := rfl
  rw [Ends, queried_eq] at he
  cases hs : (c.recorded (clauses ++ t.clauses)).1.compile t.command with
  | error e =>
    rw [hs] at he
    obtain ⟨heq, rfl⟩ := Timed.ends_done.1 he
    obtain ⟨rfl, rfl⟩ := Prod.mk.inj heq
    exact ⟨[], .booked hclear (.here _ _), _, rfl, rfl, rfl⟩
  | ok s =>
    rw [hs] at he
    obtain ⟨x, c₁, w₁, hsend, hpure⟩ := ends_observed_bind he
    obtain ⟨rfl, rfl, rfl⟩ := ends_pure.1 hpure
    obtain ⟨calls, hrun, hplan⟩ := t.makes_send (c.recorded (clauses ++ t.clauses)).1 s w x _ _ hsend
    exact ⟨calls, .booked hclear hrun, x, rfl, hplan⟩

end Op

/-- **The limits of calls.** However a task ends, and however a query ends that was put together on the connection and
that compiles, the calls of its client are the first of its plan, and all of them behind a success. A call is given its
limit and raced against it. The limit is that of the task or of the query if it has one, whatever is configured, else the
configured one; but the count of rows behind a select always has the configured one. -/
theorem limited_calls {others : World → World → Prop} {c c' : Connection} {w w' : World} (own : Option Duration) :
    (∀ (task : Task) (r : Except Error task.Value), Op.Ends others (task.op own) c w r c' w' →
        ∃ handle calls, CallRun others c w calls c' w' ∧ Fulfils (c.under own (task.natives handle)) calls r) ∧
      ∀ {α : Type} (clauses : List Clause) (t : Terminal α) (r : Except Error (List (Except Error Unit) × Except Error α)),
        Op.Ends others (Op.queried clauses t own) c w r c' w' →
          ∃ x calls, r = .ok ((c.recorded clauses).2, x) ∧ CallRun others c w calls c' w' ∧
            match (c.recorded (clauses ++ t.clauses)).1.compile t.command with
            | .error e => x = .error e ∧ calls = []
            | .ok s => ∃ handle, Fulfils (t.plan c own (c.recorded (clauses ++ t.clauses)).1 s handle) calls x := by
  refine ⟨fun task r h => ?_, fun clauses t r h => ?_⟩
  · obtain ⟨calls, hrun, handle, hplan⟩ := Op.makes_task task w r c' w' h
    exact ⟨handle, calls, hrun, hplan⟩
  · obtain ⟨calls, hrun, x, rfl, hplan⟩ := Op.makes_queried clauses t w r c' w' h
    exact ⟨x, calls, rfl, hrun, hplan⟩

/-- a select with a limit of 20 milliseconds has its rows counted, and waits 50 milliseconds for the count -/
theorem limited_calls_count :
    let own := some (Duration.ofMillis 20)
    let c := Connection.new (.new 0) .standard .empty
    let w := World.fresh.arrange fun s => { s with delays := ⟨0, 0, 0, 50⟩ }
    let run := (Op.queried [.table "t", .totalCount] (.select false) own c).run 0 w
    run.1.1 = .ok ([.ok (), .ok ()], .ok (.rows .empty)) ∧ run.2.1 = 50 ∧
      ∃ handle, CallRun (· = ·) c w
        [⟨.prepare "SELECT SQL_CALC_FOUND_ROWS * FROM t", own⟩, ⟨.execute handle [], own⟩,
          ⟨.query Op.foundRowsText, none⟩] run.1.2 run.2.2 := by
  intro own c w
  generalize hrun : (Op.queried [.table "t", .totalCount] (.select false) own c).run 0 w = run
  have hr : run.1.1 = .ok ([.ok (), .ok ()], .ok (.rows .empty)) := by
    rw [← hrun]
    rfl
  have htime : run.2.1 = 50 := by
    rw [← hrun]
    decide +kernel
  have hends := Op.ends_of_run (fun _ _ => rfl) hrun (Timed.throughout_of_forall (fun _ => trivial) _ _)
  obtain ⟨x, calls, hx, hcalls, hplan⟩ :=
    (limited_calls own).2 [.table "t", .totalCount] (.select false) _ hends
  rw [hr] at hx
  obtain ⟨-, rfl⟩ := Prod.mk.inj (Except.ok.inj hx)
  obtain ⟨handle, hfulfils⟩ := hplan
  obtain rfl := hfulfils.all _ rfl
  exact ⟨hr, htime, handle, hcalls⟩

end SqlSession
