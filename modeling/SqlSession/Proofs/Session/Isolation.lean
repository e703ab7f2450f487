/-
Queries on one connection do not see each other.

`Delivery` says which requests were handed to a server: the first ones of those that belong to a statement, all of them
after a success, and none if no session could be opened.
- `delivery_prepare`, `delivery_execute`, `delivery_fetchTotalCount`: what each statement hands over;
- `delivery_send`: what a call hands over that ends a query;
- `isolated_queries`: behind any history that has left no clauses, a query hands over just what a detached builder
  compiles from the same clauses, and leaves no clauses either.
-/
import SqlSession.Proofs.Session.Endings
import SqlSession.Proofs.Session.Ways
import SqlSession.Query.Builder

namespace SqlSession

open Query (Builder Clause Command Draft Registry)

/-- a request that a server has received -/
def Entry.received? : Entry → Option Request
  | .received _ request _ => some request
  | _ => none

/-- the client has made some more entries, and these are the requests in them -/
def Handed (id : Nat) (w : World) (requests : List Request) (w' : World) : Prop :=
  ∃ news, w'.own id = w.own id ++ news ∧ news.filterMap Entry.received? = requests

namespace Handed

variable {id : Nat} {w w₁ w' : World} {a b : List Request}

theorem none (h : w'.own id = w.own id) : Handed id w [] w' := ⟨[], by simpa using h, rfl⟩

theorem trans (h : Handed id w a w₁) (h' : Handed id w₁ b w') : Handed id w (a ++ b) w' := by
  obtain ⟨front, hf, rfl⟩ := h
  obtain ⟨back, hb, rfl⟩ := h'
  exact ⟨front ++ back, by rw [hb, hf, List.append_assoc], List.filterMap_append⟩

/-- nothing is asked for without being received -/
theorem of_unasked {news : List Entry} (hn : ∀ e ∈ news, e.request? = .none) (hown : w'.own id = w.own id ++ news) :
    Handed id w [] w' := by
  refine ⟨news, hown, List.filterMap_eq_nil_iff.2 fun e he => ?_⟩
  have hnone := hn e he
  cases e with
  | received session request limit => cases hnone
  | _ => rfl

end Handed

/-- no session could be opened, or one was opened after a transaction was lost -/
def Error.isUnconnected : Error → Bool
  | .connect _ _ => true
  | .transactionLost _ => true
  | _ => false

/-- of these requests the first ones were handed over; all of them if the result is a success, none if there was no
session -/
structure Delivery {α : Type} (id : Nat) (requests : List Request) (w : World) (r : Except Error α) (w' : World) :
    Prop where
  first : ∃ handed, Handed id w handed w' ∧ handed <+: requests ∧
    (∀ x, r = .ok x → handed = requests) ∧ ∀ e, r = .error e → e.isUnconnected → handed = []

namespace Delivery

variable {α β : Type} {id : Nat} {a b : List Request} {w w₁ w' : World}

/-- a failure before anything was handed over -/
theorem none {e : Error} (h : Handed id w [] w') : Delivery (α := α) id a w (.error e) w' :=
  ⟨[], h, List.nil_prefix, fun _ hx => (nomatch hx), fun _ _ _ => rfl⟩

/-- what follows a success, in a session that is there -/
theorem trans {x : α} {r : Except Error β} (h : Delivery id a w (.ok x) w₁) (h' : Delivery id b w₁ r w')
    (hr : ∀ e, r = .error e → e.isUnconnected = false) : Delivery id (a ++ b) w r w' := by
  obtain ⟨_, hfront, -, hall, -⟩ := h.first
  obtain rfl := hall x rfl
  obtain ⟨handed, hback, hinitial, hall', -⟩ := h'.first
  refine ⟨_, hfront.trans hback, (List.prefix_append_right_inj _).2 hinitial, fun y hy => ?_, fun e he hu => ?_⟩
  · rw [hall' y hy]
  · simp [hr e he] at hu

/-- nothing follows a failure -/
theorem error {e : Error} (h : Delivery (α := α) id a w (.error e) w') :
    Delivery (α := β) id (a ++ b) w (.error e) w' := by
  obtain ⟨handed, hh, hinitial, -, hnone⟩ := h.first
  refine ⟨handed, hh, hinitial.trans (List.prefix_append a b), fun _ hx => (nomatch hx), fun e' he' => ?_⟩
  cases he'
  exact hnone e rfl

/-- what goes before without handing anything over -/
theorem after {r : Except Error α} (h : Handed id w [] w₁) (h' : Delivery id a w₁ r w') : Delivery id a w r w' := by
  obtain ⟨handed, hh, hrest⟩ := h'.first
  exact ⟨handed, h.trans hh, hrest⟩

theorem map {r : Except Error α} (h : Delivery id a w r w') (f : α → β) : Delivery id a w (r.map f) w' := by
  obtain ⟨handed, hh, hinitial, hall, hnone⟩ := h.first
  refine ⟨handed, hh, hinitial, fun y hy => ?_, fun e he => ?_⟩
  · cases r with
    | error e => cases hy
    | ok x => exact hall x rfl
  · cases r with
    | error e' =>
      cases he
      exact hnone e rfl
    | ok x => cases he

end Delivery

namespace Op

variable {α : Type} {others : World → World → Prop} {limit : Option Duration} {client client' : Client}
  {c c' : Connection} {w w' : World}

/-- a result of which something else is made -/
theorem ends_map {β : Type} {op : Op α} {f : α → β} {r : Except Error β}
    (h : Ends others (do pure (f (← op))) c w r c' w') : ∃ x, Ends others op c w x c' w' ∧ r = x.map f := by
  rcases ends_bind.1 h with ⟨e, hop, rfl⟩ | ⟨x, c₁, w₁, hop, hp⟩
  · exact ⟨.error e, hop, rfl⟩
  · obtain ⟨rfl, rfl, rfl⟩ := ends_pure.1 hp
    exact ⟨.ok x, hop, rfl⟩

/-! ## Calls -/

/-- what a call hands over: the request, or nothing if it failed -/
def Passing (id : Nat) (request : Request) (w : World) (x : Except NativeError α) (w' : World) : Prop :=
  Handed id w [request] w' ∨ Handed id w [] w' ∧ ∃ cause, x = .error cause

theorem passing_preparing {text : String} {x : Except NativeError Nat}
    (h : Preparing others limit client text w x client' w') (ha : Apart others client.id) :
    Passing client.id (.prepare text) w x w' := by
  cases h with
  | late d w₁ hs _ _ => exact .inr ⟨.none (ha _ _ hs), _, rfl⟩
  | failed cause rest w₁ w₂ w₃ hs hs' hs'' _ =>
    have h₂ : w₂.own client.id = w.own client.id := (ha _ _ hs').trans (ha _ _ hs)
    exact .inl ⟨_, own_note_pair ((ha _ _ hs'').trans (own_note h₂ rfl)) rfl, rfl⟩
  | prepared w₁ w₂ w₃ hs hs' hs'' =>
    have h₂ : w₂.own client.id = w.own client.id := (ha _ _ hs').trans (ha _ _ hs)
    exact .inl ⟨_, own_note_pair ((ha _ _ hs'').trans (own_note h₂ rfl)) rfl, rfl⟩

theorem passing_answering {request : Request} {x : Except NativeError Reply}
    (h : Answering others client request w x client' w') (ha : Apart others client.id) {w₀ : World}
    (hown : w.own client.id = w₀.own client.id ++ [.received client.session request limit]) :
    Passing client.id request w₀ x w' := by
  cases h with
  | failed cause rest w₁ hs _ => exact .inl ⟨_, own_note_pair ((ha _ _ hs).trans hown) rfl, rfl⟩
  | answered reply w₁ hs => exact .inl ⟨_, own_note_pair ((ha _ _ hs).trans hown) rfl, rfl⟩

theorem passing_executing {handle : Nat} {text : String} {binds : List Datum} {x : Except NativeError Reply}
    (h : Executing others limit client handle binds w x client' w') (ha : Apart others client.id)
    (hk : client.prepared.lookup handle = some text) : Passing client.id (.execute ⟨text, binds⟩) w x w' := by
  cases h with
  | unknown hu => cases hk.symm.trans hu
  | late d text' w₁ w₂ hk' hs hs' _ _ =>
    cases hk.symm.trans hk'
    exact .inl ⟨_, (ha _ _ hs').trans (own_note (ha _ _ hs) rfl), rfl⟩
  | run text' w₁ w₂ w' x client' hk' hs hs' h =>
    cases hk.symm.trans hk'
    exact passing_answering h ha ((ha _ _ hs').trans (own_note (ha _ _ hs) rfl))

theorem passing_querying {text : String} {x : Except NativeError Reply}
    (h : Querying others limit client text w x client' w') (ha : Apart others client.id) :
    Passing client.id (.query text) w x w' := by
  cases h with
  | late d w₁ hs _ _ => exact .inr ⟨.none (ha _ _ hs), _, rfl⟩
  | run w₁ w₂ w' x client' hs hs' h =>
    exact passing_answering h ha (own_note ((ha _ _ hs').trans (ha _ _ hs)) rfl)

/-- others may go on behind a call -/
theorem Passing.unmoved {id : Nat} {request : Request} {x : Except NativeError α} {w₁ : World}
    (h : Passing id request w x w₁) (hown : w'.own id = w₁.own id) : Passing id request w x w' := by
  have hafter : Handed id w₁ [] w' := .none hown
  exact h.imp (fun hh => hh.trans hafter) fun hh => ⟨hh.1.trans hafter, hh.2⟩

/-- what a statement hands over by one call, whose failure is told as one of the statement -/
theorem Passing.delivery {β : Type} {id : Nat} {request : Request} {x : Except NativeError α} {r : Except Error β}
    (h : Passing id request w x w') (hok : ∀ y, r = .ok y → ∃ z, x = .ok z)
    (hr : ∀ e, r = .error e → e.isUnconnected = false) : Delivery id [request] w r w' := by
  obtain hh | ⟨hh, cause, rfl⟩ := h
  · exact ⟨_, hh, List.prefix_refl _, fun _ _ => rfl, fun e he hu => by simp [hr e he] at hu⟩
  · refine ⟨[], hh, List.nil_prefix, fun y hy => ?_, fun _ _ _ => rfl⟩
    obtain ⟨z, hz⟩ := hok y hy
    cases hz

/-! ## Statements -/

theorem Blamed.connected {kind : NativeError → String → Error} {cause : NativeError} {e : Error}
    (hk : kind = .prepare ∨ kind = .execute) (h : Blamed kind cause e) : e.isUnconnected = false := by
  cases h with
  | timeout statement _ => rfl
  | refusal statement _ => rcases hk with rfl | rfl <;> rfl

theorem Concluded.connected {x : Except NativeError Reply} {r : Except Error Reply} (h : Concluded c x r c') :
    (∀ y, r = .ok y → ∃ z, x = .ok z) ∧ ∀ e, r = .error e → e.isUnconnected = false := by
  cases h with
  | failed cause e hb =>
    refine ⟨fun y hy => (nomatch hy), fun e' he' => ?_⟩
    cases he'
    exact hb.connected (.inr rfl)
  | answered reply => exact ⟨fun _ _ => ⟨reply, rfl⟩, fun e he => (nomatch he)⟩

variable {statement : Statement} {own : Option Duration}

/-- until a statement is begun nothing is handed over -/
theorem Begun.unsent {x : Except Error (Option Duration)} (h : Begun others statement own c w x c' w') :
    Handed c.client.id w [] w' ∧ c'.client.id = c.client.id := by
  cases h with
  | unconnected e _ _ hc =>
    obtain ⟨news, hn, hown⟩ := hc.own
    exact ⟨.of_unasked hn hown, hc.id⟩
  | connected c₁ w₁ hc =>
    obtain ⟨news, hn, hown⟩ := hc.own
    exact ⟨.of_unasked hn hown, hc.id⟩

theorem delivery_prepare {r : Except Error Prepared} (h : Ends others (prepare statement own) c w r c' w')
    (ha : Apart others c.client.id) : Delivery c.client.id [.prepare statement.text] w r w' := by
  obtain ⟨e, hb, rfl⟩ | ⟨limit, c₁, w₁, x, client, w₂, hb, hp, hk, hown⟩ := ends_prepare h ha
  · exact .none hb.unsent.1
  obtain ⟨hbefore, hid⟩ := hb.unsent
  rw [← hid] at hbefore ha hown ⊢
  refine .after hbefore (((passing_preparing hp ha).unmoved hown).delivery ?_ ?_)
  · rintro p rfl
    exact ⟨_, hk.ok.1⟩
  · rintro e rfl
    cases hk with
    | failed cause _ hb => exact hb.connected (.inl rfl)

theorem delivery_execute {r : Except Error Reply} (h : Ends others (execute statement own) c w r c' w')
    (ha : Apart others c.client.id) :
    Delivery c.client.id [.prepare statement.text, .execute statement] w r w' := by
  obtain ⟨e, -, rfl, rfl, rfl⟩ | ⟨e, hp, rfl⟩ | ⟨limit, p, c₁, w₁, x, client, w₂, -, hp, hx, hc, hown⟩ :=
    ends_execute h ha
  · exact .none (.none rfl)
  · exact (delivery_prepare hp ha).error
  obtain ⟨-, hok⟩ := stated_prepare (T := AnyText) hp ha trivial
  obtain ⟨hlookup, -⟩ := hok p rfl
  have hmade : Made AnyText true (prepare statement own) := made_prepare trivial
  have hid : c₁.client.id = c.client.id := (hmade others c w _ c₁ w₁ ha hp).id ha
  have hfront := delivery_prepare hp ha
  rw [← hid] at hfront ha hown ⊢
  have hpassing := (passing_executing hx ha hlookup).unmoved hown
  exact hfront.trans (hpassing.delivery hc.connected.1 hc.connected.2) hc.connected.2

theorem delivery_fetchTotalCount {r : Except Error Unit} (h : Ends others fetchTotalCount c w r c' w')
    (ha : Apart others c.client.id) :
    Delivery c.client.id [.query foundRowsText] w r w' ∧ ∀ e, r = .error e → e.isUnconnected = false := by
  obtain ⟨e, hl, rfl, rfl, rfl⟩ | ⟨limit, x, client, w₁, -, hq, hown, hr⟩ := ends_fetchTotalCount h ha
  · have hl : c'.limit none = .error e := hl
    refine ⟨.none (.none rfl), fun e' he' => ?_⟩
    cases he'
    rw [limit_error hl]
    rfl
  have hpassing := (passing_querying hq ha).unmoved hown
  obtain ⟨cause, e, rfl, rfl, hb, rfl⟩ | ⟨reply, count, rfl, rfl, rfl⟩ := hr
  · have hconnected : ∀ e', Except.error e = (.error e' : Except Error Unit) → e'.isUnconnected = false := by
      rintro _ ⟨⟩
      exact hb.connected (.inr rfl)
    exact ⟨hpassing.delivery (fun _ hy => (nomatch hy)) hconnected, hconnected⟩
  · exact ⟨hpassing.delivery (fun _ _ => ⟨reply, rfl⟩) fun _ he => (nomatch he), fun _ he => (nomatch he)⟩

end Op

namespace Terminal

open Op

variable {α : Type} {others : World → World → Prop} {c c' : Connection} {w w' : World}

/-- what belongs to a statement of a call: that it is prepared, run unless only its handle is asked for, and followed by
the count of its rows if that was asked for -/
def requests (d : Draft) (s : Statement) : Terminal α → List Request
  | select true => [.prepare s.text]
  | t => [.prepare s.text, .execute s] ++ if t.counts d then [.query foundRowsText] else []

theorem delivery_run (t : Terminal α) {own : Option Duration} {d : Draft} {s : Statement} {r : Except Error α}
    (h : Ends others (t.run own d s) c w r c' w') (ha : Apart others c.client.id) :
    Delivery c.client.id ([.prepare s.text, .execute s] ++ if t.counts d then [.query foundRowsText] else [])
      w r w' := by
  rcases ends_bind.1 h with ⟨e, hx, rfl⟩ | ⟨reply, c₁, w₁, hx, h⟩
  · exact (delivery_execute hx ha).error
  have hfront := delivery_execute hx ha
  have hmade : Made AnyText true (execute s own) := made_execute trivial
  have hid : c₁.client.id = c.client.id := (hmade others c w _ c₁ w₁ ha hx).id ha
  split at h
  · next hc =>
    rw [if_pos hc]
    rw [← hid] at hfront ha ⊢
    obtain ⟨x, hf, rfl⟩ := ends_map h
    obtain ⟨hback, hconnected⟩ := delivery_fetchTotalCount hf ha
    exact (hfront.trans hback hconnected).map fun _ => t.answer reply
  · next hc =>
    rw [if_neg hc, List.append_nil]
    obtain ⟨rfl, rfl, rfl⟩ := ends_pure.1 h
    exact hfront.map fun _ => t.answer reply

/-- what a call hands over once its draft is compiled -/
theorem delivery_send (t : Terminal α) {own : Option Duration} {d : Draft} {s : Statement} {r : Except Error α}
    (h : Ends others (t.send own d s) c w r c' w') (ha : Apart others c.client.id) :
    Delivery c.client.id (t.requests d s) w r w' := by
  cases t with
  | select asHandle =>
    cases asHandle with
    | false => exact (select false).delivery_run h ha
    | true =>
      obtain ⟨x, hp, rfl⟩ := ends_map h
      exact (delivery_prepare hp ha).map _
  | first => exact first.delivery_run h ha
  | value name => exact (value name).delivery_run h ha
  | column name => exact (column name).delivery_run h ha
  | insert verb row => exact (insert verb row).delivery_run h ha
  | update row force => exact (update row force).delivery_run h ha
  | delete force => exact (delete force).delivery_run h ha

theorem keeps_run {γ : Type} {f : Connection → γ} (hf : Lasting f) (t : Terminal α) (own : Option Duration) (d : Draft)
    (s : Statement) : Keeps f (t.run own d s) := by
  refine keeps_bind (keeps_execute hf s own) fun reply => ?_
  split
  · exact keeps_bind (keeps_fetchTotalCount hf) fun _ => keeps_pure _
  · exact keeps_pure _

/-- sending a statement leaves the draft alone -/
theorem keeps_send {γ : Type} {f : Connection → γ} (hf : Lasting f) (t : Terminal α) (own : Option Duration) (d : Draft)
    (s : Statement) : Keeps f (t.send own d s) := by
  cases t with
  | select asHandle =>
    cases asHandle with
    | false => exact keeps_run hf (select false) own d s
    | true => exact keeps_bind (keeps_prepare hf s own) fun _ => keeps_pure _
  | _ => exact keeps_run hf _ own d s

/-- what a call that ends a query leaves, however it ends: the settings, and no clauses -/
theorem assures_perform {γ : Type} {f : Connection → γ} (hf : Lasting f) (t : Terminal α) (own : Option Duration)
    (c : Connection) : (t.perform own).Assures c fun _ c' => f c' = f c.clearDraft := by
  rw [Assures, t.perform_eq own c]
  split
  · exact .done _ rfl
  · exact keeps_send hf t own _ _ c.clearDraft

theorem made_perform (t : Terminal α) (own : Option Duration) : Made AnyText true (t.perform own) := by
  have hplain : ∀ text, IsPlain text → AnyText text := fun _ _ => trivial
  have hrules := Op.rules_made AnyText true
  cases t with
  | select asHandle => exact hrules.select hplain asHandle own
  | first => exact hrules.first hplain own
  | value name => exact hrules.value hplain name own
  | column name => exact hrules.column hplain name own
  | insert verb row => exact hrules.insert hplain verb row own
  | update row force => exact hrules.update hplain row force own
  | delete force => exact hrules.delete hplain force own

end Terminal

/-! ## Detached builders -/

namespace Query

namespace Draft

/-- no clause is recorded just where the draft is fresh -/
theorem isDirty_eq_false {d : Draft} : d.isDirty = false ↔ d = .fresh d.tablePrefix := by
  constructor
  · intro h
    cases d
    simp_all [isDirty, fresh]
  · intro h
    rw [h]
    rfl

end Draft

namespace Builder

/-- an empty builder with this prefix, which looks up scopes in this registry -/
def detached (tablePrefix : String) (registry : Registry) : Builder :=
  { Builder.new tablePrefix with registry := some registry }

/-- tries to record each of these clauses -/
def recordEach (b : Builder) : List Clause → Builder × List (Except Error Unit)
  | [] => (b, [])
  | clause :: rest =>
    let (b₁, verdict) := b.record clause
    let (b₂, verdicts) := b₁.recordEach rest
    (b₂, verdict :: verdicts)

theorem recordEach_eq (b : Builder) (clauses : List Clause) :
    b.recordEach clauses =
      ({ b with draft := (b.draft.recordEach b.registry clauses).1 }, (b.draft.recordEach b.registry clauses).2) := by
  induction clauses generalizing b with
  | nil => rfl
  | cons clause rest ih =>
    rw [recordEach]
    simp only [ih]
    rfl

end Builder

end Query

/-- an operation that leaves no clauses -/
inductive Clearing : (α : Type) → Op α → Prop
  | terminal {α : Type} (t : Terminal α) (own : Option Duration) : Clearing α (t.perform own)
  | beforeUse : Clearing Unit Op.beforeUse
  | clearDraft : Clearing Unit (modify Connection.clearDraft)

/-- the handle in what came of a call -/
def Terminal.prepared? {α : Type} : Terminal α → α → Option Prepared
  | select _, .handle p => some p
  | _, _ => none

/-- what comes of a query by itself, put together on a builder of its own -/
structure Isolated {α : Type} (b : Builder) (clauses : List Clause) (t : Terminal α) (c : Connection) (w : World)
    (verdicts : List (Except Error Unit)) (r : Except Error α) (c' : Connection) (w' : World) : Prop where
  /-- the same clauses are refused -/
  verdicts : verdicts = (b.recordEach clauses).2
  /-- no clauses are left, the prefix is -/
  cleared : c'.draft = .fresh b.draft.tablePrefix
  /-- what does not compile there fails here with the same error, and nothing happens -/
  refused : ∀ e, (b.recordEach (clauses ++ t.clauses)).1.draft.compile t.command = .error e →
    r = .error e ∧ c' = c ∧ w' = w
  /-- what compiles there is all that is handed over here -/
  sent : ∀ s, (b.recordEach (clauses ++ t.clauses)).1.draft.compile t.command = .ok s →
    Delivery c.client.id (t.requests (b.recordEach (clauses ++ t.clauses)).1.draft s) w r w' ∧
      ∀ x p, r = .ok x → t.prepared? x = some p → p.statement = s

/-- queries that begin here are isolated from all that was before -/
def Isolating (others : World → World → Prop) (b : Builder) (c : Connection) (w : World) : Prop :=
  ∀ (α : Type) (clauses : List Clause) (t : Terminal α) (own : Option Duration)
    (r : Except Error (List (Except Error Unit) × Except Error α)) (c' : Connection) (w' : World),
    Op.Ends others (Op.queried clauses t own) c w r c' w' →
      ∃ verdicts result, r = .ok (verdicts, result) ∧ Isolated b clauses t c w verdicts result c' w'

section

variable {others : World → World → Prop} {c c' : Connection} {w w' : World}

/-- what a call that runs its statement makes of the answer is no handle -/
theorem Terminal.prepared?_run {α : Type} {t : Terminal α} {own : Option Duration} {d : Draft} {s : Statement} {x : α}
    (h : Op.Ends others (t.run own d s) c w (.ok x) c' w') : t.prepared? x = none := by
  have hanswer : ∀ reply, t.prepared? (t.answer reply) = none := by
    intro reply
    cases t <;> rfl
  rcases Op.ends_bind.1 h with ⟨e, -, he⟩ | ⟨reply, c₁, w₁, -, h⟩
  · cases he
  split at h
  · obtain ⟨r, -, hr⟩ := Op.ends_map h
    cases r with
    | error e => cases hr
    | ok _ =>
      cases hr
      exact hanswer reply
  · cases (Op.ends_pure.1 h).1
    exact hanswer reply

/-- a handle stands for the statement that was prepared -/
theorem Terminal.statement_send {α : Type} {t : Terminal α} {own : Option Duration} {d : Draft} {s : Statement} {x : α}
    {p : Prepared} (h : Op.Ends others (t.send own d s) c w (.ok x) c' w') (ha : Apart others c.client.id)
    (hp : t.prepared? x = some p) : p.statement = s := by
  cases t with
  | select asHandle =>
    cases asHandle with
    | false => cases (prepared?_run (t := select false) h).symm.trans hp
    | true =>
      obtain ⟨r, hr, heq⟩ := Op.ends_map h
      cases r with
      | error e => cases heq
      | ok q =>
        cases heq
        cases hp
        obtain ⟨e, -, he⟩ | ⟨_, _, _, _, _, _, -, -, hk, -⟩ := Op.ends_prepare hr ha
        · cases he
        · exact hk.ok.2.1
  | _ => cases hp

/-- a query on a clean connection is what it is on a builder of its own with the same settings -/
theorem isolating_of_clean {config : Config} {registry : Registry}
    (hs : c.settings = (config, registry, config.tablePrefix)) (hclean : c.draft.isDirty = false)
    (ha : Apart others c.client.id) :
    Isolating others (.detached config.tablePrefix registry) c w := by
  intro α clauses t own r c' w' h
  obtain ⟨-, hrest⟩ := Prod.mk.inj hs
  obtain ⟨hregistry, hbefore⟩ := Prod.mk.inj hrest
  have hdraft : c.draft = .fresh config.tablePrefix := by
    rw [Draft.isDirty_eq_false.1 hclean, hbefore]
  have hrecorded : ∀ more, (Builder.detached config.tablePrefix registry).recordEach more =
      ({ Builder.detached config.tablePrefix registry with draft := (c.recorded more).1 }, (c.recorded more).2) := by
    intro more
    rw [Builder.recordEach_eq, Connection.recorded, hdraft, hregistry]
    rfl
  have hkept : c.clearDraft = c := by
    have hreset : c.draft.reset = c.draft := by rw [Draft.reset, hbefore, hdraft]
    rw [Connection.clearDraft, hreset]
  have hcompiled : ((Builder.detached config.tablePrefix registry).recordEach (clauses ++ t.clauses)).1.draft =
      (c.recorded (clauses ++ t.clauses)).1 := by
    rw [hrecorded]
  have hverdicts := congrArg Prod.snd (hrecorded clauses)
  rw [Op.Ends, Op.queried_eq, hkept] at h
  split at h
  · next e he =>
    obtain ⟨heq, rfl⟩ := Timed.ends_done.1 h
    obtain ⟨rfl, rfl⟩ := Prod.mk.inj heq
    refine ⟨_, _, rfl, hverdicts.symm, hdraft, fun e' he' => ?_, fun s hs => ?_⟩
    · rw [hcompiled, he] at he'
      cases he'
      exact ⟨rfl, rfl, rfl⟩
    · rw [hcompiled, he] at hs
      cases hs
  · next s hs =>
    obtain ⟨result, c₁, w₁, hsend, h⟩ := Op.ends_observed_bind h
    obtain ⟨rfl, rfl, rfl⟩ := Op.ends_pure.1 h
    have hlasting : Op.Lasting Connection.draft := fun _ _ _ _ h => h
    have hcleared : c'.draft = c.draft := (t.keeps_send hlasting own _ s c).ends hsend
    refine ⟨_, _, rfl, hverdicts.symm, hcleared.trans hdraft, fun e he => ?_, fun s' hs' => ?_⟩
    · rw [hcompiled, hs] at he
      cases he
    · rw [hcompiled, hs] at hs'
      cases hs'
      rw [hcompiled]
      refine ⟨t.delivery_send hsend ha, fun x p hx hp => ?_⟩
      subst hx
      exact Terminal.statement_send hsend ha hp

end

namespace Clearing

variable {α : Type} {op : Op α}

/-- the settings are left, and no clauses -/
theorem assures (h : Clearing α op) (c : Connection) :
    op.Assures c fun _ c' => c'.draft.isDirty = false ∧ c'.settings = c.settings := by
  have hlasting : Op.Lasting fun c => (c.draft, c.settings) := by
    intro c c' hconfig hregistry hdraft
    exact Prod.ext hdraft (lasting_settings c c' hconfig hregistry hdraft)
  have hleft : op.Assures c fun _ c' => (c'.draft, c'.settings) = (c.clearDraft.draft, c.clearDraft.settings) := by
    cases h with
    | terminal t own => exact t.assures_perform hlasting own c
    | beforeUse => exact Op.assures_beforeUse hlasting c
    | clearDraft => exact Op.assures_modify.2 rfl
  refine hleft.mono fun r c' h => ?_
  obtain ⟨hdraft, hsettings⟩ := Prod.mk.inj h
  exact ⟨by rw [hdraft]; rfl, hsettings⟩

theorem made (h : Clearing α op) : Made AnyText true op := by
  cases h with
  | terminal t own => exact t.made_perform own
  | beforeUse => exact Op.made_act (a := .beforeUse) fun _ => trivial
  | clearDraft => exact Op.made_modify fun _ => ⟨rfl, rfl, rfl, rfl⟩

end Clearing

/-- **Queries are isolated from each other.** Behind any history of a connection, others on the server going on as they
like: a call that clears the draft, however it ends, leaves no clauses and the prefix; and from wherever there are no
clauses, every query comes to what it comes to on a detached builder with the same settings. -/
theorem isolated_queries {others : World → World → Prop} {config : Config} {registry : Registry} {id : Nat}
    (apart : Apart others id) {β : Type} (history : Program (Use AnyText true) β) {w₀ w : World} {r₀ : Except Error β}
    {c : Connection} (past : Op.Ends others (history.op Use.perform) (.new (.new id) config registry) w₀ r₀ c w) :
    let b := Builder.detached config.tablePrefix registry
    (c.draft.isDirty = false → Isolating others b c w) ∧
      ∀ (α : Type) (op : Op α), Clearing α op → ∀ r c₁ w₁, Op.Ends others op c w r c₁ w₁ →
        c₁.draft.isDirty = false ∧ c₁.draft.tablePrefix = config.tablePrefix ∧ Isolating others b c₁ w₁ := by
  intro b
  have hmade : Made AnyText true (history.op Use.perform) := made_program (fun _ _ => trivial) history
  have hid : c.client.id = id := (hmade others _ w₀ r₀ c w apart past).id apart
  have hkeeps : Op.Keeps Connection.settings (history.op Use.perform) :=
    keeps_program (fun s => by cases s with | operation step _ => exact step.keeps_perform) history
  have hs : c.settings = (config, registry, config.tablePrefix) := (hkeeps _).ends past
  have ha : Apart others c.client.id := hid ▸ apart
  refine ⟨fun hclean => isolating_of_clean hs hclean ha, fun α op hop r c₁ w₁ h => ?_⟩
  obtain ⟨hclean, hsettings⟩ := (hop.assures c).ends h
  have hs₁ := hsettings.trans hs
  have hid₁ : c₁.client.id = c.client.id := (hop.made others c w r c₁ w₁ ha h).id ha
  refine ⟨hclean, congrArg (fun s => s.2.2) hs₁, isolating_of_clean hs₁ hclean (hid₁ ▸ ha)⟩


/-- settings with a prefix -/
def prefixedConfig : Config := { Config.standard with tablePrefix := "p_" }

/-- a query that is left unfinished -/
def unfinishedWork : Program (Use AnyText true) Answer :=
  .step (.operation (.bound ⟨none, false, [.ok (.table "old"), .ok (.group "a")], .unfinished, ""⟩) trivial) .finish

/-- the unfinished clauses are taken by a deletion that does not compile, and the query behind it does not see them -/
theorem isolated_queries_unfinished :
    let past := (unfinishedWork.op Use.perform (.new (.new 0) prefixedConfig .empty)).run 0 .fresh
    let refused := ((Terminal.delete false).perform none past.1.2).run 0 past.2.2
    let found := (Op.queried [.table "t"] .first none refused.1.2).run 0 refused.2.2
    past.1.2.draft.isDirty = true ∧ refused.1.1 = .error (.emptyCondition "delete") ∧
      refused.1.2.draft.isDirty = false ∧ found.1.1 = .ok ([.ok ()], .ok none) ∧
      Handed 0 refused.2.2 [.prepare "SELECT * FROM p_t LIMIT 1", .execute (.ofText "SELECT * FROM p_t LIMIT 1")]
        found.2.2 := by
  generalize hpast : (unfinishedWork.op Use.perform (.new (.new 0) prefixedConfig .empty)).run 0 .fresh = past
  dsimp only
  generalize hrefused : ((Terminal.delete false).perform none past.1.2).run 0 past.2.2 = refused
  generalize hfound : (Op.queried [.table "t"] .first none refused.1.2).run 0 refused.2.2 = found
  have hdirty : past.1.2.draft.isDirty = true := by
    rw [← hpast]
    rfl
  have herror : refused.1.1 = .error (.emptyCondition "delete") := by
    rw [← hrefused, ← hpast]
    rfl
  have hafter : refused.1.2 = .new (.new 0) prefixedConfig .empty := by
    rw [← hrefused, ← hpast]
    rfl
  have hworld : refused.2.2 = .fresh := by
    rw [← hrefused, ← hpast]
    rfl
  have hid : refused.1.2.client.id = 0 := by
    rw [hafter]
    rfl
  have hresult : found.1.1 = .ok ([.ok ()], .ok none) := by
    rw [← hfound, hafter, hworld]
    rfl
  have alone : Apart (· = ·) 0 := by
    rintro w _ rfl
    rfl
  have hends := Op.ends_of_run (fun _ _ => rfl) hpast (Timed.throughout_of_forall (fun _ => trivial) _ _)
  have hdelete := Op.ends_of_run (fun _ _ => rfl) hrefused (Timed.throughout_of_forall (fun _ => trivial) _ _)
  have hfirst := Op.ends_of_run (fun _ _ => rfl) hfound (Timed.throughout_of_forall (fun _ => trivial) _ _)
  obtain ⟨-, hcleared⟩ := isolated_queries alone unfinishedWork hends
  obtain ⟨hclean, -, hisolating⟩ := hcleared _ _ (.terminal (.delete false) none) _ _ _ hdelete
  obtain ⟨verdicts, result, hr, h⟩ := hisolating _ _ _ _ _ _ _ hfirst
  cases hresult.symm.trans hr
  obtain ⟨handed, hh, -, hall, -⟩ := (h.sent (.ofText "SELECT * FROM p_t LIMIT 1") rfl).1.first
  obtain rfl := hall none rfl
  rw [hid] at hh
  exact ⟨hdirty, herror, hclean, hresult, hh⟩

end SqlSession
