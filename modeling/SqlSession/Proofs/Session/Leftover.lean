/-
Transactions that a connection leaves open without counting them.

A transaction is counted off before its COMMIT or ROLLBACK is sent. When the server refuses that statement with an error
that neither means loss nor that time ran out, the transaction stays open there, the depth is zero, and the session is
relied on: nothing that follows ends it, a connection that is made ready for another holder included. The theorems here
say that this is the only way to leave a transaction open.
- `Accounted`: an open transaction can be traced back to its BEGIN, and one that is not counted to a refused end;
- `accounted_act`: every act keeps this;
- `leftover_transaction`: so the session of a connection that counts no transaction has one open if and only if a
  COMMIT or a ROLLBACK was refused in it since its last BEGIN, and nothing has ended it; and so it is whenever a BEGIN is
  sent, and whenever a connection is made ready for another holder.
-/
import SqlSession.Proofs.Session.Database
import SqlSession.Proofs.Session.Ways

namespace SqlSession

open Connection (Alike)

/-! ## The server's side -/

namespace Control

/-- what it makes of the open transaction: it opens one, it ends it, or neither -/
def turn? : Control → Option Bool
  | begin => some true
  | commit => some false
  | rollback => some false
  | _ => none

theorem turn_of_inner {control : Control} (h : control.isBoundary = false) : control.turn? = none := by
  cases control with
  | begin => cases h
  | commit => cases h
  | rollback => cases h
  | _ => rfl

end Control

/-- what a request says about transactions when it is run -/
def Request.control? : Request → Option Control
  | prepare _ => none
  | execute statement => Control.ofText statement.text
  | query text => Control.ofText text

/-- what an entry makes of the open transaction: only statements that succeeded count, and the ends of sessions -/
def Entry.turn? : Entry → Option Bool
  | succeeded _ request => request.control?.bind Control.turn?
  | opened _ => some false
  | closed _ => some false
  | _ => none

/-- the server has a transaction open behind these entries -/
def inTransaction (entries : List Entry) : Bool :=
  (entries.foldl Database.note .empty).pending.isSome

namespace Database

theorem isSome_ask (db : Database) (name : String) (f : Pending → Option Pending) :
    (db.ask name f).pending.isSome = db.pending.isSome := by
  unfold ask
  cases db.pending with
  | none => simp
  | some p => cases hf : f p <;> simp [hf]

theorem isSome_control (db : Database) (control : Control) :
    (db.control control).pending.isSome = control.turn?.getD db.pending.isSome := by
  cases control with
  | begin => rfl
  | commit =>
    show db.commit.pending.isSome = false
    unfold commit
    cases hp : db.pending with
    | none => simp [hp]
    | some p => rfl
  | rollback => rfl
  | savepoint name => exact Option.isSome_map
  | rollbackTo name => exact isSome_ask db name _
  | release name => exact isSome_ask db name _

theorem isSome_perform (db : Database) (s : Statement) :
    (db.perform s).pending.isSome = ((Control.ofText s.text).bind Control.turn?).getD db.pending.isSome := by
  cases hc : Control.ofText s.text with
  | some control => rw [perform_of_control hc, isSome_control]; rfl
  | none =>
    rw [perform_of_plain hc]
    unfold write
    cases db.pending <;> simp

theorem isSome_note (db : Database) (e : Entry) : (db.note e).pending.isSome = e.turn?.getD db.pending.isSome := by
  cases e with
  | succeeded session request =>
    cases request with
    | prepare text => rfl
    | execute s => exact isSome_perform db s
    | query text => exact isSome_perform db (.ofText text)
  | _ => rfl

end Database

section

variable {a b entries : List Entry} {s : SessionId} {e : Entry} {T : String → Prop}

theorem inTransaction_concat (a : List Entry) (e : Entry) :
    inTransaction (a ++ [e]) = e.turn?.getD (inTransaction a) := by
  rw [inTransaction, List.foldl_append]
  exact Database.isSome_note _ e

theorem inTransaction_quiet (h : ∀ e ∈ b, e.turn? = none) : inTransaction (a ++ b) = inTransaction a := by
  induction b generalizing a with
  | nil => rw [List.append_nil]
  | cons e b ih =>
    rw [List.append_cons, ih fun e he => h e (List.mem_cons_of_mem _ he), inTransaction_concat,
      h e List.mem_cons_self]
    rfl

/-- without a BEGIN no transaction is open -/
theorem inTransaction_false (ha : inTransaction a = false) (h : ∀ e ∈ b, e.turn? ≠ some true) :
    inTransaction (a ++ b) = false := by
  induction b generalizing a with
  | nil => rwa [List.append_nil]
  | cons e b ih =>
    rw [List.append_cons]
    refine ih ?_ fun e he => h e (List.mem_cons_of_mem _ he)
    have he : e.turn? ≠ some true := h e List.mem_cons_self
    rw [inTransaction_concat]
    cases ht : e.turn? with
    | none => exact ha
    | some turn =>
      rw [ht] at he
      exact eq_false_of_ne_true fun hturn => he (congrArg some hturn)

theorem Idle.turn (h : Idle s entries) : ∀ e ∈ entries, e.turn? ≠ some true := by
  intro e he
  rcases h e he with rfl | rfl <;> simp [Entry.turn?]

/-- a transaction that is still open behind them was not ended by them -/
theorem Idle.quiet (h : Idle s b) (ho : inTransaction (a ++ b) = true) : ∀ e ∈ b, e.turn? = none := by
  induction b generalizing a with
  | nil => simp
  | cons e b ih =>
    have hb : Idle s b := fun e he => h e (List.mem_cons_of_mem _ he)
    rw [List.append_cons] at ho
    rcases h e List.mem_cons_self with rfl | rfl
    · have hshut : inTransaction (a ++ [.closed s]) = false := inTransaction_concat a (.closed s)
      exact absurd ((inTransaction_false hshut hb.turn).symm.trans ho) (by decide)
    · exact List.forall_mem_cons.2 ⟨rfl, ih hb ho⟩

/-- a new session has no transaction open -/
theorem inTransaction_opened (a : List Entry) (s : SessionId) : inTransaction (a ++ [.opened s]) = false :=
  inTransaction_concat a (.opened s)

theorem turn_of_inner {request : Request} (h : IsInner request.text) : request.control?.bind Control.turn? = none := by
  have hinner : ∀ text, IsInner text → (Control.ofText text).bind Control.turn? = none := by
    intro text hi
    cases hc : Control.ofText text with
    | none => rfl
    | some control => exact Control.turn_of_inner (hi control hc)
  cases request with
  | prepare text => rfl
  | execute statement => exact hinner _ h
  | query text => exact hinner _ h

theorem About.quiet (h : About s IsInner entries) : ∀ e ∈ entries, e.turn? = none := by
  intro e he
  obtain ⟨request, hr, hi⟩ := h e he
  cases e with
  | succeeded session request' =>
    cases hr
    exact turn_of_inner hi
  | opened session => cases hr
  | closed session => cases hr
  | _ => rfl

/-! ## BEGIN -/

/-- the end of a transaction was asked for in the session, and refused -/
def EndRefused (s : SessionId) (entries : List Entry) : Prop :=
  ∃ text cause, (text = "COMMIT" ∨ text = "ROLLBACK") ∧ Entry.failed s (.query text) cause ∈ entries

/-- a transaction is open in the session, and its end was refused -/
def LeftOpen (s : SessionId) (entries : List Entry) : Prop :=
  ∃ before rest, entries = before ++ .succeeded s (.query "BEGIN") :: rest ∧ (∀ e ∈ rest, e.turn? = none) ∧
    EndRefused s rest

theorem LeftOpen.inTransaction (h : LeftOpen s entries) : inTransaction entries = true := by
  obtain ⟨before, rest, rfl, hq, -⟩ := h
  rw [List.append_cons, inTransaction_quiet hq]
  exact inTransaction_concat before (.succeeded s (.query "BEGIN"))

/-- whenever a BEGIN is received while a transaction is open, that one's end was refused -/
def Begins (entries : List Entry) : Prop :=
  ∀ before rest s limit, entries = before ++ .received s (.query "BEGIN") limit :: rest →
    inTransaction before = true → LeftOpen s before

theorem Begins.concat (h : Begins a)
    (he : ∀ s limit, e = .received s (.query "BEGIN") limit → inTransaction a = true → LeftOpen s a) :
    Begins (a ++ [e]) := by
  intro before rest s limit heq ho
  rcases List.eq_nil_or_concat rest with rfl | ⟨rest, last, rfl⟩
  · obtain ⟨rfl, hlast⟩ := List.append_inj' heq rfl
    exact he s limit (List.cons.inj hlast).1 ho
  · rw [List.concat_eq_append, ← List.cons_append, ← List.append_assoc] at heq
    obtain ⟨heq', -⟩ := List.append_inj' heq rfl
    exact h before rest s limit heq' ho

theorem Begins.append (h : Begins a) (hb : ∀ e ∈ b, ∀ s limit, e ≠ .received s (.query "BEGIN") limit) :
    Begins (a ++ b) := by
  induction b generalizing a with
  | nil => rwa [List.append_nil]
  | cons e b ih =>
    rw [List.append_cons]
    refine ih (h.concat fun s limit he => ?_) fun e he => hb e (List.mem_cons_of_mem _ he)
    exact absurd he (hb e List.mem_cons_self s limit)

theorem Idle.unbegun (h : Idle s entries) : ∀ e ∈ entries, ∀ s limit, e ≠ .received s (.query "BEGIN") limit := by
  intro e he s' limit heq
  rcases h e he with rfl | rfl <;> cases heq

theorem About.unbegun (h : About s IsInner entries) :
    ∀ e ∈ entries, ∀ s limit, e ≠ .received s (.query "BEGIN") limit := by
  rintro e he s' limit rfl
  obtain ⟨request, hr, hi⟩ := h _ he
  cases hr
  exact absurd (hi _ Control.ofText_begin) (by decide)

end

/-! ## The connection's side -/

/-- an open transaction was begun in the session that is there, and if it is not counted its end was refused -/
structure Traced (c : Connection) (entries before rest : List Entry) : Prop where
  begun : entries = before ++ .succeeded c.client.session (.query "BEGIN") :: rest
  quiet : ∀ e ∈ rest, e.turn? = none
  limited : ∃ limit, c.config.executeLimit = .ok limit
  refused : c.depth = 0 → c.needsReconnect = false → EndRefused c.client.session rest

/-- what is open on the server is accounted for -/
structure Accounted (c : Connection) (w : World) : Prop where
  traced : inTransaction (w.own c.client.id) = true → ∃ before rest, Traced c (w.own c.client.id) before rest
  begins : Begins (w.own c.client.id)
  inner : ∀ e ∈ c.client.prepared, IsInner e.2

variable {others : World → World → Prop} {c c' c₀ c₁ : Connection} {w w' w₀ w₁ : World}

theorem Accounted.leftOpen (h : Accounted c w) (hz : c.depth = 0) (hs : c.needsReconnect = false)
    (ho : inTransaction (w.own c.client.id) = true) : LeftOpen c.client.session (w.own c.client.id) := by
  obtain ⟨before, rest, ht⟩ := h.traced ho
  exact ⟨before, rest, ht.begun, ht.quiet, ht.refused hz hs⟩

/-- nothing is begun, and a transaction that is not counted any more has had its end refused -/
theorem Accounted.move {news : List Entry} (h : Accounted c w) (hsession : c'.client.session = c.client.session)
    (hconfig : c'.config = c.config) (hinner : ∀ e ∈ c'.client.prepared, IsInner e.2)
    (hown : w'.own c.client.id = w.own c.client.id ++ news)
    (hquiet : inTransaction (w.own c.client.id ++ news) = true → ∀ e ∈ news, e.turn? = none)
    (hbegins : Begins (w.own c.client.id ++ news))
    (hcounted : c'.depth = 0 → c'.needsReconnect = false →
      c.depth = 0 ∧ c.needsReconnect = false ∨ EndRefused c.client.session news) : Accounted c' w' := by
  have hid : c'.client.id = c.client.id := congrArg SessionId.client hsession
  have hown' : w'.own c'.client.id = w.own c.client.id ++ news := by rw [hid, hown]
  refine ⟨fun ho => ?_, by rwa [hown'], hinner⟩
  rw [hown'] at ho ⊢
  have hq := hquiet ho
  rw [inTransaction_quiet hq] at ho
  obtain ⟨before, rest, ht⟩ := h.traced ho
  refine ⟨before, rest ++ news, ?_, ?_, ?_, fun hz hs => ?_⟩
  · rw [hsession, ht.begun, List.append_assoc, List.cons_append]
  · exact fun e he => (List.mem_append.1 he).elim (ht.quiet e) (hq e)
  · rw [hconfig]
    exact ht.limited
  · rw [hsession]
    rcases hcounted hz hs with ⟨hz', hs'⟩ | ⟨text, cause, ht', he⟩
    · obtain ⟨text, cause, ht', he⟩ := ht.refused hz' hs'
      exact ⟨text, cause, ht', List.mem_append_left _ he⟩
    · exact ⟨text, cause, ht', List.mem_append_right _ he⟩

/-- no transaction is open -/
theorem accounted_closed {news : List Entry} (h : Begins news) (hown : w'.own c'.client.id = news)
    (hinner : ∀ e ∈ c'.client.prepared, IsInner e.2) (hn : inTransaction news = false) : Accounted c' w' := by
  refine ⟨fun ho => ?_, by rwa [hown], hinner⟩
  rw [hown] at ho
  exact absurd (hn.symm.trans ho) (by decide)

theorem Accounted.unmoved (h : Accounted c w) (hsession : c'.client.session = c.client.session)
    (hconfig : c'.config = c.config) (hinner : ∀ e ∈ c'.client.prepared, IsInner e.2)
    (hown : w'.own c.client.id = w.own c.client.id)
    (hcounted : c'.depth = 0 → c'.needsReconnect = false → c.depth = 0 ∧ c.needsReconnect = false) :
    Accounted c' w' := by
  have hown' : w'.own c.client.id = w.own c.client.id ++ [] := by rw [hown, List.append_nil]
  have hbegins : Begins (w.own c.client.id ++ []) := by simpa using h.begins
  exact h.move hsession hconfig hinner hown' (by simp) hbegins fun hz hs => .inl (hcounted hz hs)

theorem Accounted.alike (h : Accounted c w) (halike : Alike c c') (hown : w'.own c.client.id = w.own c.client.id) :
    Accounted c' w' := by
  refine h.unmoved (congrArg Client.session halike.client) halike.config ?_ hown fun hz hs => ⟨?_, ?_⟩
  · rw [halike.client]
    exact h.inner
  · rwa [halike.depth] at hz
  · rwa [halike.needsReconnect] at hs

theorem Accounted.count {depth : Nat} (h : Accounted c w) (hd : depth = 0 → c.depth = 0) :
    Accounted { c with depth } w :=
  h.unmoved rfl rfl h.inner rfl fun hz hs => ⟨hd hz, hs⟩

/-- a session that is not relied on any more -/
theorem Accounted.doubted (h : Accounted c w) (hclient : c'.client = c.client) (hconfig : c'.config = c.config)
    (hdoubt : c'.needsReconnect = true) (hown : w'.own c.client.id = w.own c.client.id) : Accounted c' w' := by
  refine h.unmoved (congrArg Client.session hclient) hconfig ?_ hown fun _ hs => by simp [hdoubt] at hs
  rw [hclient]
  exact h.inner

/-- a session that is ended, and connects that are refused -/
theorem Accounted.idle {idle : List Entry} (h : Accounted c w) (hq : Idle c.client.session idle)
    (halike : Alike { c with client := c.client.shut } c') (hown : w'.own c.client.id = w.own c.client.id ++ idle) :
    Accounted c' w' := by
  refine h.move ?_ halike.config ?_ hown hq.quiet (h.begins.append hq.unbegun) fun hz hs => .inl ⟨?_, ?_⟩
  · rw [halike.client]
    exact session_shut c.client
  · rw [halike.client]
    exact fun e he => h.inner e (prepared_shut e he)
  · rwa [halike.depth] at hz
  · rwa [halike.needsReconnect] at hs

/-! ## Calls -/

namespace Op

/-- a session that was opened has no transaction open -/
theorem Renewed.closed {lost : Nat} {r : Except Error Unit} (h : Renewed lost c w r c' w') (hacc : Accounted c w) :
    (∃ e, r = .error e ∧ e ≠ .transactionLost lost ∧ Accounted c' w') ∨
      inTransaction (w'.own c'.client.id) = false ∧ Begins (w'.own c'.client.id) ∧
        ∀ e ∈ c'.client.prepared, IsInner e.2 := by
  have hid : c'.client.id = c.client.id := h.id
  have hopened : ∀ {idle}, Idle c.client.session idle → c'.client = c.client.shut.opened →
      w'.own c.client.id = w.own c.client.id ++ (idle ++ [.opened c.client.session.next]) →
      inTransaction (w'.own c'.client.id) = false ∧ Begins (w'.own c'.client.id) ∧
        ∀ e ∈ c'.client.prepared, IsInner e.2 := by
    intro idle hq hclient hown
    rw [hid, hown, ← List.append_assoc]
    refine ⟨inTransaction_opened _ _, ?_, ?_⟩
    · exact (hacc.begins.append hq.unbegun).concat fun s limit heq => by cases heq
    · rw [hclient]
      exact fun e he => hacc.inner e (prepared_shut e he)
  cases h with
  | failed e idle c' w' hq ht halike hown =>
    exact .inl ⟨e, rfl, fun he => ht.kept lost (congrArg Except.error he), hacc.idle hq halike hown⟩
  | opened idle c' w' hq _ halike hown => exact .inr (hopened hq halike.client hown)
  | lost idle c' w' hq _ halike hown => exact .inr (hopened hq halike.client hown)

theorem accounted_renewed {lost : Nat} {r : Except Error Unit} (h : Renewed lost c w r c' w') (hacc : Accounted c w) :
    Accounted c' w' := by
  obtain ⟨e, -, -, hacc'⟩ | ⟨hn, hb, hi⟩ := h.closed hacc
  · exact hacc'
  · exact accounted_closed hb rfl hi hn

theorem accounted_connected {r : Except Error Unit} (h : Connected others c w r c' w') (hacc : Accounted c w) :
    Accounted c' w' := by
  rcases h.renewed with ⟨-, -, rfl, rfl⟩ | ⟨-, hr⟩
  · exact hacc
  · exact accounted_renewed hr hacc

/-- statements that begin and end no transaction -/
theorem accounted_worked (h : Worked IsInner c w c' w') (hacc : Accounted c w)
    (hd : c'.depth = 0 → c.depth = 0) : Accounted c' w' := by
  obtain ⟨news, hn, hown⟩ := h.own
  refine hacc.move h.session h.config ?_ hown (fun _ => hn.quiet) (hacc.begins.append hn.unbegun) fun hz hs => ?_
  · intro e he
    exact (h.prepared e he).elim (hacc.inner e) id
  · obtain ⟨hsure, -⟩ := h.sure hs
    exact .inl ⟨hd hz, hsure⟩

theorem accounted_course {α : Type} {r : Except Error α} (h : Course IsInner (fun _ depth => depth) c w r c' w')
    (hacc : Accounted c w) : Accounted c' w' := by
  cases h with
  | still r c' w' _ halike _ hown => exact hacc.alike halike hown
  | within r c' w' _ hworked hdepth _ => exact accounted_worked hworked hacc fun hz => hdepth.symm.trans hz
  | failed e c' w' _ hr => exact accounted_renewed hr hacc
  | anew c₁ w₁ r c' w' _ hr hworked hdepth _ =>
    exact accounted_worked hworked (accounted_renewed hr hacc) fun hz => hdepth.symm.trans hz

/-- a BEGIN that is sent outside any transaction that is counted, and what comes of it -/
theorem begins_begin (hacc : Accounted c w) (hs : c.needsReconnect = false) (hz : c.depth = 0)
    (limit : Option Duration) {last : Entry} (hlast : ∀ s limit, last ≠ .received s (.query "BEGIN") limit) :
    Begins (w.own c.client.id ++ [.received c.client.session (.query "BEGIN") limit, last]) := by
  have hleft : inTransaction (w.own c.client.id) = true → LeftOpen c.client.session (w.own c.client.id) :=
    hacc.leftOpen hz hs
  rw [List.append_cons]
  refine (hacc.begins.concat fun s limit heq => ?_).concat fun s limit heq => absurd heq (hlast s limit)
  cases heq
  exact hleft

/-- **BEGIN.** It is sent outside any transaction that is counted. -/
theorem accounted_begin {x : Except Error RowSet} {c₂ : Connection} (hq : Queried "BEGIN" none c.deeper w x c₂ w')
    (hacc : Accounted c w) (hs : c.needsReconnect = false) (hz : c.depth = 0)
    (hend : (∃ rows, x = .ok rows ∧ c' = c₂) ∨ ∃ e, x = .error e ∧ c' = if e.isAbort then c₂ else c₂.shallower) :
    Accounted c' w' := by
  have hbegins := begins_begin hacc hs hz
  cases hq with
  | unlimited e c₂ w' _ halike hown =>
    obtain ⟨_, hx, -⟩ | ⟨_, -, rfl⟩ := hend
    · cases hx
    split
    · -- nothing was begun, and a transaction is counted
      exact (hacc.count fun hz => absurd hz (Nat.succ_ne_zero _)).alike halike hown
    · refine hacc.alike ⟨halike.client, ?_, halike.needsReconnect, halike.config⟩ hown
      exact (congrArg (· - 1) halike.depth).trans (Nat.add_sub_cancel c.depth 1)
  | late e c₂ w' halike hown hgoes =>
    obtain ⟨_, hx, -⟩ | ⟨_, hx, rfl⟩ := hend
    · cases hx
    · cases hx
      rw [if_neg (Bool.eq_false_iff.1 hgoes)]
      exact hacc.doubted halike.client halike.config halike.needsReconnect hown
  | failed e limit cause c₂ w' hsession hprepared hdepth hconfig hown hgoes =>
    obtain ⟨_, hx, -⟩ | ⟨_, hx, rfl⟩ := hend
    · cases hx
    · cases hx
      rw [if_neg (Bool.eq_false_iff.1 hgoes)]
      refine hacc.move hsession hconfig ?_ hown (fun _ => ?_) (hbegins limit (by simp)) fun _ _ => .inl ⟨hz, hs⟩
      · intro e he
        exact hacc.inner e (hprepared ▸ he)
      · simp [Entry.turn?]
  | answered rows limit c₂ w' hlimited halike hown =>
    obtain ⟨_, -, rfl⟩ | ⟨_, hx, -⟩ := hend
    swap
    · cases hx
    have hclient : c'.client = c.client := halike.client
    have hown' : w'.own c'.client.id = w.own c.client.id ++
        [.received c.client.session (.query "BEGIN") limit, .succeeded c.client.session (.query "BEGIN")] := by
      rw [hclient]
      exact hown
    refine ⟨fun _ => ⟨w.own c.client.id ++ [.received c.client.session (.query "BEGIN") limit], [], ?_, by simp, ?_, ?_⟩,
      ?_, ?_⟩
    · rw [hown', hclient, List.append_assoc]
      rfl
    · exact ⟨limit, (congrArg Config.executeLimit halike.config).trans hlimited⟩
    · intro hdepth
      exact absurd (halike.depth.symm.trans hdepth) (Nat.succ_ne_zero c.depth)
    · rw [hown']
      exact hbegins limit (by simp)
    · rw [hclient]
      exact hacc.inner

/-- **COMMIT and ROLLBACK.** The transaction is not counted any more, whatever comes of them. -/
theorem accounted_end {text : String} {x : Except Error RowSet} (hq : Queried text none c.shallower w x c' w')
    (hacc : Accounted c w) (htext : text = "COMMIT" ∨ text = "ROLLBACK") : Accounted c' w' := by
  have hbegun : ∀ limit last, (∀ s limit, last ≠ Entry.received s (.query "BEGIN") limit) →
      Begins (w.own c.client.id ++ [.received c.client.session (.query text) limit, last]) := by
    intro limit last hlast
    refine hacc.begins.append fun e he s limit' heq => ?_
    rcases List.mem_pair.1 he with rfl | rfl
    · rcases htext with rfl | rfl <;> simp at heq
    · exact hlast s limit' heq
  cases hq with
  | unlimited e c' w' hlimit halike hown =>
    have hclient : c'.client = c.client := halike.client
    have hown' : w'.own c'.client.id = w.own c.client.id := by
      rw [hclient]
      exact hown
    refine accounted_closed hacc.begins hown' (by rw [hclient]; exact hacc.inner) (eq_false_of_ne_true fun ho => ?_)
    obtain ⟨before, rest, ht⟩ := hacc.traced ho
    obtain ⟨limit, hok⟩ := ht.limited
    cases hlimit.symm.trans hok
  | late e c' w' halike hown => exact hacc.doubted halike.client halike.config halike.needsReconnect hown
  | failed e limit cause c' w' hsession hprepared hdepth hconfig hown =>
    refine hacc.move hsession hconfig ?_ hown (fun _ => by simp [Entry.turn?]) (hbegun limit _ (by simp)) fun _ _ => .inr ?_
    · rw [hprepared]
      exact hacc.inner
    · exact ⟨text, cause, htext, by simp [Connection.shallower]⟩
  | answered rows limit c' w' _ halike hown =>
    have hclient : c'.client = c.client := halike.client
    have hown' : w'.own c'.client.id = w.own c.client.id ++
        [.received c.client.session (.query text) limit, .succeeded c.client.session (.query text)] := by
      rw [hclient]
      exact hown
    refine accounted_closed (hbegun limit _ (by simp)) hown' (by rw [hclient]; exact hacc.inner) ?_
    rw [List.append_cons, inTransaction_concat]
    rcases htext with rfl | rfl <;> rfl

theorem accounted_marking {text : String} {r : Except Error Unit} (h : Marking others text c w r c' w')
    (ha : Apart others c.client.id) (hc : c.Ready) (ht : IsInner text) (hacc : Accounted c w) : Accounted c' w' := by
  obtain ⟨hran, -⟩ := ran_marking h ha hc ht
  exact accounted_worked hran.worked hacc fun hz => hran.depth.symm.trans hz

theorem accounted_start {r : Except Error Unit} (h : Ends others start c w r c' w') (ha : Apart others c.client.id)
    (hacc : Accounted c w) : Accounted c' w' := by
  obtain ⟨e, -, hc⟩ | ⟨c₁, w₁, x, c₂, hc, hs, hend⟩ := ends_start h ha
  · exact accounted_connected hc hacc
  obtain ⟨hsure, hlive, -⟩ := hc.ready
  have hacc₁ : Accounted c₁ w₁ := accounted_connected hc hacc
  have ha₁ : Apart others c₁.deeper.client.id := (hc.id.symm ▸ ha : Apart others c₁.client.id)
  have hready : c₁.deeper.Ready := ⟨hsure, hlive⟩
  cases hs with
  | outermost x c₂ w' hone hq =>
    have hz : c₁.depth = 0 := by omega
    refine accounted_begin (ends_queried_ready hq ha₁ hready) hacc₁ hsure hz ?_
    obtain ⟨hx, -, rfl⟩ | ⟨e, hx, -, rfl⟩ := hend
    · cases x with
      | ok rows => exact .inl ⟨rows, rfl, rfl⟩
      | error e => cases hx
    · cases x with
      | ok rows => cases hx
      | error e =>
        cases hx
        exact .inr ⟨e, rfl, rfl⟩
  | inner r c₂ w' hfurther hm =>
    have hinner : IsInner ("SAVEPOINT " ++ savepointName (c₁.depth + 1)) := inner_savepoint _
    have hdepth : c₂.depth = c₁.depth + 1 := (ran_marking hm ha₁ hready hinner).1.depth
    have hdeeper : Accounted c₁.deeper w₁ := hacc₁.count fun hz => absurd hz (Nat.succ_ne_zero _)
    have hacc₂ : Accounted c₂ w' := accounted_marking hm ha₁ hready hinner hdeeper
    obtain ⟨-, -, rfl⟩ | ⟨e, -, -, rfl⟩ := hend
    · exact hacc₂
    · split
      · exact hacc₂
      · exact hacc₂.count fun hz => by omega

/-- a transaction that is left: what follows is accounted for, if it is so in a session that is there -/
theorem accounted_leaving {r : Except Error Nat} (hl : Leaving others c w r c₁ w₁) (hacc : Accounted c w)
    (work : ∀ c₂ : Connection, r = .ok c₂.depth → c₁ = c₂.shallower → 0 < c₂.depth → c₂.Ready → Accounted c₂ w₁ →
      c₂.client.id = c.client.id → Accounted c' w')
    (other : (∀ depth, r ≠ .ok (depth + 1)) → Accounted c₁ w₁ → Accounted c' w') : Accounted c' w' := by
  cases hl with
  | outside hz =>
    refine other (by simp) (hacc.alike ⟨rfl, ?_, rfl, rfl⟩ rfl)
    simp [Connection.shallower, hz]
  | unconnected e c₁ w₁ _ hc => exact other (by simp) (accounted_connected hc hacc)
  | left c₂ w₂ hopen hc =>
    obtain ⟨hsure, hlive, hdepth⟩ := hc.ready
    exact work c₂ rfl rfl (by omega) ⟨hsure, hlive⟩ (accounted_connected hc hacc) hc.id

theorem accounted_commit {r : Except Error Unit} (h : Ends others commit c w r c' w') (ha : Apart others c.client.id)
    (hacc : Accounted c w) : Accounted c' w' := by
  cases ends_commit h ha with
  | unconnected e c' w' hl => exact accounted_leaving hl hacc (by simp) fun _ hacc' => hacc'
  | counted depth c' w' hinner hl =>
    refine accounted_leaving hl hacc (fun c₂ hr hshallow hpos _ hacc₂ _ => ?_) fun _ hacc' => hacc'
    have hdepth : depth = c₂.depth := Except.ok.inj hr
    rw [hshallow]
    exact hacc₂.count fun hz => by omega
  | sent c₁ w₁ x c' w' hl hq =>
    refine accounted_leaving hl hacc (fun c₂ _ hshallow _ hready hacc₂ hid => ?_) fun hn => absurd rfl (hn 0)
    subst hshallow
    exact accounted_end (ends_queried_ready hq (hid.symm ▸ ha) ⟨hready.sure, hready.live⟩) hacc₂ (.inl rfl)

theorem accounted_rollback {r : Except Error Unit} (h : Ends others rollback c w r c' w')
    (ha : Apart others c.client.id) (hacc : Accounted c w) : Accounted c' w' := by
  cases ends_rollback h ha with
  | unconnected e c' w' hl => exact accounted_leaving hl hacc (by simp) fun _ hacc' => hacc'
  | outside c' w' hl =>
    refine accounted_leaving hl hacc (fun c₂ hr _ hpos => ?_) fun _ hacc' => hacc'
    exact absurd (Except.ok.inj hr) (Nat.ne_of_lt hpos)
  | outermost c₁ w₁ x c' w' hl hq =>
    refine accounted_leaving hl hacc (fun c₂ _ hshallow _ hready hacc₂ hid => ?_) fun hn => absurd rfl (hn 0)
    subst hshallow
    exact accounted_end (ends_queried_ready hq (hid.symm ▸ ha) ⟨hready.sure, hready.live⟩) hacc₂ (.inr rfl)
  | inner depth c₁ w₁ r c' w' hd hl hm =>
    refine accounted_leaving hl hacc (fun c₂ hr hshallow _ hready hacc₂ hid => ?_) fun hn => ?_
    · subst hshallow
      have hdepth : depth = c₂.depth := Except.ok.inj hr
      refine accounted_marking hm (hid.symm ▸ ha) ⟨hready.sure, hready.live⟩ (inner_rollbackTo _) ?_
      exact hacc₂.count fun hz => by omega
    · obtain ⟨n, rfl⟩ : ∃ n, depth = n + 1 := Nat.exists_eq_succ_of_ne_zero (by omega)
      exact absurd rfl (hn n)

theorem accounted_beforeUse {r : Except Error Unit} (h : Ends others beforeUse c w r c' w')
    (ha : Apart others c.client.id) (hacc : Accounted c w) : Accounted c' w' := by
  cases ends_beforeUse h ha with
  | failed e c' w' _ hr => exact accounted_renewed hr hacc
  | renewed c₁ w₁ _ hr =>
    obtain ⟨e, heq, -⟩ | ⟨hn, hb, hi⟩ := hr.closed hacc
    · cases heq
    · exact accounted_closed hb rfl hi hn
  | settled c' _ _ halike => exact hacc.alike halike rfl
  | undone c₁ r c' w' _ _ halike hu =>
    have hclient : c₁.client = c.client := halike.client
    have hone : Accounted { c with depth := 1 } w := hacc.count fun hz => absurd hz Nat.one_ne_zero
    exact accounted_rollback hu (hclient ▸ ha) (hone.alike halike rfl)

/-- **Accounts are kept**, by every act of callers who begin and end no transactions by statements of their own. -/
theorem accounted_act {α : Type} {a : Act α} {r : Except Error α} (h : Ends others a.perform c w r c' w')
    (ha : Apart others c.client.id) (hallowed : a.Allowed IsInner true c) (hacc : Accounted c w) :
    Accounted c' w' := by
  cases a with
  | primitive p =>
    obtain ⟨hwrites, hfits⟩ := hallowed
    cases p with
    | start => exact accounted_start h ha hacc
    | commit => exact accounted_commit h ha hacc
    | rollback => exact accounted_rollback h ha hacc
    | totalCount =>
      have hplain : IsPlain foundRowsText := by decide
      exact accounted_course (course_primitive (p := .totalCount) h ha hplain.inner hacc.inner hfits) hacc
    | connect => exact accounted_course (course_primitive (p := .connect) h ha trivial hacc.inner hfits) hacc
    | prepare s own =>
      exact accounted_course (course_primitive (p := .prepare s own) h ha hwrites hacc.inner hfits) hacc
    | execute s own =>
      exact accounted_course (course_primitive (p := .execute s own) h ha hwrites hacc.inner hfits) hacc
    | executePrepared p own =>
      exact accounted_course (course_primitive (p := .executePrepared p own) h ha trivial hacc.inner hfits) hacc
    | query text own =>
      exact accounted_course (course_primitive (p := .query text own) h ha hwrites hacc.inner hfits) hacc
    | escape text =>
      exact accounted_course (course_primitive (p := .escape text) h ha trivial hacc.inner hfits) hacc
  | reconnect => exact accounted_renewed (ends_reconnect h ha) hacc
  | disconnect =>
    obtain ⟨-, rfl, gone, hg, hown⟩ := ends_disconnect h ha
    exact hacc.idle (fun e he => .inl (hg e he)) (.refl _) hown
  | beforeUse => exact accounted_beforeUse h ha hacc

/-- a connection that was made ready for another holder counts no transaction, and relies on its session -/
theorem beforeUse_ok (h : Ends others beforeUse c w (.ok ()) c' w') (ha : Apart others c.client.id) :
    c'.depth = 0 ∧ c'.needsReconnect = false := by
  cases ends_beforeUse h ha with
  | renewed c₁ w₁ _ hr =>
    cases hr with
    | opened idle c₁ w₁ _ _ halike _ => exact ⟨rfl, halike.needsReconnect⟩
  | settled c' hsure hz halike => exact ⟨halike.depth.trans hz, halike.needsReconnect.trans hsure⟩
  | undone c₁ r c' w' hsure _ halike hu =>
    have hclient : c₁.client = c.client := halike.client
    have hone : c₁.depth = 1 := halike.depth
    cases course_untold (p := .rollback) hu (hclient ▸ ha) trivial with
    | still r c' w' _ _ hdepth _ =>
      rw [hone] at hdepth
      cases hdepth
    | within r c' w' _ _ hdepth htold =>
      rw [hone] at hdepth
      exact ⟨hdepth, (htold.ready () rfl).sure⟩
    | anew c₂ w₂ r c' w' _ hr _ hdepth htold =>
      cases hr with
      | opened idle c₂ w₂ _ _ halike' _ =>
        have hone' : c₂.depth = 1 := halike'.depth.trans hone
        rw [hone'] at hdepth
        exact ⟨hdepth, (htold.ready () rfl).sure⟩

end Op

/-! ## Ways -/

theorem accounted_way (h : Way others IsInner true (fun _ => True) c₀ w₀ c w) (ha : Apart others c₀.client.id)
    (hacc : Accounted c₀ w₀) : Accounted c w := by
  induction h with
  | here => exact hacc
  | edited c c' w _ halike ih => exact ih.alike halike rfl
  | shared c w w' _ hown ih => exact ih.alike (.refl c) hown
  | act c w a r c' w' hway _ hallowed hends ih => exact Op.accounted_act hends (hway.apart ha) hallowed ih

theorem accounted_fresh {id : Nat} {config : Config} {registry : Query.Registry} (h : w.own id = []) :
    Accounted (.new (.new id) config registry) w := by
  have hown : w.own (Connection.new (.new id) config registry).client.id = [] := h
  refine accounted_closed ?_ hown (by simp [Connection.new, Client.new]) rfl
  intro before rest s limit heq
  simp at heq

/-- **Leftover transactions.** Callers who begin and end no transactions by statements of their own go ways of acts,
from a fresh connection on. When the connection counts no transaction and relies on its session, that session has one
open if and only if its end was refused there. So it is whenever a BEGIN is received, and when a connection was made
ready for another holder. -/
theorem leftover_transaction {id : Nat} (ha : Apart others id) (config : Config) (registry : Query.Registry)
    {w₀ : World} (hw : w₀.own id = []) :
    (∀ {α : Type} (work : Program (Use IsInner true) α) (r : Except Error α) (c : Connection) (w : World),
      Op.Ends others (work.op Use.perform) (.new (.new id) config registry) w₀ r c w →
        Way others IsInner true (fun _ => True) (.new (.new id) config registry) w₀ c w) ∧
    ∀ (c : Connection) (w : World),
      Way others IsInner true (fun _ => True) (.new (.new id) config registry) w₀ c w →
      (c.depth = 0 → c.needsReconnect = false →
        (inTransaction (w.own id) = true ↔ LeftOpen c.client.session (w.own id))) ∧
      (∀ before rest s limit, w.own id = before ++ .received s (.query "BEGIN") limit :: rest →
        (inTransaction before = true ↔ LeftOpen s before)) ∧
      ∀ (c' : Connection) (w' : World), Op.Ends others Op.beforeUse c w (.ok ()) c' w' →
        c'.depth = 0 ∧ c'.needsReconnect = false ∧
          (inTransaction (w'.own id) = true ↔ LeftOpen c'.client.session (w'.own id)) := by
  have hfresh : Accounted (.new (.new id) config registry) w₀ := accounted_fresh hw
  refine ⟨fun work r c w h => made_program (fun _ => IsPlain.inner) work others _ _ r c w ha h, fun c w hway => ?_⟩
  have hid : c.client.id = id := hway.id ha
  have hapart : Apart others c.client.id := hway.apart ha
  have hacc : Accounted c w := accounted_way hway ha hfresh
  refine ⟨fun hz hs => ⟨?_, LeftOpen.inTransaction⟩, fun before rest s limit heq => ⟨?_, LeftOpen.inTransaction⟩,
    fun c' w' h => ?_⟩
  · rw [← hid]
    exact hacc.leftOpen hz hs
  · rw [← hid] at heq
    exact hacc.begins before rest s limit heq
  · obtain ⟨hz, hs⟩ := Op.beforeUse_ok h hapart
    have hacc' : Accounted c' w' := Op.accounted_beforeUse h hapart hacc
    have hallowed : Act.beforeUse.Allowed IsInner true c := trivial
    have hid' : c'.client.id = c.client.id := Op.act_id (a := .beforeUse) h hapart hallowed
    refine ⟨hz, hs, ?_, LeftOpen.inTransaction⟩
    rw [← hid, ← hid']
    exact hacc'.leftOpen hz hs

/-- a transaction whose commit is refused, but not because the session is lost -/
def refusedWork : Program (Use IsInner true) Answer :=
  .step (.operation .start trivial) fun _ =>
    .step (.operation (.arrange fun s => { s with runFailures := [⟨1205, "Lock wait timeout exceeded"⟩] })
      fun _ => rfl) fun _ => .step (.operation .commit trivial) fun r => .finish r

/-- the commit is refused, the connection is made ready for another holder, and the transaction is still open -/
theorem leftover_transaction_refused :
    let run := (refusedWork.op Use.perform (.new (.new 0) .standard .empty)).run 0 .fresh
    let next := (Op.beforeUse run.1.2).run run.2.1 run.2.2
    next.1.1 = .ok () ∧ next.2.2.own 0 = run.2.2.own 0 ∧ next.1.2.depth = 0 ∧ next.1.2.needsReconnect = false ∧
      inTransaction (next.2.2.own 0) = true ∧ LeftOpen next.1.2.client.session (next.2.2.own 0) := by
  generalize hrun : (refusedWork.op Use.perform (.new (.new 0) .standard .empty)).run 0 .fresh = run
  dsimp only
  generalize hnext : (Op.beforeUse run.1.2).run run.2.1 run.2.2 = next
  have hok : next.1.1 = .ok () := by
    rw [← hnext, ← hrun]
    rfl
  have hown : next.2.2.own 0 = run.2.2.own 0 := by
    rw [← hnext, ← hrun]
    rfl
  have hopen : inTransaction (next.2.2.own 0) = true := by
    rw [← hnext, ← hrun]
    decide +kernel
  have alone : Apart (· = ·) 0 := by
    rintro w _ rfl
    rfl
  have hends := Op.ends_of_run (fun _ _ => rfl) hrun (Timed.throughout_of_forall (fun _ => trivial) _ _)
  have hready := Op.ends_of_run (fun _ _ => rfl) hnext (Timed.throughout_of_forall (fun _ => trivial) _ _)
  rw [hok] at hready
  have hnew : World.fresh.own 0 = [] := rfl
  obtain ⟨hmade, hway⟩ := leftover_transaction alone .standard .empty hnew
  obtain ⟨-, -, hbeforeUse⟩ := hway run.1.2 run.2.2 (hmade refusedWork _ _ _ hends)
  obtain ⟨hz, hs, hleft⟩ := hbeforeUse next.1.2 next.2.2 hready
  exact ⟨hok, hown, hz, hs, hopen, hleft.1 hopen⟩

end SqlSession
