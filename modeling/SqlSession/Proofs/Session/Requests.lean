/-
What statements ask a server for.

A statement may be kept waiting, fail or be lost in many ways, but all that is asked for on its behalf has its text, in
one session. `Ran` says so of what happens behind the connect, `Sent` of all of it, and `Stated` also what the caller is
told of it.
- `stated_prepare`, `stated_execute`, `stated_executePrepared`, `stated_query`: how each statement ends;
- `Sent.requests`: a statement sends nothing but its text;
- `Op.ends_query_ok`: a statement that succeeded without being prepared was run once, in the session that was made sure
  of.
-/
import SqlSession.Proofs.Session.Traffic

namespace SqlSession

namespace Error

def isTimeout : Error → Bool
  | timeout _ _ => true
  | _ => false

/-- a statement failed, and its session is not to be relied on any more: it was reported lost, or time ran out -/
def isDoubtful (e : Error) : Bool :=
  e.statement?.isSome && (e.isLoss || e.isTimeout)

end Error

/-- there is a session, and it is relied on -/
structure Connection.Ready (c : Connection) : Prop where
  sure : c.needsReconnect = false
  live : c.client.connected = true

theorem mem_of_lookup {κ α : Type} [BEq κ] [LawfulBEq κ] {entries : List (κ × α)} {key : κ} {x : α}
    (h : entries.lookup key = some x) : (key, x) ∈ entries := by
  obtain ⟨front, back, rfl, -⟩ := List.lookup_eq_some_iff.1 h
  simp

/-- entries about requests in one session, all with such texts -/
def About (session : SessionId) (T : String → Prop) (entries : List Entry) : Prop :=
  ∀ e ∈ entries, ∃ request, e.request? = some (session, request) ∧ T request.text

theorem About.append {session : SessionId} {T : String → Prop} {a b : List Entry} (ha : About session T a)
    (hb : About session T b) : About session T (a ++ b) :=
  fun e he => (List.mem_append.1 he).elim (ha e) (hb e)

theorem About.requests {session : SessionId} {T : String → Prop} {entries : List Entry} (h : About session T entries) :
    ∀ e ∈ entries, ∀ session' request, e.request? = some (session', request) → T request.text := by
  intro e he session' request heq
  obtain ⟨request', heq', ht⟩ := h e he
  cases heq.symm.trans heq'
  exact ht

/-- what a call may do to its client, and what it asks for -/
structure Asked {α : Type} (T : String → Prop) (client : Client) (w : World) (x : Except NativeError α)
    (client' : Client) (w' : World) : Prop where
  session : client'.session = client.session
  prepared : ∀ e ∈ client'.prepared, e ∈ client.prepared ∨ T e.2
  connected : client'.connected = client.connected ∨ ∃ cause, x = .error cause ∧ isLossText cause.message = true
  own : ∃ news, About client.session T news ∧ w'.own client.id = w.own client.id ++ news

section

variable {others : World → World → Prop} {T : String → Prop} {limit : Option Duration} {client client' : Client}
  {w w' : World}

theorem session_told (client : Client) (cause : NativeError) : (client.told cause).session = client.session := by
  unfold Client.told; split <;> rfl

theorem prepared_told (client : Client) (cause : NativeError) : (client.told cause).prepared = client.prepared := by
  unfold Client.told; split <;> rfl

theorem connected_told (client : Client) (cause : NativeError) :
    (client.told cause).connected = client.connected ∨ isLossText cause.message = true := by
  unfold Client.told
  split
  · next h => exact .inr h
  · exact .inl rfl

/-- a request that was received and came to something -/
theorem About.pair {session : SessionId} (request : Request) {a b : Entry}
    (ha : a.request? = some (session, request)) (hb : b.request? = some (session, request)) (ht : T request.text) :
    About session T [a, b] := by
  intro e he
  simp only [List.mem_cons, List.not_mem_nil, or_false] at he
  rcases he with rfl | rfl
  · exact ⟨request, ha, ht⟩
  · exact ⟨request, hb, ht⟩

theorem asked_preparing {text : String} {x : Except NativeError Nat}
    (h : Preparing others limit client text w x client' w') (ha : Apart others client.id) (ht : T text) :
    Asked T client w x client' w' := by
  cases h with
  | late d w₁ hs _ _ => exact ⟨rfl, fun e he => .inl he, .inl rfl, [], by simp [About], by simp [ha _ _ hs]⟩
  | failed cause rest w₁ w₂ w₃ hs hs' hs'' _ =>
    have h₂ : w₂.own client.id = w.own client.id := (ha _ _ hs').trans (ha _ _ hs)
    have h₃ := (ha _ _ hs'').trans (own_note h₂ rfl)
    exact ⟨rfl, fun e he => .inl he, .inl rfl, _, .pair (.prepare text) rfl rfl ht, own_note_pair h₃ rfl⟩
  | prepared w₁ w₂ w₃ hs hs' hs'' =>
    have h₂ : w₂.own client.id = w.own client.id := (ha _ _ hs').trans (ha _ _ hs)
    have h₃ := (ha _ _ hs'').trans (own_note h₂ rfl)
    refine ⟨rfl, fun e he => ?_, .inl rfl, _, .pair (.prepare text) rfl rfl ht, own_note_pair h₃ rfl⟩
    rcases List.mem_cons.1 he with rfl | he
    · exact .inr ht
    · exact .inl he

/-- the end of a request whose receipt is in the ledger already -/
theorem asked_answering {request : Request} {received : Entry} {x : Except NativeError Reply}
    (h : Answering others client request w x client' w') (ha : Apart others client.id) {w₀ : World}
    (hr : received.request? = some (client.session, request)) (hown : w.own client.id = w₀.own client.id ++ [received])
    (ht : T request.text) : Asked T client w₀ x client' w' := by
  cases h with
  | failed cause rest w₁ hs _ =>
    have h₁ := (ha _ _ hs).trans hown
    refine ⟨session_told client cause, fun e he => .inl (by rwa [prepared_told] at he), ?_, _, .pair request hr rfl ht,
      own_note_pair h₁ rfl⟩
    exact (connected_told client cause).imp id fun hl => ⟨cause, rfl, hl⟩
  | answered reply w₁ hs =>
    have h₁ := (ha _ _ hs).trans hown
    exact ⟨rfl, fun e he => .inl he, .inl rfl, _, .pair request hr rfl ht, own_note_pair h₁ rfl⟩

theorem asked_executing {handle : Nat} {binds : List Datum} {x : Except NativeError Reply}
    (h : Executing others limit client handle binds w x client' w') (ha : Apart others client.id)
    (ht : ∀ text, client.prepared.lookup handle = some text → T text) : Asked T client w x client' w' := by
  cases h with
  | unknown _ => exact ⟨rfl, fun e he => .inl he, .inl rfl, [], by simp [About], by simp⟩
  | late d text w₁ w₂ hk hs hs' _ _ =>
    have h₂ := (ha _ _ hs').trans (own_note (ha _ _ hs) rfl)
    exact ⟨rfl, fun e he => .inl he, .inl rfl, _, by simp [About, Entry.request?, Request.text, ht text hk], h₂⟩
  | run text w₁ w₂ w' x client' hk hs hs' h =>
    have h₂ := (ha _ _ hs').trans (own_note (ha _ _ hs) rfl)
    exact asked_answering h ha rfl h₂ (ht text hk)

theorem asked_querying {text : String} {x : Except NativeError Reply}
    (h : Querying others limit client text w x client' w') (ha : Apart others client.id) (ht : T text) :
    Asked T client w x client' w' := by
  cases h with
  | late d w₁ hs _ _ => exact ⟨rfl, fun e he => .inl he, .inl rfl, [], by simp [About], by simp [ha _ _ hs]⟩
  | run w₁ w₂ w' x client' hs hs' h =>
    have h₂ : w₂.own client.id = w.own client.id := (ha _ _ hs').trans (ha _ _ hs)
    exact asked_answering h ha rfl (own_note h₂ rfl) ht

end

/-! ## Statements -/

open Connection (Alike)

namespace Op

variable {others : World → World → Prop} {T : String → Prop} {c c' c₁ : Connection} {w w' w₁ : World}

/-- what a statement may do to its connection behind the connect, and what it asks for -/
structure Ran (T : String → Prop) (c : Connection) (w : World) (c' : Connection) (w' : World) : Prop where
  session : c'.client.session = c.client.session
  depth : c'.depth = c.depth
  config : c'.config = c.config
  prepared : ∀ e ∈ c'.client.prepared, e ∈ c.client.prepared ∨ T e.2
  sure : c'.needsReconnect = false → c.needsReconnect = false ∧ c'.client.connected = c.client.connected
  own : ∃ news, About c.client.session T news ∧ w'.own c.client.id = w.own c.client.id ++ news

theorem ran_of_alike (h : Alike c c') (hown : w'.own c.client.id = w.own c.client.id) : Ran T c w c' w' where
  session := by rw [h.client]
  depth := h.depth
  config := h.config
  prepared := fun e he => .inl (by rwa [h.client] at he)
  sure := fun hs => ⟨by rwa [h.needsReconnect] at hs, by rw [h.client]⟩
  own := ⟨[], by simp [About], by simpa using hown⟩

theorem Ran.id (h : Ran T c w c' w') : c'.client.id = c.client.id := congrArg SessionId.client h.session

theorem Ran.trans (h : Ran T c w c₁ w₁) (h' : Ran T c₁ w₁ c' w') : Ran T c w c' w' where
  session := h'.session.trans h.session
  depth := h'.depth.trans h.depth
  config := h'.config.trans h.config
  prepared := fun e he => (h'.prepared e he).elim (h.prepared e) .inr
  sure := by
    intro hs
    obtain ⟨h₁, hc⟩ := h'.sure hs
    obtain ⟨h₀, hc'⟩ := h.sure h₁
    exact ⟨h₀, hc.trans hc'⟩
  own := by
    obtain ⟨a, ha, hown⟩ := h.own
    obtain ⟨b, hb, hown'⟩ := h'.own
    rw [h.session] at hb
    rw [Ran.id h, hown, List.append_assoc] at hown'
    exact ⟨a ++ b, ha.append hb, hown'⟩

/-- the record of a failure marks a session that was reported lost -/
theorem ran_failure {α : Type} {cause : NativeError} {client : Client}
    (h : Asked (α := α) T c.client w (.error cause) client w₁) (hown : w'.own c.client.id = w₁.own c.client.id) :
    Ran T c w ({ c with client }.recordFailure cause) w' where
  session := h.session
  depth := rfl
  config := rfl
  prepared := h.prepared
  sure := by
    intro hs
    simp only [Connection.recordFailure, Bool.or_eq_false_iff] at hs
    refine ⟨hs.1.1, h.connected.elim id ?_⟩
    rintro ⟨_, heq, hl⟩
    cases heq
    exact absurd (hs.1.2.symm.trans hl) (by decide)
  own := by
    obtain ⟨news, hn, hown'⟩ := h.own
    exact ⟨news, hn, hown.trans hown'⟩

theorem ran_success {α : Type} {x : α} {client : Client} (h : Asked T c.client w (.ok x) client w₁)
    (halike : Alike { c with client } c') (hown : w'.own c.client.id = w₁.own c.client.id) : Ran T c w c' w' where
  session := by rw [halike.client]; exact h.session
  depth := halike.depth
  config := halike.config
  prepared := by rw [halike.client]; exact h.prepared
  sure := by
    intro hs
    rw [halike.needsReconnect] at hs
    rw [halike.client]
    refine ⟨hs, h.connected.elim id ?_⟩
    rintro ⟨_, heq, -⟩
    cases heq
  own := by
    obtain ⟨news, hn, hown'⟩ := h.own
    exact ⟨news, hn, hown.trans hown'⟩

/-- all that is asked for on behalf of a statement has its text -/
inductive Sent (others : World → World → Prop) (T : String → Prop) (c : Connection) (w : World) :
    Connection → World → Prop
  | direct (c' : Connection) (w' : World) (ran : Ran T c w c' w') : Sent others T c w c' w'
  | unconnected (e : Error) (c' : Connection) (w' : World) (connected : Connected others c w (.error e) c' w') :
      Sent others T c w c' w'
  | connected (c₁ : Connection) (w₁ : World) (c' : Connection) (w' : World)
      (connected : Connected others c w (.ok ()) c₁ w₁) (ran : Ran T c₁ w₁ c' w') : Sent others T c w c' w'

theorem Opened.id {lost : Nat} {r : Except Error Unit} (h : Opened others lost c w r c' w') :
    c'.client.id = c.client.id := by
  cases h with
  | failed e refused c' w' _ alike _ _ => rw [alike.client]
  | opened refused c' w' _ _ alike _ => rw [alike.client]; rfl
  | lost refused c' w' _ _ alike _ => rw [alike.client]; rfl

theorem Connected.id {r : Except Error Unit} (h : Connected others c w r c' w') : c'.client.id = c.client.id := by
  cases h with
  | live _ _ => rfl
  | fresh r c' w' _ _ h => exact h.id
  | again gone w₁ r c' w' _ _ _ h => exact h.id.trans (id_shut c.client)

/-- a connect prepares nothing -/
theorem Opened.prepared {lost : Nat} {r : Except Error Unit} (h : Opened others lost c w r c' w') :
    c'.client.prepared = c.client.prepared := by
  cases h with
  | failed e refused c' w' _ alike _ _ => rw [alike.client]
  | opened refused c' w' _ _ alike _ => rw [alike.client]; rfl
  | lost refused c' w' _ _ alike _ => rw [alike.client]; rfl

theorem Connected.prepared {r : Except Error Unit} (h : Connected others c w r c' w') :
    ∀ e ∈ c'.client.prepared, e ∈ c.client.prepared := by
  intro e he
  cases h with
  | live _ _ => exact he
  | fresh r c' w' _ _ h => exact h.prepared ▸ he
  | again gone w₁ r c' w' _ _ _ h =>
    rw [h.prepared] at he
    exact prepared_shut e he

/-- a connect asks for nothing -/
theorem Opened.own {lost : Nat} {r : Except Error Unit} (h : Opened others lost c w r c' w') :
    ∃ news, (∀ e ∈ news, e.request? = none) ∧ w'.own c.client.id = w.own c.client.id ++ news := by
  have hr : ∀ refused, Refusals c.client.id refused → ∀ e ∈ refused, e.request? = none := by
    intro refused h e he
    rw [h e he]
    rfl
  have ho : ∀ refused, Refusals c.client.id refused →
      ∀ e ∈ refused ++ [.opened c.client.opened.session], e.request? = none := by
    intro refused h e he
    rcases List.mem_append.1 he with he | he
    · exact hr refused h e he
    · rw [List.mem_singleton.1 he]
      rfl
  cases h with
  | failed e refused c' w' h _ hown _ => exact ⟨refused, hr refused h, hown⟩
  | opened refused c' w' h _ _ hown => exact ⟨_, ho refused h, by rw [hown, List.append_assoc]⟩
  | lost refused c' w' h _ _ hown => exact ⟨_, ho refused h, by rw [hown, List.append_assoc]⟩

theorem Connected.own {r : Except Error Unit} (h : Connected others c w r c' w') :
    ∃ news, (∀ e ∈ news, e.request? = none) ∧ w'.own c.client.id = w.own c.client.id ++ news := by
  cases h with
  | live _ _ => exact ⟨[], by simp, by simp⟩
  | fresh r c' w' _ _ h => exact h.own
  | again gone w₁ r c' w' _ hg hown h =>
    obtain ⟨news, hn, hown'⟩ := h.own
    have hown'' : w'.own c.client.id = w₁.own c.client.id ++ news := by simpa only [id_shut] using hown'
    refine ⟨gone ++ news, fun e he => ?_, by rw [hown'', hown, List.append_assoc]⟩
    rcases List.mem_append.1 he with he | he
    · rw [hg e he]
      rfl
    · exact hn e he

/-- **Nothing else is sent.** All requests on behalf of a statement have its text. -/
theorem Sent.requests (h : Sent others T c w c' w') :
    ∃ news, w'.own c.client.id = w.own c.client.id ++ news ∧
      ∀ e ∈ news, ∀ session request, e.request? = some (session, request) → T request.text := by
  cases h with
  | direct c' w' ran =>
    obtain ⟨news, hn, hown⟩ := ran.own
    exact ⟨news, hown, hn.requests⟩
  | unconnected e c' w' hc =>
    obtain ⟨news, hn, hown⟩ := hc.own
    exact ⟨news, hown, fun e he session request heq => by simp [hn e he] at heq⟩
  | connected c₁ w₁ c' w' hc ran =>
    obtain ⟨front, hf, hown⟩ := hc.own
    obtain ⟨news, hn, hown'⟩ := ran.own
    rw [hc.id, hown, List.append_assoc] at hown'
    refine ⟨front ++ news, hown', fun e he session request heq => ?_⟩
    rcases List.mem_append.1 he with he | he
    · simp [hf e he] at heq
    · exact hn.requests e he session request heq

/-! ## What they tell -/

variable {α : Type}

/-- what comes of a call in a session that is there: after a success it still is, nothing is told of a lost transaction,
and an error that makes the session doubtful has marked it -/
structure Told (r : Except Error α) (c' : Connection) : Prop where
  ready : ∀ x, r = .ok x → c'.Ready
  kept : ∀ d, r ≠ .error (.transactionLost d)
  marked : ∀ e, r = .error e → e.isDoubtful = true → c'.needsReconnect = true

theorem told_ok {x : α} (h : c'.Ready) : Told (.ok x) c' where
  ready := fun _ _ => h
  kept := by simp
  marked := by simp

theorem told_overflow : Told (α := α) (.error .secondsOverflow) c' where
  ready := by simp
  kept := by simp
  marked := by
    rintro e ⟨⟩ hd
    cases hd

theorem Told.error {β : Type} {e : Error} (h : Told (α := α) (.error e) c') : Told (α := β) (.error e) c' where
  ready := by simp
  kept := fun d hd => h.kept d (congrArg Except.error (Except.error.inj hd))
  marked := fun e' he => h.marked e' (congrArg Except.error (Except.error.inj he))

theorem Told.map {β : Type} {r : Except Error α} (h : Told r c') (f : α → β) : Told (r.map f) c' := by
  cases r with
  | ok x => exact told_ok (h.ready x rfl)
  | error e => exact h.error

theorem span_error {seconds : Option Float} {e : Error} (h : Config.span seconds = .error e) :
    e = .secondsOverflow := by
  unfold Config.span at h
  split at h
  · cases h
  · split at h
    · cases h
    · exact (Except.error.inj h).symm

theorem limit_error {own : Option Duration} {e : Error} (h : c.limit own = .error e) : e = .secondsOverflow := by
  unfold Connection.limit at h
  split at h
  · cases h
  · exact span_error h

/-- an error that makes the session doubtful has a cause that does -/
theorem Blamed.doubts {kind : NativeError → String → Error} {cause : NativeError} {e : Error}
    (hk : kind = .prepare ∨ kind = .execute) (h : Blamed kind cause e) (hd : e.isDoubtful = true) :
    Connection.doubts cause = true := by
  cases h with
  | timeout statement out => simp [Connection.doubts, out]
  | refusal statement _ =>
    have hkind : (kind cause statement).isDoubtful = isLossText cause.message := by
      rcases hk with rfl | rfl <;> simp [Error.isDoubtful, Error.statement?, Error.isLoss, Error.cause?, Error.isTimeout]
    simp [Connection.doubts, ← hkind, hd]

/-- a failed statement tells nothing of transactions -/
theorem Blamed.kept {kind : NativeError → String → Error} {cause : NativeError} {e : Error}
    (hk : kind = .prepare ∨ kind = .execute) (h : Blamed kind cause e) (depth : Nat) : e ≠ .transactionLost depth := by
  cases h with
  | timeout statement out => simp
  | refusal statement _ => rcases hk with rfl | rfl <;> simp

theorem told_failure {kind : NativeError → String → Error} {cause : NativeError} {e : Error}
    (hk : kind = .prepare ∨ kind = .execute) (h : Blamed kind cause e) (c : Connection) :
    Told (α := α) (.error e) (c.recordFailure cause) where
  ready := by simp
  kept := fun d heq => h.kept hk d (Except.error.inj heq)
  marked := by
    rintro _ ⟨⟩ hd
    have hdoubts := h.doubts hk hd
    rw [(Connection.alike_recordFailure c cause).needsReconnect, hdoubts, Bool.or_true]

/-- a call that succeeded in a live session leaves it live -/
theorem ready_asked {x : α} {client : Client} (h : Asked T c.client w (.ok x) client w₁) (hc : c.Ready)
    (ha : Alike { c with client } c') : c'.Ready where
  sure := ha.needsReconnect.trans hc.sure
  live := by
    have hl : client.connected = true := by
      rcases h.connected with heq | ⟨_, heq, -⟩
      · exact heq.trans hc.live
      · cases heq
    exact (congrArg Client.connected ha.client).trans hl

/-- what is recorded and told at the end of a statement that was run -/
theorem told_concluded {x : Except NativeError Reply} {r : Except Error Reply} {client : Client}
    (h : Asked T c.client w x client w₁) (hc : c.Ready) (hr : Concluded { c with client } x r c') : Told r c' := by
  cases hr with
  | failed cause e hb => exact told_failure (.inr rfl) hb _
  | answered reply => exact told_ok (ready_asked h hc (Connection.alike_recordSuccess _ reply))

/-- how a statement ends: without a limit nothing was tried, without a session it was not sent, and all that was asked
for in the session that was made sure of has its text -/
inductive Stated (others : World → World → Prop) (T : String → Prop) (c : Connection) (w : World) :
    Except Error α → Connection → World → Prop
  | untried : Stated others T c w (.error .secondsOverflow) c w
  | unconnected (e : Error) (c' : Connection) (w' : World) (connected : Connected others c w (.error e) c' w') :
      Stated others T c w (.error e) c' w'
  | connected (c₁ : Connection) (w₁ : World) (r : Except Error α) (c' : Connection) (w' : World)
      (connected : Connected others c w (.ok ()) c₁ w₁) (ran : Ran T c₁ w₁ c' w') (told : Told r c') :
      Stated others T c w r c' w'

theorem Stated.sent {r : Except Error α} (h : Stated others T c w r c' w') : Sent others T c w c' w' := by
  cases h with
  | untried => exact .direct _ _ (ran_of_alike (.refl _) rfl)
  | unconnected e c' w' hc => exact .unconnected e c' w' hc
  | connected c₁ w₁ r c' w' hc ran _ => exact .connected c₁ w₁ c' w' hc ran

theorem Stated.ready {x : α} (h : Stated others T c w (.ok x) c' w') : c'.Ready := by
  cases h with
  | connected c₁ w₁ _ c' w' _ _ told => exact told.ready x rfl

/-- a result that is looked at differently is told in the same way -/
theorem Stated.map {β : Type} {r : Except Error α} (h : Stated others T c w r c' w') (f : α → β) :
    Stated others T c w (r.map f) c' w' := by
  cases h with
  | untried => exact .untried
  | unconnected e c' w' hc => exact .unconnected e c' w' hc
  | connected c₁ w₁ r c' w' hc ran told => exact .connected c₁ w₁ _ c' w' hc ran (told.map f)

variable {statement : Statement} {own : Option Duration}

/-- a statement whose preparations have failed -/
theorem Begun.unstated {e : Error} (h : Begun others statement own c w (.error e) c' w') :
    Stated (α := α) others T c w (.error e) c' w' := by
  generalize hx : Except.error e = x at h
  cases h with
  | unconnected e' _ _ hc =>
    cases hx
    exact .unconnected e _ _ hc
  | connected c₀ w₀ hc =>
    rw [limit_error hx.symm]
    exact .connected c₀ _ _ _ _ hc (ran_of_alike (Connection.alike_beginStatement c₀ statement) rfl) told_overflow

/-- what follows the preparations of a statement -/
theorem Begun.stated {limit : Option Duration} {r : Except Error α} (h : Begun others statement own c w (.ok limit) c₁ w₁)
    (ran : c₁.client.id = c.client.id → (∀ e ∈ c₁.client.prepared, e ∈ c.client.prepared) → c₁.Ready →
      Ran T c₁ w₁ c' w' ∧ Told r c') :
    ∃ c₀ w₀, Connected others c w (.ok ()) c₀ w₀ ∧ Ran T c₀ w₀ c' w' ∧ Told r c' := by
  generalize hx : Except.ok limit = x at h
  cases h with
  | unconnected e _ _ _ => cases hx
  | connected c₀ w₀ hc =>
    have halike := Connection.alike_beginStatement c₀ statement
    obtain ⟨hs, hl, -⟩ := hc.ready
    obtain ⟨hran, told⟩ := ran hc.id hc.prepared ⟨hs, hl⟩
    exact ⟨c₀, _, hc, (ran_of_alike halike rfl).trans hran, told⟩

theorem Stated.of_ran {r : Except Error α}
    (h : ∃ c₀ w₀, Connected others c w (.ok ()) c₀ w₀ ∧ Ran T c₀ w₀ c' w' ∧ Told r c') :
    Stated others T c w r c' w' := by
  obtain ⟨c₀, w₀, hc, ran, told⟩ := h
  exact .connected c₀ w₀ r _ _ hc ran told

/-- what is recorded at the end of a statement that was run -/
theorem ran_concluded {x : Except NativeError Reply} {r : Except Error Reply} {client : Client}
    (h : Asked T c.client w x client w₁) (hc : Concluded { c with client } x r c')
    (hown : w'.own c.client.id = w₁.own c.client.id) : Ran T c w c' w' := by
  cases hc with
  | failed cause e _ => exact ran_failure h hown
  | answered reply => exact ran_success h (Connection.alike_recordSuccess _ reply) hown

theorem stated_query {text : String} {r : Except Error RowSet} (h : Ends others (query text own) c w r c' w')
    (ha : Apart others c.client.id) (ht : T text) : Stated others T c w r c' w' := by
  obtain ⟨e, hb, rfl⟩ | ⟨limit, c₁, w₁, x, client, w₂, reply, hb, hq, hc, hown, rfl⟩ := ends_query h ha
  · exact hb.unstated
  · refine Stated.map (.of_ran (hb.stated fun hid _ hready => ?_)) Reply.rows
    rw [← hid] at ha hown
    have hasked := asked_querying hq ha ht
    exact ⟨ran_concluded hasked hc hown, told_concluded hasked hready hc⟩

theorem stated_executePrepared {p : Prepared} {r : Except Error Reply}
    (h : Ends others (executePrepared p own) c w r c' w') (ha : Apart others c.client.id)
    (ht : ∀ e ∈ c.client.prepared, T e.2) : Stated others T c w r c' w' := by
  obtain ⟨e, hb, rfl⟩ | ⟨limit, c₁, w₁, x, client, w₂, hb, hx, hc, hown⟩ := ends_executePrepared h ha
  · exact hb.unstated
  · refine .of_ran (hb.stated fun hid hprep hready => ?_)
    rw [← hid] at ha hown
    have hasked : Asked T c₁.client w₁ x client w₂ := asked_executing hx ha fun text hl => by
      exact ht _ (hprep _ (mem_of_lookup hl))
    exact ⟨ran_concluded hasked hc hown, told_concluded hasked hready hc⟩

theorem stated_prepare {r : Except Error Prepared} (h : Ends others (prepare statement own) c w r c' w')
    (ha : Apart others c.client.id) (ht : T statement.text) :
    Stated others T c w r c' w' ∧ ∀ p, r = .ok p →
      c'.client.prepared.lookup p.handle = some statement.text ∧
        ∃ c₀ w₀, Connected others c w (.ok ()) c₀ w₀ ∧ Ran T c₀ w₀ c' w' ∧ Told r c' := by
  obtain ⟨e, hb, rfl⟩ | ⟨limit, c₁, w₁, x, client, w₂, hb, hp, hk, hown⟩ := ends_prepare h ha
  · exact ⟨hb.unstated, fun p hp => by cases hp⟩
  have hran : ∃ c₀ w₀, Connected others c w (.ok ()) c₀ w₀ ∧ Ran T c₀ w₀ c' w' ∧ Told r c' :=
    hb.stated fun hid _ hready => by
      rw [← hid] at ha hown
      have hasked := asked_preparing hp ha ht
      cases hk with
      | failed cause e hblamed =>
        exact ⟨ran_failure hasked hown, told_failure (.inl rfl) hblamed _⟩
      | prepared handle =>
        exact ⟨ran_success hasked (.refl _) hown, told_ok (ready_asked hasked hready (.refl _))⟩
  refine ⟨.of_ran hran, ?_⟩
  rintro p rfl
  obtain ⟨rfl, -, rfl⟩ := hk.ok
  generalize hx : Except.ok p.handle = x at hp
  cases hp with
  | prepared _ _ _ _ _ _ =>
    have hh : p.handle = c₁.client.nextHandle := Except.ok.inj hx
    exact ⟨by simp [Client.withPrepared, hh], hran⟩
  | _ => cases hx

theorem stated_execute {r : Except Error Reply} (h : Ends others (execute statement own) c w r c' w')
    (ha : Apart others c.client.id) (ht : T statement.text) : Stated others T c w r c' w' := by
  obtain ⟨e, hl, rfl, rfl, rfl⟩ | ⟨e, hp, rfl⟩ | ⟨limit, p, c₁, w₁, x, client, w₂, -, hp, hx, hc, hown⟩ :=
    ends_execute h ha
  · rw [limit_error hl]
    exact .untried
  · generalize hx : (Except.error e : Except Error Prepared) = x at hp
    cases (stated_prepare hp ha ht).1 with
    | untried =>
      cases hx
      exact .untried
    | unconnected e' c' w' hc =>
      cases hx
      exact .unconnected e c' w' hc
    | connected c₁ w₁ r c' w' hc ran told =>
      subst hx
      exact .connected c₁ w₁ _ c' w' hc ran told.error
  · obtain ⟨-, hok⟩ := stated_prepare hp ha ht
    obtain ⟨hl, c₀, w₀, hconn, ran, told⟩ := hok p rfl
    have hid : c₁.client.id = c.client.id := ran.id.trans hconn.id
    rw [← hid] at ha hown
    have hasked : Asked T c₁.client w₁ x client w₂ := asked_executing hx ha fun text hl' => by
      rw [hl] at hl'
      cases hl'
      exact ht
    exact .connected c₀ w₀ r _ _ hconn (ran.trans (ran_concluded hasked hc hown))
      (told_concluded hasked (told.ready p rfl) hc)

theorem ran_fetchTotalCount {r : Except Error Unit} (h : Ends others fetchTotalCount c w r c' w')
    (ha : Apart others c.client.id) (ht : T foundRowsText) :
    Ran T c w c' w' ∧ (c.Ready → Told r c') ∧ ∀ e, r = .error e → Told r c' := by
  obtain ⟨e, hl, rfl, rfl, rfl⟩ | ⟨limit, x, client, w₁, -, hq, hown, ⟨cause, e, rfl, rfl, hb, rfl⟩ | ⟨reply, count, rfl, rfl, rfl⟩⟩ :=
    ends_fetchTotalCount h ha
  · have hl' : c'.limit none = .error e := hl
    rw [limit_error hl']
    exact ⟨ran_of_alike (.refl _) rfl, fun _ => told_overflow, fun _ _ => told_overflow⟩
  · have hasked := asked_querying hq ha ht
    have htold := told_failure (α := Unit) (.inr rfl) hb { c with client }
    exact ⟨ran_failure hasked hown, fun _ => htold, fun _ _ => htold⟩
  · have hasked := asked_querying hq ha ht
    refine ⟨ran_success hasked ⟨rfl, rfl, rfl, rfl⟩ hown, fun hc => ?_, by simp⟩
    exact told_ok (ready_asked hasked hc ⟨rfl, rfl, rfl, rfl⟩)

/-- what comes of a statement that is run without being prepared, under the configured limit, in a session that was made
sure of: there is no such limit, the limit ends it before it is sent, or it is received and answered -/
inductive Queried (text : String) (own : Option Duration) (c : Connection) (w : World) :
    Except Error RowSet → Connection → World → Prop
  | unlimited (e : Error) (c' : Connection) (w' : World) (limit : c.limit own = .error e) (alike : Alike c c')
      (news : w'.own c.client.id = w.own c.client.id) : Queried text own c w (.error e) c' w'
  | late (e : Error) (c' : Connection) (w' : World) (alike : Alike { c with needsReconnect := true } c')
      (news : w'.own c.client.id = w.own c.client.id) (goesOn : e.isAbort = false) :
      Queried text own c w (.error e) c' w'
  | failed (e : Error) (limit : Option Duration) (cause : NativeError) (c' : Connection) (w' : World)
      (session : c'.client.session = c.client.session) (prepared : c'.client.prepared = c.client.prepared)
      (depth : c'.depth = c.depth) (config : c'.config = c.config)
      (news : w'.own c.client.id = w.own c.client.id ++
        [.received c.client.session (.query text) limit, .failed c.client.session (.query text) cause])
      (goesOn : e.isAbort = false) : Queried text own c w (.error e) c' w'
  | answered (rows : RowSet) (limit : Option Duration) (c' : Connection) (w' : World)
      (limited : c.limit own = .ok limit) (alike : Alike c c')
      (news : w'.own c.client.id = w.own c.client.id ++
        [.received c.client.session (.query text) limit, .succeeded c.client.session (.query text)]) :
      Queried text own c w (.ok rows) c' w'

/-- a statement that is run without being prepared is sent at most once -/
theorem ends_queried {text : String} {r : Except Error RowSet} (h : Ends others (query text own) c w r c' w')
    (ha : Apart others c.client.id) :
    (∃ e, r = .error e ∧ Connected others c w (.error e) c' w') ∨
      ∃ c₁ w₁, Connected others c w (.ok ()) c₁ w₁ ∧ Queried text own c₁ w₁ r c' w' := by
  obtain ⟨e, hb, rfl⟩ | ⟨limit, c₁, w₁, x, client, w₂, reply, hb, hq, hc, hown, rfl⟩ := ends_query h ha
  · generalize hx : Except.error e = x at hb
    cases hb with
    | unconnected e' _ _ hconn =>
      cases hx
      exact .inl ⟨e, rfl, hconn⟩
    | connected c₀ w₀ hconn =>
      exact .inr ⟨c₀, w', hconn, .unlimited e _ w' hx.symm (Connection.alike_beginStatement c₀ _) rfl⟩
  generalize hx : Except.ok limit = y at hb
  cases hb with
  | unconnected e _ _ _ => cases hx
  | connected c₀ w₀ hconn =>
    refine .inr ⟨c₀, w₁, hconn, ?_⟩
    rw [← hconn.id] at hown ha
    cases hq with
    | late d w₂ hs _ _ =>
      cases hc with
      | failed cause e hblamed =>
        exact .late e _ w' ⟨rfl, rfl, by simp [Connection.recordFailure, statementLate], rfl⟩ (hown.trans (ha _ _ hs))
          (hblamed.goesOn fun _ => rfl)
    | run w₃ w₄ w₂ x client hs hs' h =>
      have hreceived : (w₄.note (.received c₀.client.session (.query text) limit)).own c₀.client.id =
          w₁.own c₀.client.id ++ [.received c₀.client.session (.query text) limit] :=
        own_note ((ha _ _ hs').trans (ha _ _ hs)) rfl
      cases h with
      | failed cause rest w₅ hs'' _ =>
        obtain ⟨hclient, hdepth, hconfig⟩ := hc.kept
        cases hc with
        | failed _ e hblamed =>
          refine .failed e limit cause _ w' ?_ ?_ hdepth hconfig ?_ (hblamed.goesOn fun _ => rfl)
          · rw [hclient]
            exact session_told _ cause
          · rw [hclient]
            exact prepared_told _ cause
          · exact hown.trans (own_note_pair ((ha _ _ hs'').trans hreceived) rfl)
      | answered reply w₅ hs'' =>
        cases hc with
        | answered _ =>
          refine .answered _ limit _ w' hx.symm ⟨rfl, rfl, rfl, rfl⟩ ?_
          exact hown.trans (own_note_pair ((ha _ _ hs'').trans hreceived) rfl)

/-- a statement that succeeded without being prepared was run once -/
theorem ends_query_ok {text : String} {rows : RowSet} (h : Ends others (query text own) c w (.ok rows) c' w')
    (ha : Apart others c.client.id) :
    ∃ c₁ w₁ limit, Connected others c w (.ok ()) c₁ w₁ ∧ Alike c₁ c' ∧
      w'.own c.client.id = w₁.own c.client.id ++
        [.received c₁.client.session (.query text) limit, .succeeded c₁.client.session (.query text)] := by
  obtain ⟨e, heq, -⟩ | ⟨c₁, w₁, hc, hq⟩ := ends_queried h ha
  · cases heq
  · cases hq with
    | answered _ limit _ _ _ halike hown =>
      rw [hc.id] at hown
      exact ⟨c₁, w₁, limit, hc, halike, hown⟩

end Op

end SqlSession
