/-
Single calls of a connection.

An `Act` is what a caller can do at once: a `Primitive`, which makes sure of a session and may then ask for something in
it, a forced reconnect, a disconnect, or getting the connection ready for another holder. Each has one theorem about all
that it can do:
- `ends_reconnect`, `Connected.renewed`: a session takes the place of another one (`Renewed`);
- `course_primitive`: a primitive (`Course`);
- `ends_beforeUse`: a connection changes hands (`Handing`).

All acts have in common that their requests go to the session which the connection has at that moment (`act_follows`).
-/
import SqlSession.Proofs.Session.Transaction

namespace SqlSession

/-! ## Ledgers -/

/-- nothing but the end of a session, and connects that were refused -/
def Idle (session : SessionId) (entries : List Entry) : Prop :=
  ∀ e ∈ entries, e = .closed session ∨ e = .refused session.client

/-- the client's session behind this one -/
def SessionId.next (session : SessionId) : SessionId := ⟨session.client, session.opening + 1⟩

/-- no session is opened, and requests go to this one -/
def Stays (session : SessionId) (entries : List Entry) : Prop :=
  ∀ e ∈ entries, e.isOpening = false ∧ ∀ session' request, e.request? = some (session', request) → session' = session

/-- requests go to the session that is there, which is the first one at the start and the last one at the end -/
def Follows (first : SessionId) : List Entry → SessionId → Prop
  | [], last => last = first
  | .opened session :: rest, last => session = first.next ∧ Follows session rest last
  | e :: rest, last => (∀ session request, e.request? = some (session, request) → session = first) ∧
      Follows first rest last

section

variable {s s₁ s' : SessionId} {a b entries : List Entry} {T : String → Prop} {e : Entry}

theorem Idle.append (ha : Idle s a) (hb : Idle s b) : Idle s (a ++ b) :=
  fun e he => (List.mem_append.1 he).elim (ha e) (hb e)

theorem Idle.unasked (h : Idle s entries) : ∀ e ∈ entries, e.request? = none := by
  intro e he
  rcases h e he with rfl | rfl <;> rfl

theorem Stays.append (ha : Stays s a) (hb : Stays s b) : Stays s (a ++ b) :=
  fun e he => (List.mem_append.1 he).elim (ha e) (hb e)

theorem Idle.stays (h : Idle s entries) : Stays s entries := by
  intro e he
  refine ⟨?_, fun session request hr => by simp [h.unasked e he] at hr⟩
  rcases h e he with rfl | rfl <;> rfl

theorem About.stays (h : About s T entries) : Stays s entries := by
  intro e he
  obtain ⟨request, hr, -⟩ := h e he
  refine ⟨?_, fun session request' hr' => ?_⟩
  · cases e with
    | opened session => cases hr
    | _ => rfl
  · cases hr.symm.trans hr'
    rfl

/-- an entry opens the next session, or it goes to the one that is there -/
theorem follows_cons : Follows s (e :: entries) s' ↔
    e = .opened s.next ∧ Follows s.next entries s' ∨
      e.isOpening = false ∧ (∀ session request, e.request? = some (session, request) → session = s) ∧
        Follows s entries s' := by
  cases e with
  | opened session =>
    constructor
    · rintro ⟨rfl, hrest⟩
      exact .inl ⟨rfl, hrest⟩
    · rintro (⟨heq, hrest⟩ | ⟨ho, -⟩)
      · cases heq
        exact ⟨rfl, hrest⟩
      · cases ho
  | _ => simp [Follows, Entry.isOpening]

theorem Follows.append (ha : Follows s a s₁) (hb : Follows s₁ b s') : Follows s (a ++ b) s' := by
  induction a generalizing s with
  | nil =>
    cases ha
    exact hb
  | cons e a ih =>
    rw [List.cons_append, follows_cons]
    rcases follows_cons.1 ha with ⟨rfl, hrest⟩ | ⟨ho, hs, hrest⟩
    · exact .inl ⟨rfl, ih hrest⟩
    · exact .inr ⟨ho, hs, ih hrest⟩

/-- sessions are never older than the first one -/
theorem Follows.later (h : Follows s entries s') (he : e ∈ entries) {session : SessionId} {request : Request}
    (hr : e.request? = some (session, request)) : s.opening ≤ session.opening := by
  induction entries generalizing s with
  | nil => cases he
  | cons e' entries ih =>
    rcases follows_cons.1 h with ⟨rfl, hrest⟩ | ⟨-, hs, hrest⟩
    · rcases List.mem_cons.1 he with rfl | he
      · cases hr
      · exact (Nat.le_succ _).trans (ih hrest he)
    · rcases List.mem_cons.1 he with rfl | he
      · rw [hs session request hr]
      · exact ih hrest he

/-- a request goes to the first session if and only if no other one was opened in front of it -/
theorem Follows.asked {front back : List Entry} {session : SessionId} {request : Request}
    (h : Follows s (front ++ e :: back) s') (hr : e.request? = some (session, request)) :
    session = s ↔ ∀ e ∈ front, e.isOpening = false := by
  induction front generalizing s with
  | nil =>
    rcases follows_cons.1 h with ⟨rfl, -⟩ | ⟨-, hs, -⟩
    · cases hr
    · exact iff_of_true (hs session request hr) (by simp)
  | cons e' front ih =>
    rcases follows_cons.1 h with ⟨rfl, hrest⟩ | ⟨ho, -, hrest⟩
    · have hlater : s.opening + 1 ≤ session.opening := hrest.later (List.mem_append_right _ List.mem_cons_self) hr
      refine iff_of_false ?_ fun hall => absurd (hall _ List.mem_cons_self) (by simp [Entry.isOpening])
      rintro rfl
      exact absurd hlater (Nat.not_succ_le_self _)
    · rw [ih hrest, List.forall_mem_cons, and_iff_right ho]

theorem Follows.client (h : Follows s entries s') : s'.client = s.client := by
  induction entries generalizing s with
  | nil => exact congrArg SessionId.client h
  | cons e entries ih =>
    rcases follows_cons.1 h with ⟨-, hrest⟩ | ⟨-, -, hrest⟩
    · exact (ih hrest).trans rfl
    · exact ih hrest

theorem Stays.follows (h : Stays s entries) : Follows s entries s := by
  induction entries with
  | nil => rfl
  | cons e entries ih =>
    obtain ⟨ho, hs⟩ := h e List.mem_cons_self
    exact follows_cons.2 (.inr ⟨ho, hs, ih fun e he => h e (List.mem_cons_of_mem _ he)⟩)

/-- the opening of a session asks for nothing -/
theorem unasked_opened (h : Idle s entries) : ∀ e ∈ entries ++ [Entry.opened s'], e.request? = none := by
  intro e he
  rcases List.mem_append.1 he with he | he
  · exact h.unasked e he
  · rw [List.mem_singleton.1 he]
    rfl

theorem follows_opened (h : Idle s entries) : Follows s (entries ++ [.opened s.next]) s.next :=
  h.stays.follows.append ⟨rfl, rfl⟩

end

/-! ## Sessions that take the place of others -/

open Connection (Alike)

namespace Connection

/-- the depth at which a transaction is lost when the session is opened again -/
def lost (c : Connection) : Nat := if c.needsReconnect then c.depth else 0

theorem lost_cases (c : Connection) :
    c.needsReconnect = true ∧ c.lost = c.depth ∨ c.needsReconnect = false ∧ c.lost = 0 := by
  unfold lost
  cases c.needsReconnect <;> simp

end Connection

theorem session_opened (client : Client) : client.shut.opened.session = client.session.next := by
  unfold Client.shut
  split <;> rfl

namespace Op

variable {α : Type} {others : World → World → Prop} {T : String → Prop} {c c' c₁ : Connection} {w w' w₁ : World}

/-- how a session is opened in place of the last one, where a transaction at depth `lost` may be lost -/
inductive Renewed (lost : Nat) (c : Connection) (w : World) : Except Error Unit → Connection → World → Prop
  | failed (e : Error) (idle : List Entry) (c' : Connection) (w' : World) (quiet : Idle c.client.session idle)
      (told : Told (α := Unit) (.error e) c') (alike : Alike { c with client := c.client.shut } c')
      (own : w'.own c.client.id = w.own c.client.id ++ idle) : Renewed lost c w (.error e) c' w'
  | opened (idle : List Entry) (c' : Connection) (w' : World) (quiet : Idle c.client.session idle) (none : lost = 0)
      (alike : Alike { c with client := c.client.shut.opened, needsReconnect := false } c')
      (own : w'.own c.client.id = w.own c.client.id ++ (idle ++ [.opened c.client.session.next])) :
      Renewed lost c w (.ok ()) c' w'
  | lost (idle : List Entry) (c' : Connection) (w' : World) (quiet : Idle c.client.session idle) (some : 0 < lost)
      (alike : Alike { c with client := c.client.shut.opened, needsReconnect := false, depth := 0 } c')
      (own : w'.own c.client.id = w.own c.client.id ++ (idle ++ [.opened c.client.session.next])) :
      Renewed lost c w (.error (.transactionLost lost)) c' w'

/-- a session is opened behind the end of the last one -/
theorem Opened.renewed {lost : Nat} {r : Except Error Unit} {gone : List Entry}
    (h : Opened others lost { c with client := c.client.shut } w₁ r c' w') (hg : Idle c.client.session gone)
    (hown : w₁.own c.client.id = w.own c.client.id ++ gone) : Renewed lost c w r c' w' := by
  have hidle : ∀ {refused}, Refusals c.client.shut.id refused → Idle c.client.session (gone ++ refused) := by
    intro refused hr
    refine hg.append fun e he => .inr ?_
    rw [hr e he, id_shut]
    rfl
  have hnews : ∀ {news}, w'.own c.client.shut.id = w₁.own c.client.shut.id ++ news →
      w'.own c.client.id = w.own c.client.id ++ (gone ++ news) := by
    intro news h
    rw [id_shut] at h
    rw [h, hown, List.append_assoc]
  have hopened : ∀ {refused}, w'.own c.client.shut.id = w₁.own c.client.shut.id ++ refused ++
      [.opened c.client.shut.opened.session] →
      w'.own c.client.id = w.own c.client.id ++ (gone ++ refused ++ [.opened c.client.session.next]) := by
    intro refused h
    rw [List.append_assoc, session_opened] at h
    rw [hnews h, List.append_assoc]
  cases h with
  | failed e refused c' w' hr halike hown' hcause =>
    have htold : Told (α := Unit) (.error e) c' := by
      obtain he | ⟨limit, cause, w₂, w₃, -, -, rfl⟩ := hcause
      · rw [span_error he]
        exact told_overflow
      · exact ⟨by simp, by simp, by rintro _ ⟨⟩ hd; cases hd⟩
    exact .failed e _ _ _ (hidle hr) htold halike (hnews hown')
  | opened refused c' w' hr hn halike hown' => exact .opened _ _ _ (hidle hr) hn halike (hopened hown')
  | lost refused c' w' hr hs halike hown' => exact .lost _ _ _ (hidle hr) hs halike (hopened hown')

/-- a session is made sure of: it is there, or another one is opened in its place -/
theorem Connected.renewed {r : Except Error Unit} (h : Connected others c w r c' w') :
    (c.Ready ∧ r = .ok () ∧ c' = c ∧ w' = w) ∨ (¬c.Ready ∧ Renewed c.lost c w r c' w') := by
  cases h with
  | live hs hl => exact .inl ⟨⟨hs, hl⟩, rfl, rfl, rfl⟩
  | fresh r c' w' hs hclosed ho =>
    have hshut : c.client.shut = c.client := by simp [Client.shut, hclosed]
    have hlost : c.lost = 0 := by simp [Connection.lost, hs]
    refine .inr ⟨fun hr => absurd (hclosed.symm.trans hr.live) (by decide), ?_⟩
    have hidle : Idle c.client.session [] := by simp [Idle]
    have ho' : Opened others 0 { c with client := c.client.shut } w r c' w' := by rwa [hshut]
    rw [hlost]
    exact ho'.renewed hidle (by simp)
  | again gone w₁ r c' w' hn hg hown ho =>
    have hlost : c.lost = c.depth := by simp [Connection.lost, hn]
    refine .inr ⟨fun hr => absurd (hn.symm.trans hr.sure) (by decide), ?_⟩
    rw [hlost]
    exact ho.renewed (fun e he => .inl (hg e he)) hown

/-- nothing but the session, the depth and the settings matters -/
theorem Renewed.of_alike {lost : Nat} {r : Except Error Unit} (halike : Alike c c₁)
    (h : Renewed lost c₁ w r c' w') : Renewed lost c w r c' w' := by
  obtain ⟨hclient, hdepth, hdoubt, hconfig⟩ := halike
  cases h with
  | failed e idle c' w' hq ht ha hown =>
    rw [hclient] at hq hown
    refine .failed e idle c' w' hq ht ⟨?_, ?_, ?_, ?_⟩ hown
    · exact ha.client.trans (congrArg Client.shut hclient)
    · exact ha.depth.trans hdepth
    · exact ha.needsReconnect.trans hdoubt
    · exact ha.config.trans hconfig
  | opened idle c' w' hq hn ha hown =>
    rw [hclient] at hq hown
    refine .opened idle c' w' hq hn ⟨?_, ?_, ha.needsReconnect, ?_⟩ hown
    · exact ha.client.trans (congrArg (fun client => client.shut.opened) hclient)
    · exact ha.depth.trans hdepth
    · exact ha.config.trans hconfig
  | lost idle c' w' hq hs ha hown =>
    rw [hclient] at hq hown
    refine .lost idle c' w' hq hs ⟨?_, ha.depth, ha.needsReconnect, ?_⟩ hown
    · exact ha.client.trans (congrArg (fun client => client.shut.opened) hclient)
    · exact ha.config.trans hconfig

/-- a forced connect always opens another session, and never tells of a transaction -/
theorem ends_reconnect {r : Except Error Unit} (h : Ends others (connect true) c w r c' w')
    (ha : Apart others c.client.id) : Renewed 0 c w r c' w' := by
  rw [connect, ends_get_bind, if_pos rfl] at h
  rcases ends_bind.1 h with ⟨e, hd, -⟩ | ⟨_, c₁, w₁, hd, h⟩
  · cases (ends_disconnect hd ha).1
  obtain ⟨-, rfl, gone, hg, hown⟩ := ends_disconnect hd ha
  rw [ends_modify_bind] at h
  have ho := ends_openSession h (by rwa [id_shut])
  have halike : Alike c { c with retries := 0 } := ⟨rfl, rfl, rfl, rfl⟩
  exact .of_alike halike (Opened.renewed ho (fun e he => .inl (hg e he)) hown)

theorem Renewed.follows {lost : Nat} {r : Except Error Unit} (h : Renewed lost c w r c' w') :
    ∃ news, w'.own c.client.id = w.own c.client.id ++ news ∧
      Follows c.client.session news c'.client.session := by
  cases h with
  | failed e idle c' w' hq _ halike hown =>
    refine ⟨idle, hown, ?_⟩
    rw [halike.client]
    exact (session_shut c.client).symm ▸ hq.stays.follows
  | opened idle c' w' hq _ halike hown =>
    refine ⟨_, hown, ?_⟩
    rw [halike.client]
    exact (session_opened c.client).symm ▸ follows_opened hq
  | lost idle c' w' hq _ halike hown =>
    refine ⟨_, hown, ?_⟩
    rw [halike.client]
    exact (session_opened c.client).symm ▸ follows_opened hq

theorem Renewed.id {lost : Nat} {r : Except Error Unit} (h : Renewed lost c w r c' w') :
    c'.client.id = c.client.id := by
  obtain ⟨news, -, hf⟩ := h.follows
  exact hf.client

theorem Renewed.config {lost : Nat} {r : Except Error Unit} (h : Renewed lost c w r c' w') : c'.config = c.config := by
  cases h with
  | failed e idle c' w' _ _ halike _ => exact halike.config
  | opened idle c' w' _ _ halike _ => exact halike.config
  | lost idle c' w' _ _ halike _ => exact halike.config

/-! ## Calls that make sure of a session -/

/-- what is done in a session apart from counting transactions -/
def Worked (T : String → Prop) (c : Connection) (w : World) (c' : Connection) (w' : World) : Prop :=
  Ran T c w { c' with depth := c.depth } w'

theorem Ran.worked {depth : Nat} (h : Ran T { c with depth } w c' w') : Worked T c w c' w' where
  session := h.session
  depth := rfl
  config := h.config
  prepared := h.prepared
  sure := h.sure
  own := h.own

theorem worked_here {depth : Nat} : Worked T c w { c with depth } w :=
  (ran_of_alike (.refl c) rfl).worked

theorem Told.count {r : Except Error α} {depth : Nat} (h : Told r c) : Told r { c with depth } where
  ready := fun x hx => ⟨(h.ready x hx).sure, (h.ready x hx).live⟩
  kept := h.kept
  marked := h.marked

/-- how a call goes that makes sure of a session: it gets on without one, it goes on in the one that is there, it cannot
open one or is told of a loss, or it goes on in another one. `after` is what it makes of the depth -/
inductive Course (T : String → Prop) (after : Except Error α → Nat → Nat) (c : Connection) (w : World) :
    Except Error α → Connection → World → Prop
  | still (r : Except Error α) (c' : Connection) (w' : World) (sound : ∀ e, r = .error e → e = .secondsOverflow)
      (alike : Alike c c') (depth : c.depth = after r c.depth) (own : w'.own c.client.id = w.own c.client.id) :
      Course T after c w r c' w'
  | within (r : Except Error α) (c' : Connection) (w' : World) (ready : c.Ready) (worked : Worked T c w c' w')
      (depth : c'.depth = after r c.depth) (told : Told r c') : Course T after c w r c' w'
  | failed (e : Error) (c' : Connection) (w' : World) (unready : ¬c.Ready)
      (renewed : Renewed c.lost c w (.error e) c' w') : Course T after c w (.error e) c' w'
  | anew (c₁ : Connection) (w₁ : World) (r : Except Error α) (c' : Connection) (w' : World) (unready : ¬c.Ready)
      (renewed : Renewed c.lost c w (.ok ()) c₁ w₁) (worked : Worked T c₁ w₁ c' w')
      (depth : c'.depth = after r c₁.depth) (told : Told r c') : Course T after c w r c' w'

variable {after : Except Error α → Nat → Nat} {r : Except Error α}

theorem Course.of_unconnected {e : Error} (h : Connected others c w (.error e) c' w') :
    Course T after c w (.error e) c' w' := by
  rcases h.renewed with ⟨-, heq, -⟩ | ⟨hn, hr⟩
  · cases heq
  · exact .failed e c' w' hn hr

theorem Course.of_connected (h : Connected others c w (.ok ()) c₁ w₁)
    (work : c₁.Ready → Worked T c₁ w₁ c' w' ∧ c'.depth = after r c₁.depth ∧ Told r c') :
    Course T after c w r c' w' := by
  obtain ⟨hs, hl, -⟩ := h.ready
  obtain ⟨hworked, hdepth, htold⟩ := work ⟨hs, hl⟩
  rcases h.renewed with ⟨hready, -, rfl, rfl⟩ | ⟨hn, hr⟩
  · exact .within r c' w' hready hworked hdepth htold
  · exact .anew c₁ w₁ r c' w' hn hr hworked hdepth htold

theorem Stated.course (h : Stated others T c w r c' w') : Course T (fun _ depth => depth) c w r c' w' := by
  cases h with
  | untried => exact .still _ _ _ (fun e he => (Except.error.inj he).symm) (.refl _) rfl rfl
  | unconnected e c' w' hc => exact .of_unconnected hc
  | connected c₁ w₁ r c' w' hc ran told => exact .of_connected hc fun _ => ⟨ran.worked, ran.depth, told⟩

/-- a session that is there is the one that is asked -/
theorem Stated.of_ready (h : Stated others T c w r c' w') (hc : c.Ready) : Ran T c w c' w' ∧ Told r c' := by
  cases h with
  | untried => exact ⟨ran_of_alike (.refl _) rfl, told_overflow⟩
  | unconnected e c' w' hconn => cases (hconn.of_live hc.sure hc.live).1
  | connected c₁ w₁ r c' w' hconn ran told =>
    obtain ⟨-, rfl, rfl⟩ := hconn.of_live hc.sure hc.live
    exact ⟨ran, told⟩

/-- one statement in a session that is there -/
theorem ends_queried_ready {text : String} {own : Option Duration} {r : Except Error RowSet}
    (h : Ends others (query text own) c w r c' w') (ha : Apart others c.client.id) (hc : c.Ready) :
    Queried text own c w r c' w' := by
  obtain ⟨e, -, hconn⟩ | ⟨c₁, w₁, hconn, hq⟩ := ends_queried h ha
  · cases (hconn.of_live hc.sure hc.live).1
  · obtain ⟨-, rfl, rfl⟩ := hconn.of_live hc.sure hc.live
    exact hq

theorem ran_marking {text : String} {r : Except Error Unit} (h : Marking others text c w r c' w')
    (ha : Apart others c.client.id) (hc : c.Ready) (ht : T text) : Ran T c w c' w' ∧ Told r c' := by
  cases h with
  | skipped w₁ hs _ => exact ⟨ran_of_alike (.refl _) (ha _ _ hs), told_ok hc⟩
  | asked w₁ x c' w' hs hq =>
    obtain ⟨hran, htold⟩ := (stated_query hq ha ht).of_ready hc
    exact ⟨(ran_of_alike (.refl _) (ha _ _ hs)).trans hran, htold.map _⟩

theorem ran_starting {depth : Nat} {r : Except Error Unit} (h : Starting others depth c w r c' w')
    (ha : Apart others c.client.id) (hc : c.Ready) (hb : depth = 1 → T "BEGIN")
    (hs : depth ≠ 1 → T ("SAVEPOINT " ++ savepointName depth)) : Ran T c w c' w' ∧ Told r c' := by
  cases h with
  | outermost x c' w' hfirst hq =>
    obtain ⟨hran, htold⟩ := (stated_query hq ha (hb hfirst)).of_ready hc
    exact ⟨hran, htold.map _⟩
  | inner r c' w' hfurther hm => exact ran_marking hm ha hc (hs hfurther)

theorem course_connect {r : Except Error Unit} (h : Ends others (connect false) c w r c' w')
    (ha : Apart others c.client.id) : Course T (fun _ depth => depth) c w r c' w' := by
  cases r with
  | error e => exact .of_unconnected (ends_connect h ha)
  | ok _ => exact .of_connected (ends_connect h ha) fun hc => ⟨worked_here, rfl, told_ok hc⟩

theorem course_escape {text : String} {r : Except Error String} (h : Ends others (escape text) c w r c' w')
    (ha : Apart others c.client.id) : Course T (fun _ depth => depth) c w r c' w' := by
  rcases ends_bind.1 h with ⟨e, hc, rfl⟩ | ⟨_, c₁, w₁, hc, h⟩
  · exact .of_unconnected (ends_connect hc ha)
  · obtain ⟨rfl, rfl, rfl⟩ := ends_pure.1 h
    exact .of_connected (ends_connect hc ha) fun hc => ⟨worked_here, rfl, told_ok hc⟩

/-- the depth behind the opening of a transaction; an abort leaves the transaction counted -/
def startDepth : Except Error Unit → Nat → Nat
  | .ok _, depth => depth + 1
  | .error e, depth => if e.isAbort then depth + 1 else depth

theorem course_start {r : Except Error Unit} (h : Ends others start c w r c' w') (ha : Apart others c.client.id)
    (hb : T "BEGIN") (hs : ∀ depth, T ("SAVEPOINT " ++ savepointName depth)) : Course T startDepth c w r c' w' := by
  obtain ⟨e, rfl, hc⟩ | ⟨c₁, w₁, x, c₂, hc, hstarting, hend⟩ := ends_start h ha
  · exact .of_unconnected hc
  refine .of_connected hc fun hready => ?_
  have ha₁ : Apart others c₁.deeper.client.id := (hc.id.symm ▸ ha : Apart others c₁.client.id)
  have hready₁ : c₁.deeper.Ready := ⟨hready.sure, hready.live⟩
  obtain ⟨hran, htold⟩ := ran_starting hstarting ha₁ hready₁ (fun _ => hb) fun _ => hs _
  obtain ⟨rfl, rfl, rfl⟩ | ⟨e, rfl, rfl, rfl⟩ := hend
  · exact ⟨hran.worked, hran.depth, htold⟩
  · rw [startDepth]
    split
    · exact ⟨hran.worked, hran.depth, htold⟩
    · refine ⟨hran.worked, ?_, htold.count⟩
      show c₂.depth - 1 = c₁.depth
      rw [hran.depth]
      exact Nat.add_sub_cancel c₁.depth 1

/-- a transaction that is left: none was open, no session could be made sure of, or one of them is counted off -/
theorem course_leaving {r : Except Error Nat} {r' : Except Error Unit} (hl : Leaving others c w r c₁ w₁)
    (he : ∀ e, r = .error e → r' = .error e ∧ c' = c₁ ∧ w' = w₁)
    (hz : r = .ok 0 → r' = .ok () ∧ c' = c₁ ∧ w' = w₁)
    (work : ∀ depth, r = .ok (depth + 1) → c₁.Ready → c₁.client.id = c.client.id →
      Ran T c₁ w₁ c' w' ∧ Told r' c') : Course T (fun _ depth => depth - 1) c w r' c' w' := by
  cases hl with
  | outside hnone =>
    obtain ⟨rfl, rfl, rfl⟩ := hz rfl
    exact .still _ _ _ (by simp) ⟨rfl, by simp [Connection.shallower, hnone], rfl, rfl⟩ (by simp [hnone]) rfl
  | unconnected e c₁ w₁ _ hc =>
    obtain ⟨rfl, rfl, rfl⟩ := he e rfl
    exact .of_unconnected hc
  | left c₂ w₂ hopen hc =>
    refine .of_connected hc fun hready => ?_
    obtain ⟨-, -, hdepth⟩ := hc.ready
    obtain ⟨n, hn⟩ : ∃ n, c₂.depth = n + 1 := Nat.exists_eq_succ_of_ne_zero (by omega)
    obtain ⟨hran, htold⟩ := work n (by rw [hn]) ⟨hready.sure, hready.live⟩ hc.id
    exact ⟨hran.worked, hran.depth, htold⟩

theorem course_commit {r : Except Error Unit} (h : Ends others commit c w r c' w') (ha : Apart others c.client.id)
    (ht : T "COMMIT") : Course T (fun _ depth => depth - 1) c w r c' w' := by
  cases ends_commit h ha with
  | unconnected e c' w' hl =>
    refine course_leaving hl ?_ (by simp) (by simp)
    rintro _ ⟨⟩
    exact ⟨rfl, rfl, rfl⟩
  | counted depth c' w' _ hl =>
    refine course_leaving hl (by simp) (fun _ => ⟨rfl, rfl, rfl⟩) fun _ _ hc _ => ?_
    exact ⟨ran_of_alike (.refl _) rfl, told_ok hc⟩
  | sent c₁ w₁ x c' w' hl hq =>
    refine course_leaving hl (by simp) (by simp) fun _ _ hc hid => ?_
    obtain ⟨hran, htold⟩ := (stated_query hq (hid.symm ▸ ha) ht).of_ready hc
    exact ⟨hran, htold.map _⟩

theorem course_rollback {r : Except Error Unit} (h : Ends others rollback c w r c' w') (ha : Apart others c.client.id)
    (ht : T "ROLLBACK") (hs : ∀ depth, T ("ROLLBACK TO SAVEPOINT " ++ savepointName depth)) :
    Course T (fun _ depth => depth - 1) c w r c' w' := by
  cases ends_rollback h ha with
  | unconnected e c' w' hl =>
    refine course_leaving hl ?_ (by simp) (by simp)
    rintro _ ⟨⟩
    exact ⟨rfl, rfl, rfl⟩
  | outside c' w' hl => exact course_leaving hl (by simp) (fun _ => ⟨rfl, rfl, rfl⟩) (by simp)
  | outermost c₁ w₁ x c' w' hl hq =>
    refine course_leaving hl (by simp) (by simp) fun _ _ hc hid => ?_
    obtain ⟨hran, htold⟩ := (stated_query hq (hid.symm ▸ ha) ht).of_ready hc
    exact ⟨hran, htold.map _⟩
  | inner depth c₁ w₁ r c' w' hd hl hm =>
    refine course_leaving hl (by simp) ?_ fun _ _ hc hid => ran_marking hm (hid.symm ▸ ha) hc (hs depth)
    rintro ⟨⟩
    exact absurd hd (by decide)

theorem Course.follows (h : Course T after c w r c' w') :
    ∃ news, w'.own c.client.id = w.own c.client.id ++ news ∧ Follows c.client.session news c'.client.session := by
  cases h with
  | still r c' w' _ halike _ hown =>
    rw [halike.client]
    exact ⟨[], by simpa using hown, rfl⟩
  | within r c' w' _ hworked _ _ =>
    obtain ⟨news, hn, hown⟩ := hworked.own
    refine ⟨news, hown, ?_⟩
    rw [show c'.client.session = c.client.session from hworked.session]
    exact hn.stays.follows
  | failed e c' w' _ hr => exact hr.follows
  | anew c₁ w₁ r c' w' _ hr hworked _ _ =>
    obtain ⟨front, hown, hfront⟩ := hr.follows
    obtain ⟨news, hn, hown'⟩ := hworked.own
    have hid : c₁.client.id = c.client.id := hr.id
    rw [hid, hown, List.append_assoc] at hown'
    refine ⟨front ++ news, hown', hfront.append ?_⟩
    rw [show c'.client.session = c₁.client.session from hworked.session]
    exact hn.stays.follows

theorem Course.config (h : Course T after c w r c' w') : c'.config = c.config := by
  cases h with
  | still r c' w' _ halike _ _ => exact halike.config
  | within r c' w' _ hworked _ _ => exact hworked.config
  | failed e c' w' _ hr => exact hr.config
  | anew c₁ w₁ r c' w' _ hr hworked _ _ => exact hworked.config.trans hr.config

/-- opening a session asks for nothing -/
theorem Renewed.unasked {lost : Nat} {r : Except Error Unit} (h : Renewed lost c w r c' w') :
    ∃ news, w'.own c.client.id = w.own c.client.id ++ news ∧ ∀ e ∈ news, e.request? = none := by
  cases h with
  | failed e idle c' w' hq _ _ hown => exact ⟨idle, hown, hq.unasked⟩
  | opened idle c' w' hq _ _ hown => exact ⟨_, hown, unasked_opened hq⟩
  | lost idle c' w' hq _ _ hown => exact ⟨_, hown, unasked_opened hq⟩

/-! ## Another holder -/

/-- how a connection is made ready for another holder: a doubtful session is replaced, and a transaction that is
counted is undone -/
inductive Handing (others : World → World → Prop) (c : Connection) (w : World) :
    Except Error Unit → Connection → World → Prop
  | failed (e : Error) (c' : Connection) (w' : World) (doubtful : c.needsReconnect = true)
      (renewed : Renewed 0 c w (.error e) c' w') : Handing others c w (.error e) c' w'
  | renewed (c₁ : Connection) (w₁ : World) (doubtful : c.needsReconnect = true)
      (renewed : Renewed 0 c w (.ok ()) c₁ w₁) : Handing others c w (.ok ()) { c₁ with depth := 0 } w₁
  | settled (c' : Connection) (sure : c.needsReconnect = false) (none : c.depth = 0) (alike : Alike c c') :
      Handing others c w (.ok ()) c' w
  | undone (c₁ : Connection) (r : Except Error Unit) (c' : Connection) (w' : World) (sure : c.needsReconnect = false)
      (some : 0 < c.depth) (alike : Alike { c with depth := 1 } c₁) (undone : Ends others rollback c₁ w r c' w') :
      Handing others c w r c' w'

theorem ends_undoing {r : Except Error Unit} (h : Ends others undoing c w r c' w') :
    (c.depth = 0 ∧ r = .ok () ∧ c' = c ∧ w' = w) ∨
      0 < c.depth ∧ Ends others rollback { c with depth := 1 } w r c' w' := by
  rw [undoing, ends_get_bind] at h
  split at h
  · next hd =>
    rw [ends_modify_bind] at h
    exact .inr ⟨hd, h⟩
  · next hd =>
    obtain ⟨rfl, rfl, rfl⟩ := ends_pure.1 h
    exact .inl ⟨by omega, rfl, rfl, rfl⟩

theorem ends_beforeUse {r : Except Error Unit} (h : Ends others beforeUse c w r c' w')
    (ha : Apart others c.client.id) : Handing others c w r c' w' := by
  have hclear : Alike c c.clearDraft := ⟨rfl, rfl, rfl, rfl⟩
  rw [beforeUse, ends_modify_bind, ends_get_bind] at h
  split at h
  · next hdoubt =>
    rcases ends_bind.1 h with ⟨e, hc, rfl⟩ | ⟨_, c₁, w₁, hc, h⟩
    · exact .failed e c' w' hdoubt (.of_alike hclear (ends_reconnect hc ha))
    rw [ends_modify_bind] at h
    obtain ⟨-, rfl, rfl, rfl⟩ | ⟨hd, -⟩ := ends_undoing h
    · exact .renewed c₁ _ hdoubt (.of_alike hclear (ends_reconnect hc ha))
    · exact absurd hd (lt_irrefl 0)
  · next hsure =>
    have hsure' : c.needsReconnect = false := eq_false_of_ne_true hsure
    obtain ⟨hd, rfl, rfl, rfl⟩ | ⟨hd, h⟩ := ends_undoing h
    · exact .settled _ hsure' hd hclear
    · exact .undone { c.clearDraft with depth := 1 } r c' w' hsure' hd ⟨rfl, rfl, rfl, rfl⟩ h

end Op

/-! ## Acts -/

/-- a call that makes sure of a session, and may then ask for something in it -/
inductive Primitive : Type → Type
  | connect : Primitive Unit
  | prepare (statement : Statement) (own : Option Duration) : Primitive Prepared
  | execute (statement : Statement) (own : Option Duration) : Primitive Reply
  | executePrepared (p : Prepared) (own : Option Duration) : Primitive Reply
  | query (text : String) (own : Option Duration) : Primitive RowSet
  | escape (text : String) : Primitive String
  | start : Primitive Unit
  | commit : Primitive Unit
  | rollback : Primitive Unit
  /-- the count behind a SELECT, in the session that is there -/
  | totalCount : Primitive Unit

namespace Primitive

variable {α : Type}

def perform : Primitive α → Op α
  | connect => Op.connect false
  | prepare statement own => Op.prepare statement own
  | execute statement own => Op.execute statement own
  | executePrepared p own => Op.executePrepared p own
  | query text own => Op.query text own
  | escape text => Op.escape text
  | start => Op.start
  | commit => Op.commit
  | rollback => Op.rollback
  | totalCount => Op.fetchTotalCount

/-- what the call makes of the depth when there is a session -/
def after : Primitive α → Except Error α → Nat → Nat
  | start => Op.startDepth
  | commit => fun _ depth => depth - 1
  | rollback => fun _ depth => depth - 1
  | _ => fun _ depth => depth

/-- the texts of all that the call may ask for, but for statements that are prepared already -/
def Asks (T : String → Prop) : Primitive α → Prop
  | prepare statement _ => T statement.text
  | execute statement _ => T statement.text
  | query text _ => T text
  | start => T "BEGIN" ∧ ∀ depth, T ("SAVEPOINT " ++ Op.savepointName depth)
  | commit => T "COMMIT"
  | rollback => T "ROLLBACK" ∧ ∀ depth, T ("ROLLBACK TO SAVEPOINT " ++ Op.savepointName depth)
  | totalCount => T Op.foundRowsText
  | _ => True

/-- the texts that the caller has written -/
def Writes (T : String → Prop) : Primitive α → Prop
  | prepare statement _ => T statement.text
  | execute statement _ => T statement.text
  | query text _ => T text
  | _ => True

/-- the count is never the first call of a session -/
def Fits (c : Connection) : Primitive α → Prop
  | totalCount => c.Ready
  | _ => True

theorem asks_true (p : Primitive α) : p.Asks fun _ => True := by
  cases p <;> simp [Asks]

end Primitive

/-- what a caller can do with a connection at once -/
inductive Act : Type → Type 1
  | primitive {α : Type} (p : Primitive α) : Act α
  /-- another session, whatever there is -/
  | reconnect : Act Unit
  | disconnect : Act Unit
  | beforeUse : Act Unit

namespace Act

variable {α : Type}

def perform : Act α → Op α
  | primitive p => p.perform
  | reconnect => Op.connect true
  | disconnect => Op.disconnect
  | beforeUse => Op.beforeUse

/-- callers write such texts, and ask for other sessions only if they are `forced` -/
def Allowed (T : String → Prop) (forced : Bool) (c : Connection) : Act α → Prop
  | primitive p => p.Writes T ∧ p.Fits c
  | reconnect => forced = true
  | disconnect => forced = true
  | beforeUse => True

end Act

namespace Op

variable {α : Type} {others : World → World → Prop} {T : String → Prop} {c c' : Connection} {w w' : World}
  {r : Except Error α}

/-- **How a call goes**, whichever it is -/
theorem course_primitive {p : Primitive α} (h : Ends others p.perform c w r c' w') (ha : Apart others c.client.id)
    (ht : p.Asks T) (hp : ∀ e ∈ c.client.prepared, T e.2) (hf : p.Fits c) : Course T p.after c w r c' w' := by
  cases p with
  | connect => exact course_connect h ha
  | prepare statement own => exact (stated_prepare h ha ht).1.course
  | execute statement own => exact (stated_execute h ha ht).course
  | executePrepared p own => exact (stated_executePrepared h ha hp).course
  | query text own => exact (stated_query h ha ht).course
  | escape text => exact course_escape h ha
  | start => exact course_start h ha ht.1 ht.2
  | commit => exact course_commit h ha ht
  | rollback => exact course_rollback h ha ht.1 ht.2
  | totalCount =>
    obtain ⟨hran, htold, -⟩ := ran_fetchTotalCount h ha ht
    exact .within _ _ _ hf hran.worked hran.depth (htold hf)

/-- it goes like this as well when nothing is said about texts -/
theorem course_untold {p : Primitive α} (h : Ends others p.perform c w r c' w') (ha : Apart others c.client.id)
    (hf : p.Fits c) : Course (fun _ => True) p.after c w r c' w' :=
  course_primitive h ha p.asks_true (fun _ _ => trivial) hf

/-- **Requests follow the session.** What an act asks for, it asks for in the session that is there. -/
theorem act_follows {a : Act α} {forced : Bool} (h : Ends others a.perform c w r c' w') (ha : Apart others c.client.id)
    (hallowed : a.Allowed T forced c) :
    ∃ news, w'.own c.client.id = w.own c.client.id ++ news ∧ Follows c.client.session news c'.client.session := by
  cases a with
  | primitive p => exact (course_untold h ha hallowed.2).follows
  | reconnect => exact (ends_reconnect h ha).follows
  | disconnect =>
    obtain ⟨-, rfl, gone, hg, hown⟩ := ends_disconnect h ha
    have hidle : Idle c.client.session gone := fun e he => .inl (hg e he)
    exact ⟨gone, hown, (session_shut c.client).symm ▸ hidle.stays.follows⟩
  | beforeUse =>
    cases ends_beforeUse h ha with
    | failed e c' w' _ hr => exact hr.follows
    | renewed c₁ w₁ _ hr => exact hr.follows
    | settled c' _ _ halike =>
      rw [halike.client]
      exact ⟨[], by simp, rfl⟩
    | undone c₁ r c' w' _ _ halike hu =>
      have hclient : c₁.client = c.client := halike.client
      rw [← hclient] at ha ⊢
      exact (course_untold (p := .rollback) hu ha trivial).follows

theorem act_id {a : Act α} {forced : Bool} (h : Ends others a.perform c w r c' w') (ha : Apart others c.client.id)
    (hallowed : a.Allowed T forced c) : c'.client.id = c.client.id := by
  obtain ⟨news, -, hf⟩ := act_follows h ha hallowed
  exact hf.client

/-- settings never change -/
theorem act_config {a : Act α} {forced : Bool} (h : Ends others a.perform c w r c' w') (ha : Apart others c.client.id)
    (hallowed : a.Allowed T forced c) : c'.config = c.config := by
  cases a with
  | primitive p => exact (course_untold h ha hallowed.2).config
  | reconnect => exact (ends_reconnect h ha).config
  | disconnect =>
    obtain ⟨-, rfl, -⟩ := ends_disconnect h ha
    rfl
  | beforeUse =>
    cases ends_beforeUse h ha with
    | failed e c' w' _ hr => exact hr.config
    | renewed c₁ w₁ _ hr => exact hr.config
    | settled c' _ _ halike => exact halike.config
    | undone c₁ r c' w' _ _ halike hu =>
      have hclient : c₁.client = c.client := halike.client
      rw [← hclient] at ha
      exact (course_untold (p := .rollback) hu ha trivial).config.trans halike.config

end Op

end SqlSession
