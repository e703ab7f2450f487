/-
The session of a transaction, as long as the transaction runs.

Behind the BEGIN, the connection is in one of two modes. `Held`: the session that was begun is still the one in use,
with as many transactions open as are counted, at least. `Gone`: another session has been opened since, and whatever is
sent goes there. The loss is told once, to whoever runs into it. Each step keeps to these modes, and so does all work
that is put together from plain statements and transactions (`mode_program`).
-/
import SqlSession.Proofs.Session.Control
import SqlSession.Proofs.Session.Program

namespace SqlSession

/-- a request that succeeded -/
def Entry.deed? : Entry → Option (SessionId × Request)
  | .succeeded session request => some (session, request)
  | _ => none

/-- what was done, in order, and in which session -/
def deeds (entries : List Entry) : List (SessionId × Request) := entries.filterMap Entry.deed?

@[simp] theorem deeds_append (a b : List Entry) : deeds (a ++ b) = deeds a ++ deeds b := List.filterMap_append

/-- what has been done since begins with BEGIN in a session -/
def Trail (base : List Entry) (s : SessionId) (w : World) (tail : List Entry) : Prop :=
  ∃ before, w.own s.client = base ++ before ++ .succeeded s (.query "BEGIN") :: tail ∧ deeds before = []

/-- no session has been opened, and nothing but inner statements was done, all in this session -/
structure Steady (s : SessionId) (entries : List Entry) : Prop where
  unopened : ∀ s', .opened s' ∉ entries
  inner : ∀ deed ∈ deeds entries, deed.1 = s ∧ IsInner deed.2.text

/-- the session that was begun is in use, with at least `d` transactions open in it -/
structure Held (base : List Entry) (s : SessionId) (d : Nat) (c : Connection) (w : World) : Prop where
  session : c.client.session = s
  prepared : ∀ e ∈ c.client.prepared, IsInner e.2
  deep : d ≤ c.depth
  sure : c.needsReconnect = false → c.client.connected = true ∧ c.depth = d
  own : ∃ tail, Trail base s w tail ∧ Steady s tail

/-- another session was opened after the one that was begun, which saw nothing but inner statements -/
structure Gone (base : List Entry) (s : SessionId) (c : Connection) (w : World) : Prop where
  client : c.client.id = s.client
  later : s.opening < c.client.openings
  own : ∃ tail, Trail base s w tail ∧ (∃ s', .opened s' ∈ tail) ∧
    ∀ deed ∈ deeds tail, deed.1 = s → IsInner deed.2.text

/-- the connection during a transaction, `d` levels deep -/
def Mode (base : List Entry) (s : SessionId) (d : Nat) (c : Connection) (w : World) : Prop :=
  Held base s d c w ∨ Gone base s c w

variable {base : List Entry} {s : SessionId} {d : Nat} {c c' : Connection} {w w' : World} {T : String → Prop}
  {others : World → World → Prop}

/-! ## Entries -/

theorem Trail.append {tail news : List Entry} (h : Trail base s w tail)
    (hown : w'.own s.client = w.own s.client ++ news) : Trail base s w' (tail ++ news) := by
  obtain ⟨before, heq, hb⟩ := h
  exact ⟨before, by rw [hown, heq]; simp, hb⟩

theorem Steady.append {a b : List Entry} (ha : Steady s a) (hb : Steady s b) : Steady s (a ++ b) where
  unopened := fun s' h => (List.mem_append.1 h).elim (ha.unopened s') (hb.unopened s')
  inner := by
    intro deed h
    rw [deeds_append] at h
    exact (List.mem_append.1 h).elim (ha.inner deed) (hb.inner deed)

theorem deed_request {e : Entry} {deed : SessionId × Request} (h : e.deed? = some deed) : e.request? = some deed := by
  cases e <;> simp_all [Entry.deed?, Entry.request?]

/-- entries that are about no request are no deeds -/
theorem deeds_of_unasked {entries : List Entry} (h : ∀ e ∈ entries, e.request? = none) : deeds entries = [] := by
  refine List.filterMap_eq_nil_iff.2 fun e he => ?_
  cases hd : e.deed? with
  | none => rfl
  | some deed => cases (deed_request hd).symm.trans (h e he)

/-- the deeds among requests in one session -/
theorem About.deeds {session : SessionId} {entries : List Entry} (h : About session T entries) :
    ∀ deed ∈ deeds entries, deed.1 = session ∧ T deed.2.text := by
  intro deed hd
  obtain ⟨e, he, heq⟩ := List.mem_filterMap.1 hd
  obtain ⟨request, hr, ht⟩ := h e he
  cases hr.symm.trans (deed_request heq)
  exact ⟨rfl, ht⟩

theorem About.steady {entries : List Entry} (h : About s IsInner entries) : Steady s entries where
  unopened := by
    intro s' hm
    obtain ⟨request, hr, -⟩ := h _ hm
    cases hr
  inner := h.deeds

/-! ## Behind the connect -/

theorem Held.id (h : Held base s d c w) : c.client.id = s.client := congrArg SessionId.client h.session

theorem Mode.id (h : Mode base s d c w) : c.client.id = s.client := h.elim Held.id Gone.client

/-- others leave the mode alone -/
theorem Held.shared (h : Held base s d c w) (hown : w'.own s.client = w.own s.client) : Held base s d c w' where
  session := h.session
  prepared := h.prepared
  deep := h.deep
  sure := h.sure
  own := by
    obtain ⟨tail, ⟨before, heq, hb⟩, hs⟩ := h.own
    exact ⟨tail, ⟨before, hown.trans heq, hb⟩, hs⟩

theorem Gone.shared (h : Gone base s c w) (hown : w'.own s.client = w.own s.client) : Gone base s c w' where
  client := h.client
  later := h.later
  own := by
    obtain ⟨tail, ⟨before, heq, hb⟩, hs⟩ := h.own
    exact ⟨tail, ⟨before, hown.trans heq, hb⟩, hs⟩

theorem Mode.shared (h : Mode base s d c w) (hown : w'.own s.client = w.own s.client) : Mode base s d c w' :=
  h.imp (fun h => h.shared hown) fun h => h.shared hown

theorem held_ran (h : Held base s d c w) (ran : Op.Ran IsInner c w c' w') : Held base s d c' w' where
  session := ran.session.trans h.session
  prepared := fun e he => (ran.prepared e he).elim (h.prepared e) fun ht => ht
  deep := ran.depth ▸ h.deep
  sure := by
    intro hs
    obtain ⟨hsure, hconn⟩ := ran.sure hs
    obtain ⟨hlive, hdepth⟩ := h.sure hsure
    exact ⟨hconn.trans hlive, ran.depth.trans hdepth⟩
  own := by
    obtain ⟨tail, ht, hs⟩ := h.own
    obtain ⟨news, hn, hown⟩ := ran.own
    rw [h.session] at hn
    rw [h.id] at hown
    exact ⟨tail ++ news, ht.append hown, hs.append hn.steady⟩

/-- what is done in a later session is not done in this one -/
theorem gone_news (h : Gone base s c w) (hid : c'.client.id = c.client.id)
    (hlater : c.client.openings ≤ c'.client.openings) {news : List Entry}
    (hown : w'.own c.client.id = w.own c.client.id ++ news)
    (hn : ∀ deed ∈ deeds news, deed.1 = s → IsInner deed.2.text) : Gone base s c' w' where
  client := hid.trans h.client
  later := Nat.lt_of_lt_of_le h.later hlater
  own := by
    obtain ⟨tail, ht, ⟨s', hopen⟩, hi⟩ := h.own
    rw [h.client] at hown
    refine ⟨tail ++ news, ht.append hown, ⟨s', List.mem_append_left _ hopen⟩, fun deed hd => ?_⟩
    rw [deeds_append] at hd
    exact (List.mem_append.1 hd).elim (hi deed) (hn deed)

theorem gone_ran (h : Gone base s c w) (ran : Op.Ran T c w c' w') : Gone base s c' w' := by
  obtain ⟨news, hn, hown⟩ := ran.own
  have hid : c'.client.id = c.client.id := ran.id
  have hopenings : c'.client.openings = c.client.openings := congrArg SessionId.opening ran.session
  refine gone_news h hid hopenings.ge hown fun deed hd heq => ?_
  have hsession : c.client.session = s := (hn.deeds deed hd).1.symm.trans heq
  have hopening : c.client.openings = s.opening := congrArg SessionId.opening hsession
  exact absurd h.later (by omega)

theorem mode_ran (h : Mode base s d c w) (ran : Op.Ran IsInner c w c' w') : Mode base s d c' w' :=
  h.imp (fun h => held_ran h ran) fun h => gone_ran h ran

/-! ## Connects -/

namespace Op

/-- a connect opens sessions, and nothing is done -/
theorem Opened.openings {lost : Nat} {r : Except Error Unit} (h : Opened others lost c w r c' w') :
    c.client.openings ≤ c'.client.openings := by
  cases h with
  | failed e refused c' w' _ alike _ _ => rw [alike.client]
  | opened refused c' w' _ _ alike _ => rw [alike.client]; exact Nat.le_succ _
  | lost refused c' w' _ _ alike _ => rw [alike.client]; exact Nat.le_succ _

theorem Connected.openings {r : Except Error Unit} (h : Connected others c w r c' w') :
    c.client.openings ≤ c'.client.openings := by
  cases h with
  | live _ _ => exact Nat.le_refl _
  | fresh r c' w' _ _ h => exact h.openings
  | again gone w₁ r c' w' _ _ _ h => exact openings_shut c.client ▸ h.openings

end Op

theorem gone_connected {r : Except Error Unit} (h : Gone base s c w) (hc : Op.Connected others c w r c' w') :
    Gone base s c' w' := by
  obtain ⟨news, hn, hown⟩ := hc.own
  refine gone_news h hc.id hc.openings hown fun deed hd => ?_
  rw [deeds_of_unasked hn] at hd
  cases hd

/-- entries that are about no request and open no session -/
theorem steady_quiet {entries : List Entry} (h : ∀ e ∈ entries, e = .refused s.client ∨ e = .closed s) :
    Steady s entries where
  unopened := fun s' hm => (h _ hm).elim (fun heq => by cases heq) fun heq => by cases heq
  inner := by
    have hn : deeds entries = [] := deeds_of_unasked fun e he => (h e he).elim (· ▸ rfl) (· ▸ rfl)
    rw [hn]
    simp

/-- a session that could not be opened again is held all the same, and marked -/
theorem held_refused {quiet : List Entry} (h : Held base s d c w) (hn : c.needsReconnect = true)
    (hq : ∀ e ∈ quiet, e = .refused s.client ∨ e = .closed s) (hown : w'.own s.client = w.own s.client ++ quiet)
    (halike : Connection.Alike { c with client := c.client.shut } c') : Held base s d c' w' where
  session := by
    rw [halike.client]
    exact (session_shut _).trans h.session
  prepared := by
    intro e he
    rw [halike.client] at he
    exact h.prepared e (prepared_shut e he)
  deep := halike.depth ▸ h.deep
  sure := fun hs => absurd (hs.symm.trans (halike.needsReconnect.trans hn)) (by decide)
  own := by
    obtain ⟨tail, htrail, hsteady⟩ := h.own
    exact ⟨tail ++ quiet, htrail.append hown, hsteady.append (steady_quiet hq)⟩

/-- a session that was opened again is another one -/
theorem gone_reopened {news : List Entry} (h : Held base s d c w) (hn : ∀ e ∈ news, e.request? = none)
    (hclient : c'.client = c.client.shut.opened) (hopen : ∃ s', .opened s' ∈ news)
    (hown : w'.own s.client = w.own s.client ++ news) : Gone base s c' w' where
  client := by
    rw [hclient]
    exact (id_shut _).trans h.id
  later := by
    have hopening : c.client.openings = s.opening := congrArg SessionId.opening h.session
    rw [hclient]
    show s.opening < c.client.shut.openings + 1
    rw [openings_shut]
    omega
  own := by
    obtain ⟨tail, htrail, hsteady⟩ := h.own
    obtain ⟨s', hopen⟩ := hopen
    refine ⟨tail ++ news, htrail.append hown, ⟨s', List.mem_append_right _ hopen⟩, fun deed hdeed _ => ?_⟩
    rw [deeds_append, deeds_of_unasked hn, List.append_nil] at hdeed
    exact (hsteady.inner deed hdeed).2

/-- while a transaction is held, a connect finds its session live, or fails and marks it, or opens another one, which is
a failure too -/
theorem held_connected {r : Except Error Unit} (hd : 1 ≤ d) (h : Held base s d c w)
    (hc : Op.Connected others c w r c' w') :
    (r = .ok () ∧ c' = c ∧ w' = w ∧ c.needsReconnect = false) ∨
      ∃ e, r = .error e ∧ ((Held base s d c' w' ∧ c'.needsReconnect = true) ∨ Gone base s c' w') := by
  cases hc with
  | live hs _ => exact .inl ⟨rfl, rfl, rfl, hs⟩
  | fresh r c' w' hs hclosed _ => exact absurd (hclosed.symm.trans (h.sure hs).1) (by decide)
  | again gone w₁ r c' w' hn hg hown ho =>
    rw [h.session] at hg
    rw [h.id] at hown
    have hid : c.client.shut.id = s.client := (id_shut _).trans h.id
    cases ho with
    | failed e refused c' w' hr halike hown' _ =>
      have hall : w'.own s.client = w.own s.client ++ (gone ++ refused) := by
        rw [← List.append_assoc, ← hown]
        exact hid ▸ hown'
      have hquiet : ∀ e ∈ gone ++ refused, e = .refused s.client ∨ e = .closed s := by
        intro e he
        rcases List.mem_append.1 he with he | he
        · exact .inr (hg e he)
        · exact .inl (by rw [hr e he, ← hid])
      exact .inr ⟨e, rfl, .inl ⟨held_refused h hn hquiet hall halike, halike.needsReconnect.trans hn⟩⟩
    | opened refused c' w' _ hz _ _ => exact absurd h.deep (by omega)
    | lost refused c' w' hr _ halike hown' =>
      have hall : w'.own s.client =
          w.own s.client ++ (gone ++ (refused ++ [.opened c.client.shut.opened.session])) := by
        rw [← List.append_assoc, ← hown, ← List.append_assoc]
        exact hid ▸ hown'
      have hunasked : ∀ e ∈ gone ++ (refused ++ [.opened c.client.shut.opened.session]), e.request? = none := by
        intro e he
        simp only [List.mem_append, List.mem_singleton] at he
        rcases he with he | he | rfl
        · rw [hg e he]; rfl
        · rw [hr e he]; rfl
        · rfl
      exact .inr ⟨_, rfl, .inr (gone_reopened h hunasked halike.client ⟨c.client.shut.opened.session, by simp⟩ hall)⟩

/-- a statement keeps the mode -/
theorem mode_sent (hd : 1 ≤ d) (h : Mode base s d c w) (hs : Op.Sent others IsInner c w c' w') :
    Mode base s d c' w' := by
  have hconn : ∀ {r c₁ w₁}, Op.Connected others c w r c₁ w₁ → Mode base s d c₁ w₁ := by
    intro r c₁ w₁ hc
    rcases h with h | h
    · obtain ⟨-, rfl, rfl, -⟩ | ⟨e, -, hf⟩ := held_connected hd h hc
      · exact .inl h
      · exact hf.imp And.left id
    · exact .inr (gone_connected h hc)
  cases hs with
  | direct c' w' ran => exact mode_ran h ran
  | unconnected e c' w' hc => exact hconn hc
  | connected c₁ w₁ c' w' hc ran => exact mode_ran (hconn hc) ran

/-- once the session is gone, whatever is sent goes to a later one -/
theorem gone_sent (h : Gone base s c w) (hs : Op.Sent others T c w c' w') : Gone base s c' w' := by
  cases hs with
  | direct c' w' ran => exact gone_ran h ran
  | unconnected e c' w' hc => exact gone_connected h hc
  | connected c₁ w₁ c' w' hc ran => exact gone_ran (gone_connected h hc) ran

/-! ## Steps -/

/-- a step of some work that does not control transactions -/
inductive PlainStep : Type → Type
  | prepare (statement : Statement) (own : Option Duration) (plain : IsPlain statement.text) : PlainStep Prepared
  | execute (statement : Statement) (own : Option Duration) (plain : IsPlain statement.text) : PlainStep Reply
  | executePrepared (p : Prepared) (own : Option Duration) : PlainStep Reply
  | query (text : String) (own : Option Duration) (plain : IsPlain text) : PlainStep RowSet
  | totalCount : PlainStep Unit
  /-- a look at the connection -/
  | look : PlainStep Connection
  /-- a change of what is put together on the connection -/
  | edit (f : Connection → Connection) (alike : ∀ c : Connection, c.Alike (f c)) : PlainStep Unit

def PlainStep.perform {β : Type} : PlainStep β → Op β
  | prepare statement own _ => Op.prepare statement own
  | execute statement own _ => Op.execute statement own
  | executePrepared p own => Op.executePrepared p own
  | query text own _ => Op.query text own
  | totalCount => Op.fetchTotalCount
  | look => get
  | edit f _ => modify f

theorem PlainStep.sent {β : Type} {step : PlainStep β} {r : Except Error β} (ha : Apart others c.client.id)
    (ht : ∀ text, IsPlain text → T text) (hp : ∀ e ∈ c.client.prepared, T e.2)
    (h : Op.Ends others step.perform c w r c' w') : Op.Sent others T c w c' w' := by
  cases step with
  | prepare statement own plain => exact (Op.stated_prepare h ha (ht _ plain)).1.sent
  | execute statement own plain => exact (Op.stated_execute h ha (ht _ plain)).sent
  | executePrepared p own => exact (Op.stated_executePrepared h ha hp).sent
  | query text own plain => exact (Op.stated_query h ha (ht _ plain)).sent
  | totalCount => exact .direct _ _ (Op.ran_fetchTotalCount h ha (ht _ (by decide))).1
  | look =>
    obtain ⟨-, rfl, rfl⟩ := Op.ends_get.1 h
    exact .direct _ _ (Op.ran_of_alike (.refl _) rfl)
  | edit f alike =>
    obtain ⟨-, rfl, rfl⟩ := Op.ends_modify.1 h
    exact .direct _ _ (Op.ran_of_alike (alike c) rfl)

theorem mode_step {β : Type} {step : PlainStep β} {r : Except Error β} (ha : Apart others s.client) (hd : 1 ≤ d)
    (h : Mode base s d c w) (he : Op.Ends others step.perform c w r c' w') : Mode base s d c' w' := by
  rw [← h.id] at ha
  rcases h with h | h
  · exact mode_sent hd (.inl h) (PlainStep.sent ha (fun _ hp => hp.inner) h.prepared he)
  · exact .inr (gone_sent h (PlainStep.sent (T := fun _ => True) ha (fun _ _ => trivial) (fun _ _ => trivial) he))

/-! ## Transactions inside the outermost one -/

theorem gone_moved {c₁ : Connection} (h : Gone base s c w) (hc : c₁.client = c.client) : Gone base s c₁ w where
  client := by rw [hc]; exact h.client
  later := by rw [hc]; exact h.later
  own := h.own

theorem mode_marking {text : String} {r : Except Error Unit} (ha : Apart others s.client) (hd : 1 ≤ d)
    (ht : IsInner text) (h : Mode base s d c w) (hm : Op.Marking others text c w r c' w') : Mode base s d c' w' := by
  cases hm with
  | skipped w₁ hs _ => exact h.shared (ha _ _ hs)
  | asked w₁ x c' w' hs hq =>
    have h₁ := h.shared (ha _ _ hs)
    rw [← h.id] at ha
    exact mode_sent hd h₁ (Op.stated_query hq ha ht).sent

theorem gone_query {text : String} {own : Option Duration} {r : Except Error RowSet} (ha : Apart others s.client)
    (h : Gone base s c w) (hq : Op.Ends others (Op.query text own) c w r c' w') : Gone base s c' w' := by
  rw [← h.client] at ha
  exact gone_sent h (Op.stated_query (T := fun _ => True) hq ha trivial).sent

theorem gone_marking {text : String} {r : Except Error Unit} (ha : Apart others s.client) (h : Gone base s c w)
    (hm : Op.Marking others text c w r c' w') : Gone base s c' w' := by
  cases hm with
  | skipped w₁ hs _ => exact h.shared (ha _ _ hs)
  | asked w₁ x c' w' hs hq => exact gone_query ha (h.shared (ha _ _ hs)) hq

theorem gone_starting {depth : Nat} {r : Except Error Unit} (ha : Apart others s.client) (h : Gone base s c w)
    (hs : Op.Starting others depth c w r c' w') : Gone base s c' w' := by
  cases hs with
  | outermost x c' w' _ hq => exact gone_query ha h hq
  | inner r c' w' _ hm => exact gone_marking ha h hm

theorem gone_start {r : Except Error Unit} (ha : Apart others s.client) (h : Gone base s c w)
    (hs : Op.Ends others Op.start c w r c' w') : Gone base s c' w' := by
  obtain ⟨e, rfl, hc⟩ | ⟨c₁, w₁, x, c₂, hc, hsend, hx⟩ := Op.ends_start hs (h.client.symm ▸ ha)
  · exact gone_connected h hc
  have h₁ : Gone base s c₁.deeper w₁ := gone_moved (gone_connected h hc) rfl
  have h₂ := gone_starting ha h₁ hsend
  obtain ⟨-, -, rfl⟩ | ⟨e, -, -, rfl⟩ := hx
  · exact h₂
  · split
    · exact h₂
    · exact gone_moved h₂ rfl

theorem gone_leaving {r : Except Error Nat} (h : Gone base s c w) (hl : Op.Leaving others c w r c' w') :
    Gone base s c' w' := by
  cases hl with
  | outside _ => exact gone_moved h rfl
  | unconnected e c' w' _ hc => exact gone_connected h hc
  | left c₁ w₁ _ hc => exact gone_moved (gone_connected h hc) rfl

theorem gone_commit {r : Except Error Unit} (ha : Apart others s.client) (h : Gone base s c w)
    (hc : Op.Ends others Op.commit c w r c' w') : Gone base s c' w' := by
  cases Op.ends_commit hc (h.client.symm ▸ ha) with
  | unconnected e c' w' hl => exact gone_leaving h hl
  | counted depth c' w' _ hl => exact gone_leaving h hl
  | sent c₁ w₁ x c' w' hl hq => exact gone_query ha (gone_leaving h hl) hq

theorem gone_rollback {r : Except Error Unit} (ha : Apart others s.client) (h : Gone base s c w)
    (hr : Op.Ends others Op.rollback c w r c' w') : Gone base s c' w' := by
  cases Op.ends_rollback hr (h.client.symm ▸ ha) with
  | unconnected e c' w' hl => exact gone_leaving h hl
  | outside c' w' hl => exact gone_leaving h hl
  | outermost c₁ w₁ x c' w' hl hq => exact gone_query ha (gone_leaving h hl) hq
  | inner depth c₁ w₁ r c' w' _ hl hm => exact gone_marking ha (gone_leaving h hl) hm

/-- a level more on both sides -/
theorem held_deeper (h : Held base s d c w) (hs : c.needsReconnect = false) : Held base s (d + 1) c.deeper w where
  session := h.session
  prepared := h.prepared
  deep := Nat.succ_le_succ h.deep
  sure := fun _ => ⟨(h.sure hs).1, congrArg (· + 1) (h.sure hs).2⟩
  own := h.own

/-- a level less on both sides -/
theorem held_shallower (h : Held base s (d + 1) c w) : Held base s d c.shallower w where
  session := h.session
  prepared := h.prepared
  deep := Nat.le_sub_one_of_lt h.deep
  sure := by
    intro hs
    obtain ⟨hlive, hdepth⟩ := h.sure hs
    exact ⟨hlive, by show c.depth - 1 = d; omega⟩
  own := h.own

/-- a level less on paper, where the session is not to be relied on -/
theorem held_doubtful (h : Held base s (d + 1) c w) (hs : c.needsReconnect = true) : Held base s d c w where
  session := h.session
  prepared := h.prepared
  deep := Nat.le_of_succ_le h.deep
  sure := fun hn => absurd (hn.symm.trans hs) (by decide)
  own := h.own

theorem mode_shallower (h : Mode base s (d + 1) c w) : Mode base s d c.shallower w := by
  rcases h with h | h
  · exact .inl (held_shallower h)
  · exact .inr (gone_moved h rfl)

theorem mode_start {r : Except Error Unit} (ha : Apart others s.client) (hd : 1 ≤ d) (h : Mode base s d c w)
    (hs : Op.Ends others Op.start c w r c' w') :
    (r = .ok () → Mode base s (d + 1) c' w') ∧ ∀ e, r = .error e → e.isAbort = false → Mode base s d c' w' := by
  rcases h with h | h
  swap
  · exact ⟨fun _ => .inr (gone_start ha h hs), fun _ _ _ => .inr (gone_start ha h hs)⟩
  obtain ⟨e, rfl, hc⟩ | ⟨c₁, w₁, x, c₂, hc, hsend, hx⟩ := Op.ends_start hs (h.id.symm ▸ ha)
  · obtain ⟨heq, -⟩ | ⟨_, -, hf⟩ := held_connected hd h hc
    · cases heq
    · exact ⟨nofun, fun _ _ _ => hf.imp And.left id⟩
  obtain ⟨-, rfl, rfl, hsure⟩ | ⟨_, heq, -⟩ := held_connected hd h hc
  swap
  · cases heq
  have hdepth := (h.sure hsure).2
  have h₂ : Mode base s (d + 1) c₂ w' := by
    cases hsend with
    | outermost x c' w' hfirst _ => exact absurd hfirst (by omega)
    | inner r c' w' _ hm => exact mode_marking ha (by omega) (inner_savepoint _) (.inl (held_deeper h hsure)) hm
  rcases hx with ⟨-, rfl, rfl⟩ | ⟨e, -, rfl, rfl⟩
  · exact ⟨fun _ => h₂, nofun⟩
  · refine ⟨nofun, ?_⟩
    rintro _ ⟨⟩ he
    rw [if_neg (Bool.eq_false_iff.1 he)]
    exact mode_shallower h₂

/-- to leave an inner transaction is to count it off, or to find the session lost -/
theorem held_leaving {r : Except Error Nat} (hd : 1 ≤ d) (h : Held base s d c w)
    (hl : Op.Leaving others c w r c' w') :
    (r = .ok d ∧ c' = c.shallower ∧ w' = w ∧ c.needsReconnect = false) ∨
      ∃ e, r = .error e ∧ ((Held base s d c' w' ∧ c'.needsReconnect = true) ∨ Gone base s c' w') := by
  have hdeep := h.deep
  cases hl with
  | outside hz => omega
  | unconnected e c' w' _ hc =>
    obtain ⟨heq, -⟩ | ⟨_, -, hf⟩ := held_connected hd h hc
    · cases heq
    · exact .inr ⟨e, rfl, hf⟩
  | left c₁ w₁ _ hc =>
    obtain ⟨-, rfl, rfl, hsure⟩ | ⟨_, heq, -⟩ := held_connected hd h hc
    · exact .inl ⟨congrArg _ (h.sure hsure).2, rfl, rfl, hsure⟩
    · cases heq

theorem mode_commit {r : Except Error Unit} (ha : Apart others s.client) (hd : 1 ≤ d) (h : Mode base s (d + 1) c w)
    (hc : Op.Ends others Op.commit c w r c' w') : Mode base s d c' w' := by
  rcases h with h | h
  swap
  · exact .inr (gone_commit ha h hc)
  cases Op.ends_commit hc (h.id.symm ▸ ha) with
  | unconnected e c' w' hl =>
    obtain ⟨heq, -⟩ | ⟨_, -, hf⟩ := held_leaving (by omega) h hl
    · cases heq
    · exact hf.imp (fun hf => held_doubtful hf.1 hf.2) id
  | counted depth c' w' _ hl =>
    obtain ⟨-, rfl, rfl, -⟩ | ⟨_, heq, -⟩ := held_leaving (by omega) h hl
    · exact .inl (held_shallower h)
    · cases heq
  | sent c₁ w₁ x c' w' hl _ =>
    obtain ⟨heq, -⟩ | ⟨_, heq, -⟩ := held_leaving (by omega) h hl
    · have := Except.ok.inj heq
      omega
    · cases heq

theorem mode_rollback {r : Except Error Unit} (ha : Apart others s.client) (hd : 1 ≤ d) (h : Mode base s (d + 1) c w)
    (hr : Op.Ends others Op.rollback c w r c' w') : Mode base s d c' w' := by
  rcases h with h | h
  swap
  · exact .inr (gone_rollback ha h hr)
  cases Op.ends_rollback hr (h.id.symm ▸ ha) with
  | unconnected e c' w' hl =>
    obtain ⟨heq, -⟩ | ⟨_, -, hf⟩ := held_leaving (by omega) h hl
    · cases heq
    · exact hf.imp (fun hf => held_doubtful hf.1 hf.2) id
  | outside c' w' hl =>
    obtain ⟨heq, -⟩ | ⟨_, heq, -⟩ := held_leaving (by omega) h hl
    · have := Except.ok.inj heq
      omega
    · cases heq
  | outermost c₁ w₁ x c' w' hl _ =>
    obtain ⟨heq, -⟩ | ⟨_, heq, -⟩ := held_leaving (by omega) h hl
    · have := Except.ok.inj heq
      omega
    · cases heq
  | inner depth c₁ w₁ r c' w' _ hl hm =>
    obtain ⟨-, rfl, rfl, -⟩ | ⟨_, heq, -⟩ := held_leaving (by omega) h hl
    · exact mode_marking ha hd (inner_rollbackTo _) (.inl (held_shallower h)) hm
    · cases heq

/-- a transaction inside another one keeps the mode if its work does, unless it is aborted -/
theorem mode_transaction {α : Type} {work : Op α} {r : Except Error α} (ha : Apart others s.client) (hd : 1 ≤ d)
    (hwork : ∀ {c w x c' w'}, Mode base s (d + 1) c w → Op.Ends others work c w x c' w' → Op.aborts x = false →
      Mode base s (d + 1) c' w')
    (h : Mode base s d c w) (ht : Op.Ends others (Op.transaction work) c w r c' w') (hr : Op.aborts r = false) :
    Mode base s d c' w' := by
  obtain ⟨e, hs, rfl⟩ | ⟨c₁, w₁, hs, ⟨e, he, -, rfl⟩ | ⟨x, c₂, w₂, hgoes, hx, hsettle⟩⟩ := Op.ends_transaction ht
  · exact (mode_start ha hd h hs).2 e rfl hr
  · exact absurd (hr.symm.trans he) (by decide)
  have h₂ := hwork ((mode_start ha hd h hs).1 rfl) hx hgoes
  obtain ⟨_, -, y, hc, -⟩ | ⟨_, y, -, -, hr⟩ := Op.ends_settle hsettle
  · exact mode_commit ha hd h₂ hc
  · exact mode_rollback ha hd h₂ hr

/-- **Programs keep the mode**, unless they are aborted. By induction on the program; the level is that of the
transaction around it. -/
theorem mode_program {α : Type} (work : Program PlainStep α) (ha : Apart others s.client) {r : Except Error α}
    (hd : 1 ≤ d) (h : Mode base s d c w) (he : Op.Ends others (work.op PlainStep.perform) c w r c' w')
    (hr : Op.aborts r = false) : Mode base s d c' w' := by
  induction work generalizing d c w c' w' with
  | finish result =>
    obtain ⟨-, rfl, rfl⟩ := Program.ends_finish he
    exact h
  | step step next ih =>
    obtain ⟨e, habort, -, rfl⟩ | ⟨x, c₁, w₁, -, hstep, hnext⟩ := Program.ends_step he
    · exact absurd (hr.symm.trans habort) (by decide)
    · exact ih x hd (mode_step ha hd h hstep) hnext hr
  | transaction inner next ihi ihn =>
    obtain ⟨e, habort, -, rfl⟩ | ⟨x, c₁, w₁, hgoes, ht, hnext⟩ := Program.ends_transaction he
    · exact absurd (hr.symm.trans habort) (by decide)
    have h₁ := mode_transaction ha hd (fun h hw hx => ihi (by omega) h hw hx) h ht hgoes
    exact ihn x hd h₁ hnext hr

end SqlSession
