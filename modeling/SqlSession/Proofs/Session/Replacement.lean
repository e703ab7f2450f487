/-
Sessions that callers replace while a transaction is counted.

A forced connect, and a disconnect with any call behind it, put another session in the place of the one in which the
transaction was begun. Neither looks at the depth, and nobody is told. `Replacing` says what becomes of the transaction
for each act that opens a session: it is reported lost if and only if the session was marked and the call is no forced
connect. In all other cases it stays counted as though nothing had happened, and what is asked for next goes to the
other session (`replaced_session`).
-/
import SqlSession.Proofs.Session.Ways

namespace SqlSession

open Connection (Alike)

/-- what becomes of a transaction that is counted when an act opens another session -/
inductive Replacing (c c' : Connection) (news : List Entry) : {β : Type} → Act β → Except Error β → Prop
  /-- it was lost with the session, and the caller is told -/
  | told {β : Type} (p : Primitive β) (marked : c.needsReconnect = true) (unasked : ∀ e ∈ news, e.request? = none)
      (outside : c'.depth = 0) : Replacing c c' news (.primitive p) (.error (.transactionLost c.depth))
  /-- the session was closed, and the call goes on as though the transaction were open in the other one -/
  | untold {β : Type} (p : Primitive β) (r : Except Error β) (sure : c.needsReconnect = false)
      (closed : c.client.connected = false) (silent : ∀ depth, r ≠ .error (.transactionLost depth))
      (counted : c'.depth = p.after r c.depth) : Replacing c c' news (.primitive p) r
  /-- a forced connect succeeds, and the transaction stays counted -/
  | forced (unasked : ∀ e ∈ news, e.request? = none) (counted : c'.depth = c.depth) :
      Replacing c c' news .reconnect (.ok ())
  /-- the next holder counts no transaction -/
  | handed (r : Except Error Unit) (outside : c'.depth = 0) : Replacing c c' news .beforeUse r

variable {others : World → World → Prop} {T : String → Prop} {forced : Bool} {P : Connection → Prop}
  {c c' c₀ : Connection} {w w' w₀ : World}

namespace Op

variable {β : Type} {r : Except Error β}

theorem no_opening {entries : List Entry} {s : SessionId} (h : Stays s entries)
    (ho : ∃ e ∈ entries, e.isOpening = true) : False := by
  obtain ⟨e, he, ho⟩ := ho
  simp [(h e he).1] at ho

theorem replacing_course {p : Primitive β} (hd : 0 < c.depth) (h : Course T p.after c w r c' w') :
    ∃ news, w'.own c.client.id = w.own c.client.id ++ news ∧
      ((∃ e ∈ news, e.isOpening = true) → Replacing c c' news (.primitive p) r) := by
  cases h with
  | still r c' w' _ _ _ hown => exact ⟨[], by simpa using hown, by simp⟩
  | within r c' w' _ hworked _ _ =>
    obtain ⟨news, hn, hown⟩ := hworked.own
    exact ⟨news, hown, fun ho => (no_opening hn.stays ho).elim⟩
  | failed e c' w' hn hr =>
    cases hr with
    | failed e idle c' w' hq _ _ hown => exact ⟨idle, hown, fun ho => (no_opening hq.stays ho).elim⟩
    | lost idle c' w' hq hs halike hown =>
      obtain ⟨hdoubt, hlost⟩ | ⟨-, hnone⟩ := c.lost_cases
      · refine ⟨_, hown, fun _ => ?_⟩
        rw [hlost]
        exact .told p hdoubt (unasked_opened hq) halike.depth
      · omega
  | anew c₁ w₁ r c' w' hn hr hworked hdepth htold =>
    obtain ⟨front, hown, -⟩ := hr.follows
    obtain ⟨news, -, hown'⟩ := hworked.own
    rw [hr.id, hown, List.append_assoc] at hown'
    refine ⟨front ++ news, hown', fun _ => ?_⟩
    cases hr with
    | opened idle c₁ w₁ _ hnone halike _ =>
      obtain ⟨-, hlost⟩ | ⟨hsure, -⟩ := c.lost_cases
      · omega
      have hclosed : c.client.connected = false := eq_false_of_ne_true fun hlive => hn ⟨hsure, hlive⟩
      exact .untold p r hsure hclosed htold.kept (hdepth.trans (congrArg (p.after r) halike.depth))

/-- **Another session.** What becomes of a transaction when an act opens a session. -/
theorem replacing_act {a : Act β} (h : Ends others a.perform c w r c' w') (ha : Apart others c.client.id)
    (hallowed : a.Allowed T forced c) (hd : 0 < c.depth) :
    ∃ news, w'.own c.client.id = w.own c.client.id ++ news ∧
      ((∃ e ∈ news, e.isOpening = true) → Replacing c c' news a r) := by
  cases a with
  | primitive p => exact replacing_course hd (course_untold h ha hallowed.2)
  | reconnect =>
    cases ends_reconnect h ha with
    | failed e idle c' w' hq _ _ hown => exact ⟨idle, hown, fun ho => (no_opening hq.stays ho).elim⟩
    | opened idle c' w' hq _ halike hown => exact ⟨_, hown, fun _ => .forced (unasked_opened hq) halike.depth⟩
    | lost idle c' w' _ hs _ _ => exact absurd hs (lt_irrefl 0)
  | disconnect =>
    obtain ⟨-, -, gone, hg, hown⟩ := ends_disconnect h ha
    have hidle : Idle c.client.session gone := fun e he => .inl (hg e he)
    exact ⟨gone, hown, fun ho => (no_opening hidle.stays ho).elim⟩
  | beforeUse =>
    cases ends_beforeUse h ha with
    | failed e c' w' _ hr =>
      cases hr with
      | failed e idle c' w' hq _ _ hown => exact ⟨idle, hown, fun ho => (no_opening hq.stays ho).elim⟩
      | lost idle c' w' _ hs _ _ => exact absurd hs (lt_irrefl 0)
    | renewed c₁ w₁ _ hr =>
      obtain ⟨news, hown, -⟩ := hr.follows
      exact ⟨news, hown, fun _ => .handed _ rfl⟩
    | settled c' _ hz _ => exact absurd hz (Nat.ne_of_gt hd)
    | undone c₁ r c' w' _ _ halike hu =>
      have hclient : c₁.client = c.client := halike.client
      have hone : c₁.depth = 1 := halike.depth
      obtain ⟨news, hown, hr⟩ :=
        replacing_course (by omega) (course_untold (p := .rollback) hu (hclient ▸ ha) trivial)
      rw [hclient] at hown
      refine ⟨news, hown, fun ho => .handed r ?_⟩
      cases hr ho with
      | told p _ _ houtside => exact houtside
      | untold p r _ _ _ hcounted => rw [hcounted, hone]; rfl

end Op

/-- on a way, requests go to the session that is there at the time -/
theorem follows_way (h : Way others T forced P c₀ w₀ c w) (ha : Apart others c₀.client.id) :
    ∃ news, w.own c₀.client.id = w₀.own c₀.client.id ++ news ∧
      Follows c₀.client.session news c.client.session := by
  induction h with
  | here => exact ⟨[], by simp, rfl⟩
  | edited c c' w _ halike ih =>
    rw [halike.client]
    exact ih
  | shared c w w' hway hown' ih =>
    obtain ⟨news, hown, hf⟩ := ih
    rw [hway.id ha] at hown'
    exact ⟨news, hown'.trans hown, hf⟩
  | act c w a r c' w' hway _ hallowed hends ih =>
    obtain ⟨news, hown, hf⟩ := ih
    obtain ⟨more, hown', hf'⟩ := Op.act_follows hends (hway.apart ha) hallowed
    rw [hway.id ha, hown, List.append_assoc] at hown'
    exact ⟨news ++ more, hown', hf.append hf'⟩

/-- **Replaced sessions.** Callers who may ask for other sessions go ways of acts, from any connection on. On such a way
a request goes to the session that was there at first if and only if no other one has been opened since. When a call
opens one while a transaction is counted, the transaction is reported lost if and only if the call is no forced connect
and the session was marked (`Replacing`); the next holder counts none. Disconnecting marks nothing and leaves the
transaction counted. -/
theorem replaced_session (ha : Apart others c₀.client.id) (w₀ : World) :
    (∀ {α : Type} (work : Program (Use AnyText true) α) (r : Except Error α) (c : Connection) (w : World),
      Op.Ends others (work.op Use.perform) c₀ w₀ r c w → Way others AnyText true (fun _ => True) c₀ w₀ c w) ∧
    ∀ (c : Connection) (w : World), Way others AnyText true (fun _ => True) c₀ w₀ c w →
      (∃ news, w.own c₀.client.id = w₀.own c₀.client.id ++ news ∧
        ∀ front e back, news = front ++ e :: back → ∀ session request, e.request? = some (session, request) →
          (session = c₀.client.session ↔ ∀ e ∈ front, e.isOpening = false)) ∧
      (0 < c.depth → ∀ {β : Type} (a : Act β) (r : Except Error β) (c' : Connection) (w' : World),
        a.Allowed AnyText true c → Op.Ends others a.perform c w r c' w' →
        ∃ news, w'.own c₀.client.id = w.own c₀.client.id ++ news ∧
          ((∃ e ∈ news, e.isOpening = true) → Replacing c c' news a r)) ∧
      ∀ (r : Except Error Unit) (c' : Connection) (w' : World), Op.Ends others Op.disconnect c w r c' w' →
        c'.depth = c.depth ∧ c'.needsReconnect = c.needsReconnect ∧ c'.client.connected = false := by
  refine ⟨fun work r c w h => made_program (fun _ _ => trivial) work others _ _ r c w ha h, fun c w h => ?_⟩
  have hid : c.client.id = c₀.client.id := h.id ha
  refine ⟨?_, fun hd β a r c' w' hallowed hends => ?_, fun r c' w' hends => ?_⟩
  · obtain ⟨news, hown, hf⟩ := follows_way h ha
    refine ⟨news, hown, fun front e back heq session request hr => ?_⟩
    rw [heq] at hf
    exact hf.asked hr
  · rw [← hid]
    exact Op.replacing_act hends (h.apart ha) hallowed hd
  · obtain ⟨-, rfl, -⟩ := Op.ends_disconnect hends (h.apart ha)
    refine ⟨rfl, rfl, ?_⟩
    show c.client.shut.connected = false
    unfold Client.shut
    split
    · rfl
    · next hn => exact eq_false_of_ne_true hn

/-- a transaction is begun, its session is closed, and the commit succeeds in another one, where nothing is open -/
theorem replaced_session_committing :
    let begun := (Op.start (.new (.new 0) .standard .empty)).run 0 .fresh
    let closed := (Op.disconnect begun.1.2).run begun.2.1 begun.2.2
    let ended := (Op.commit closed.1.2).run closed.2.1 closed.2.2
    closed.1.2.depth = 1 ∧ ended.1.1 = .ok () ∧ ended.2.2.own 0 =
        [.opened ⟨0, 1⟩, .received ⟨0, 1⟩ (.query "BEGIN") none, .succeeded ⟨0, 1⟩ (.query "BEGIN"), .closed ⟨0, 1⟩,
          .opened ⟨0, 2⟩, .received ⟨0, 2⟩ (.query "COMMIT") none, .succeeded ⟨0, 2⟩ (.query "COMMIT")] ∧
      ∃ news, ended.2.2.own 0 = closed.2.2.own 0 ++ news ∧
        Replacing closed.1.2 ended.1.2 news (.primitive .commit) ended.1.1 := by
  generalize hbegun : (Op.start (.new (.new 0) .standard .empty)).run 0 .fresh = begun
  dsimp only
  generalize hclosed : (Op.disconnect begun.1.2).run begun.2.1 begun.2.2 = closed
  generalize hended : (Op.commit closed.1.2).run closed.2.1 closed.2.2 = ended
  have hid : begun.1.2.client.id = 0 := by rw [← hbegun]; decide +kernel
  have hdepth : closed.1.2.depth = 1 := by rw [← hclosed, ← hbegun]; decide +kernel
  have hcount : (ended.2.2.own 0).countP Entry.isOpening = (closed.2.2.own 0).countP Entry.isOpening + 1 := by
    rw [← hended, ← hclosed, ← hbegun]
    decide +kernel
  have alone : Apart (· = ·) begun.1.2.client.id := by
    rintro w _ rfl
    rfl
  have hdisconnect := Op.ends_of_run (fun _ _ => rfl) hclosed (Timed.throughout_of_forall (fun _ => trivial) _ _)
  have hcommit := Op.ends_of_run (fun _ _ => rfl) hended (Timed.throughout_of_forall (fun _ => trivial) _ _)
  obtain ⟨-, hways⟩ := replaced_session alone begun.2.2
  obtain ⟨-, hreplaced, -⟩ := hways closed.1.2 closed.2.2 (.act _ _ .disconnect _ _ _ .here trivial rfl hdisconnect)
  obtain ⟨news, hown, hreplacing⟩ :=
    hreplaced (by omega) (.primitive .commit) _ _ _ ⟨trivial, trivial⟩ hcommit
  rw [hid] at hown
  refine ⟨hdepth, ?_, ?_, news, hown, hreplacing ?_⟩
  · rw [← hended, ← hclosed, ← hbegun]
    rfl
  · rw [← hended, ← hclosed, ← hbegun]
    rfl
  · rw [hown, List.countP_append] at hcount
    exact List.countP_pos_iff.1 (by omega)

end SqlSession
