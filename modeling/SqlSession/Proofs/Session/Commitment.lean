/-
What a transaction that succeeded has done on the server.

Work that reports success was committed, all of it in one session, unless the session had to be opened again on the way:
then the server has discarded what was done before, and nothing of it is committed. The loss is told once, to whoever
runs into it. Work that passes this error over goes on outside the transaction, and its success does not mean a thing
(`Op.committed_transaction`).
-/
import SqlSession.Proofs.Session.Holding

namespace SqlSession

/-- all that was done was done in one session, between its BEGIN and its COMMIT -/
def Committed (entries : List Entry) : Prop :=
  ∃ s mid, deeds entries = (s, .query "BEGIN") :: mid ++ [(s, .query "COMMIT")] ∧
    ∀ deed ∈ mid, deed.1 = s ∧ IsInner deed.2.text

/-- a session was opened when something had been done already -/
def Reopened (entries : List Entry) : Prop :=
  ∃ e ∈ entries.dropWhile fun e => e.deed?.isNone, e.isOpening = true

instance (entries : List Entry) : Decidable (Reopened entries) :=
  inferInstanceAs (Decidable (∃ e ∈ entries.dropWhile fun e => e.deed?.isNone, e.isOpening = true))

variable {base : List Entry} {s : SessionId} {c c' : Connection} {w w' : World} {others : World → World → Prop}

/-- behind the first thing that was done, whatever is opened is opened again -/
theorem reopened_iff {before tail : List Entry} {request : Request} (hb : deeds before = []) :
    Reopened (before ++ .succeeded s request :: tail) ↔ ∃ s', .opened s' ∈ tail := by
  have hdrop : (before ++ .succeeded s request :: tail).dropWhile (fun e => e.deed?.isNone) =
      .succeeded s request :: tail := by
    rw [List.dropWhile_append_of_pos fun e he => by rw [List.filterMap_eq_nil_iff.1 hb e he]; rfl]
    rfl
  rw [Reopened, hdrop]
  constructor
  · rintro ⟨e, he, hopen⟩
    cases e with
    | opened s' =>
      obtain hfirst | hlater := List.mem_cons.1 he
      · cases hfirst
      · exact ⟨s', hlater⟩
    | _ => cases hopen
  · rintro ⟨s', hs⟩
    exact ⟨.opened s', List.mem_cons_of_mem _ hs, rfl⟩

/-- a BEGIN that succeeds in a live session is the first of its deeds -/
theorem trail_begun {front : List Entry} {rows : RowSet} {own : Option Duration} (ha : Apart others c.client.id)
    (hs : c.needsReconnect = false) (hl : c.client.connected = true) (hf : ∀ e ∈ front, e.request? = none)
    (hown : w.own c.client.id = base ++ front) (h : Op.Ends others (Op.query "BEGIN" own) c w (.ok rows) c' w') :
    c.Alike c' ∧ Trail base c.client.session w' [] := by
  obtain ⟨c₁, w₁, limit, hc, halike, hown'⟩ := Op.ends_query_ok h ha
  obtain ⟨-, rfl, rfl⟩ := hc.of_live hs hl
  refine ⟨halike, front ++ [.received c₁.client.session (.query "BEGIN") limit], ?_, ?_⟩
  · show w'.own c₁.client.id = _
    rw [hown', hown]
    simp
  · rw [deeds_append, deeds_of_unasked hf]
    rfl

/-- the outermost transaction is begun in the session that it goes on with -/
theorem held_outermost (ha : Apart others c.client.id) (hd : c.depth = 0) (hp : ∀ e ∈ c.client.prepared, IsPlain e.2)
    (h : Op.Ends others Op.start c w (.ok ()) c' w') :
    ∃ s, s.client = c.client.id ∧ Held (w.own c.client.id) s 1 c' w' := by
  obtain ⟨e, heq, -⟩ | ⟨c₁, w₁, x, c₂, hc, hs, ⟨rfl, -, rfl⟩ | ⟨e, -, heq, -⟩⟩ := Op.ends_start h ha
  · cases heq
  swap
  · cases heq
  obtain ⟨hsure, hlive, hdepth⟩ := hc.ready
  obtain ⟨front, hf, hown⟩ := hc.own
  have hid : c₁.client.id = c.client.id := hc.id
  rw [← hid] at hown
  generalize hx : Except.ok () = x at hs
  cases hs with
  | inner r c' w' hfurther _ => omega
  | outermost x c' w' _ hq =>
    cases x with
    | error e => cases hx
    | ok rows =>
      obtain ⟨halike, htrail⟩ := trail_begun (c := c₁.deeper) (hid.symm ▸ ha) hsure hlive hf hown hq
      rw [← hid]
      refine ⟨c₁.client.session, rfl, ?_, ?_, ?_, fun _ => ⟨?_, ?_⟩, [], htrail, ⟨by simp, by simp [deeds]⟩⟩
      · rw [halike.client]
        rfl
      · intro e he
        rw [halike.client] at he
        exact (hp e (hc.prepared e he)).inner
      · rw [halike.depth]
        exact Nat.le_add_left 1 _
      · rw [halike.client]
        exact hlive
      · rw [halike.depth]
        exact congrArg (· + 1) (hdepth.trans hd)

/-- a transaction that is held to its end is committed -/
theorem committed_of_held (ha : Apart others s.client) (h : Held base s 1 c w)
    (hc : Op.Ends others Op.commit c w (.ok ()) c' w') :
    ∃ news, w'.own s.client = base ++ news ∧ Committed news ∧ ¬Reopened news := by
  generalize hx : Except.ok () = x at hc
  cases Op.ends_commit hc (h.id.symm ▸ ha) with
  | unconnected e c' w' _ => cases hx
  | counted depth c' w' hinner hl =>
    obtain ⟨heq, -⟩ | ⟨_, heq, -⟩ := held_leaving (le_refl 1) h hl
    · exact absurd (Except.ok.inj heq) hinner
    · cases heq
  | sent c₁ w₁ x c' w' hl hq =>
    obtain ⟨-, rfl, rfl, hsure⟩ | ⟨_, heq, -⟩ := held_leaving (le_refl 1) h hl
    swap
    · cases heq
    cases x with
    | error e => cases hx
    | ok rows =>
      obtain ⟨c₂, w₂, limit, hc₂, -, hown⟩ := Op.ends_query_ok hq (h.id.symm ▸ ha)
      obtain ⟨-, rfl, rfl⟩ := hc₂.of_live hsure (h.sure hsure).1
      obtain ⟨tail, ⟨before, heq, hb⟩, hsteady⟩ := h.own
      have hown' : w'.own s.client =
          w₂.own s.client ++ [.received s (.query "COMMIT") limit, .succeeded s (.query "COMMIT")] := by
        rw [← h.session]
        exact hown
      refine ⟨_, by rw [hown', heq, List.append_assoc, List.append_assoc], ⟨s, deeds tail, ?_, hsteady.inner⟩, ?_⟩
      · rw [deeds_append, hb, deeds_append]
        rfl
      · rw [List.cons_append, reopened_iff hb]
        rintro ⟨s', hs⟩
        simp only [List.mem_append, List.mem_cons, List.not_mem_nil, or_false, reduceCtorEq] at hs
        exact hsteady.unopened s' hs

/-- a transaction whose session is gone is not committed -/
theorem not_committed_of_gone (h : Gone base s c w) :
    ∃ news, w.own s.client = base ++ news ∧ ¬Committed news ∧ Reopened news := by
  obtain ⟨tail, ⟨before, heq, hb⟩, hopen, hinner⟩ := h.own
  refine ⟨_, by rw [heq, List.append_assoc], ?_, (reopened_iff hb).2 hopen⟩
  rintro ⟨s', mid, hdeeds, -⟩
  have hall : (s, Request.query "BEGIN") :: deeds tail = (s', .query "BEGIN") :: mid ++ [(s', .query "COMMIT")] := by
    rw [← hdeeds, deeds_append, hb]
    rfl
  obtain ⟨hfirst, hrest⟩ := List.cons.inj hall
  have hs : s = s' := congrArg Prod.fst hfirst
  have hlast : (s, Request.query "COMMIT") ∈ deeds tail := by rw [hrest, hs]; simp
  exact absurd (hinner _ hlast rfl _ Control.ofText_commit) (by decide)

namespace Op

/-- **What success means.** Work in an outermost transaction that succeeds was committed in one session if and only if
no session was opened since its BEGIN. -/
theorem committed_transaction {α : Type} (work : Program PlainStep α) {x : α} (ha : Apart others c.client.id)
    (hd : c.depth = 0) (hp : ∀ e ∈ c.client.prepared, IsPlain e.2)
    (h : Ends others (transaction (work.op PlainStep.perform)) c w (.ok x) c' w') :
    ∃ news, w'.own c.client.id = w.own c.client.id ++ news ∧ (Committed news ↔ ¬Reopened news) := by
  obtain ⟨e, -, heq⟩ | ⟨c₁, w₁, hs, ⟨_, -, -, heq⟩ | ⟨y, c₂, w₂, hgoes, hw, hsettle⟩⟩ := ends_transaction h
  · cases heq
  · cases heq
  obtain ⟨s, hid, hheld⟩ := held_outermost ha hd hp hs
  rw [← hid] at ha hheld ⊢
  obtain ⟨a, rfl, z, hc, hz⟩ | ⟨_, z, rfl, heq, -⟩ := ends_settle hsettle
  swap
  · exact absurd heq.symm (outcome_error_ne_ok z)
  cases z with
  | error e => cases hz
  | ok _ =>
    rcases mode_program work ha (le_refl 1) (.inl hheld) hw hgoes with hheld | hgone
    · obtain ⟨news, hown, hcommitted, hopen⟩ := committed_of_held ha hheld hc
      exact ⟨news, hown, iff_of_true hcommitted hopen⟩
    · obtain ⟨news, hown, hcommitted, hopen⟩ := not_committed_of_gone (gone_commit ha hgone hc)
      exact ⟨news, hown, iff_of_false hcommitted fun hn => hn hopen⟩

/-- a statement in a transaction of its own, whatever comes of it, and another one behind it -/
def passingOver : Program PlainStep Nat :=
  .transaction (.step (.execute (.ofText "UPDATE a SET x = 1") none (by decide)) fun r => .finish r) fun _ =>
    .step (.execute (.ofText "UPDATE b SET y = 2") none (by decide)) fun r => .finish (r.map Reply.affected)

/-- the session is lost inside, where the rollback is told of it and passes it over: the whole succeeds, and is not
committed -/
theorem committed_transaction_passingOver :
    let lost : NativeError := ⟨2006, "server has gone away"⟩
    let w := World.fresh.arrange fun s => { s with prepareFailures := [lost] }
    let run := (transaction (passingOver.op PlainStep.perform) (.new (.new 0) .standard .empty)).run 0 w
    run.1.1 = .ok 0 ∧ ¬Committed (run.2.2.own 0) := by
  intro lost w
  generalize hrun : (transaction (passingOver.op PlainStep.perform) (.new (.new 0) .standard .empty)).run 0 w = run
  have hok : run.1.1 = .ok 0 := by rw [← hrun]; decide +kernel
  have hreopened : Reopened (run.2.2.own 0) := by rw [← hrun]; decide +kernel
  have alone : Apart (· = ·) 0 := by
    rintro w _ rfl
    rfl
  have hends := ends_of_run (fun _ _ => rfl) hrun (Timed.throughout_of_forall (fun _ => trivial) _ _)
  rw [hok] at hends
  obtain ⟨news, hown, hiff⟩ := committed_transaction passingOver alone rfl (by simp [Connection.new, Client.new]) hends
  have hall : run.2.2.own 0 = news := hown
  refine ⟨hok, fun hc => hiff.1 (hall ▸ hc) (hall ▸ hreopened)⟩

end Op

end SqlSession
