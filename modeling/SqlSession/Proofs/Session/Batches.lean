/-
Batches are all or nothing, in order.

From the moment that its transaction is open a batch stays in one session, as each statement that succeeds leaves that
session to be relied on. What it leaves in the ledger can so be written down statement by statement:
- `began_start`: the opening of the transaction;
- `attempted_execute`, `ran_executes`: statements, each prepared and run once, up to the first that fails;
- `sealed_commit`, `undone_rollback`: the end of the transaction;
- `batch_all_or_nothing`: a whole batch, in every way that it can go.
-/
import SqlSession.Proofs.Session.Acts
import SqlSession.Proofs.Session.Events

namespace SqlSession

open Connection (Alike)

/-! ## Entries -/

/-- a request that was received and succeeded -/
def answered (session : SessionId) (limit : Option Duration) (request : Request) : List Entry :=
  [.received session request limit, .succeeded session request]

/-- a statement that was prepared and run -/
def performed (session : SessionId) (limit : Option Duration) (s : Statement) : List Entry :=
  answered session limit (.prepare s.text) ++ answered session limit (.execute s)

/-- the limit of statements that have none of their own; without a valid one nothing is run -/
def Connection.given (c : Connection) : Option Duration := (c.limit none).toOption.join

theorem given_of_limit {c : Connection} {limit : Option Duration} (h : c.limit none = .ok limit) : c.given = limit := by
  rw [Connection.given, h]
  rfl

theorem limited_of_limit {c : Connection} {limit : Option Duration} (h : c.limit none = .ok limit) :
    c.limit none = .ok c.given := by
  rw [given_of_limit h, h]

theorem limit_congr {c c' : Connection} (h : c'.config = c.config) : c'.limit none = c.limit none := by
  simp only [Connection.limit, h]

theorem given_congr {c c' : Connection} (h : c'.config = c.config) : c'.given = c.given := by
  rw [Connection.given, Connection.given, limit_congr h]

namespace Op

variable {others : World → World → Prop} {T : String → Prop} {c c' c₁ : Connection} {w w' w₁ : World}

/-! ## Statements in a session that is there -/

theorem Begun.of_ready {statement : Statement} {own : Option Duration} {x : Except Error (Option Duration)}
    (h : Begun others statement own c w x c' w') (hc : c.Ready) :
    x = c.limit own ∧ c' = c.beginStatement statement ∧ w' = w := by
  cases h with
  | unconnected e c' w' hconn => cases (hconn.of_live hc.sure hc.live).1
  | connected c₁ w₁ hconn =>
    obtain ⟨-, rfl, rfl⟩ := hconn.of_live hc.sure hc.live
    exact ⟨rfl, rfl, rfl⟩

/-- what a statement leaves in the ledger, and what its error tells of -/
inductive Attempted (session : SessionId) (limit : Option Duration) (s : Statement) :
    Except Error Reply → List Entry → Prop
  | unlimited : Attempted session limit s (.error .secondsOverflow) []
  | unprepared (cause : NativeError) (e : Error) (entries : List Entry)
      (exchange : Exchange (α := Nat) session (.prepare s.text) limit (.error cause) entries)
      (blamed : Blamed .prepare cause e) : Attempted session limit s (.error e) entries
  | failed (cause : NativeError) (e : Error) (entries : List Entry)
      (exchange : Exchange (α := Reply) session (.execute s) limit (.error cause) entries)
      (blamed : Blamed .execute cause e) :
      Attempted session limit s (.error e) (answered session limit (.prepare s.text) ++ entries)
  | done (reply : Reply) : Attempted session limit s (.ok reply) (performed session limit s)

/-- a statement that is prepared has a handle of its own -/
theorem ends_prepare_ok {s : Statement} {own : Option Duration} {p : Prepared}
    (h : Ends others (prepare s own) c w (.ok p) c' w') (ha : Apart others c.client.id) (hc : c.Ready) :
    ∃ limit, c.limit own = .ok limit ∧ c'.client.session = c.client.session ∧
      c'.client.prepared.lookup p.handle = some s.text ∧
      w'.own c.client.id = w.own c.client.id ++ answered c.client.session limit (.prepare s.text) := by
  obtain ⟨e, -, heq⟩ | ⟨limit, c₁, w₁, x, client, w₂, hb, hpreparing, hkept, hown⟩ := ends_prepare h ha
  · cases heq
  obtain ⟨hl, rfl, rfl⟩ := hb.of_ready hc
  obtain ⟨rfl, -, rfl⟩ := hkept.ok
  obtain ⟨⟨entries, hexchange, hprepared⟩, -, hclient⟩ := exchange_preparing hpreparing ha
  obtain ⟨hhandle, rfl⟩ := hclient p.handle rfl
  cases hexchange
  exact ⟨limit, hl.symm, rfl, by rw [hhandle]; exact List.lookup_cons_self, hown.trans hprepared⟩

theorem attempted_execute {s : Statement} {r : Except Error Reply} (h : Ends others (execute s none) c w r c' w')
    (ha : Apart others c.client.id) (hc : c.Ready) :
    ∃ entries, Attempted c.client.session c.given s r entries ∧ w'.own c.client.id = w.own c.client.id ++ entries := by
  obtain ⟨e, hl, rfl, rfl, rfl⟩ | ⟨e, hp, rfl⟩ | ⟨limit, p, c₁, w₁, x, client, w₂, hl, hp, hx, hconc, hown⟩ :=
    ends_execute h ha
  · rw [limit_error hl]
    exact ⟨[], .unlimited, by simp⟩
  · obtain ⟨_, hb, heq⟩ | ⟨limit, c₁, w₁, x, client, w₂, hb, hpreparing, hkept, hown⟩ := ends_prepare hp ha
    · cases heq
      obtain ⟨hl, rfl, rfl⟩ := hb.of_ready hc
      rw [limit_error hl.symm]
      exact ⟨[], .unlimited, by simp⟩
    · obtain ⟨hl, rfl, rfl⟩ := hb.of_ready hc
      obtain ⟨⟨entries, hexchange, hprepared⟩, -, -⟩ := exchange_preparing hpreparing ha
      rw [given_of_limit hl.symm]
      cases hkept with
      | failed cause e hblamed => exact ⟨entries, .unprepared cause e entries hexchange hblamed, hown.trans hprepared⟩
  · obtain ⟨limit', hl', hsession, hlookup, hprepared⟩ := ends_prepare_ok hp ha hc
    obtain rfl : limit' = limit := Except.ok.inj (hl'.symm.trans hl)
    have hid : c₁.client.id = c.client.id := congrArg SessionId.client hsession
    obtain ⟨⟨entries, hrun, hend⟩, -⟩ := exchange_executing hx (hid.symm ▸ ha)
    rw [hid, hprepared, List.append_assoc, ← hown] at hrun
    rw [given_of_limit hl]
    obtain ⟨hnone, -⟩ | ⟨text, hsome, hexchange⟩ := hend
    · cases hnone.symm.trans hlookup
    cases hsome.symm.trans hlookup
    rw [hsession] at hexchange
    cases hconc with
    | failed cause e hblamed => exact ⟨_, .failed cause e entries hexchange hblamed, hrun⟩
    | answered reply =>
      cases hexchange
      exact ⟨_, .done reply, hrun⟩

/-- the same session at the same depth, with the same settings -/
structure Remains (c c' : Connection) : Prop where
  session : c'.client.session = c.client.session
  depth : c'.depth = c.depth
  config : c'.config = c.config

theorem Remains.trans (h : Remains c c₁) (h' : Remains c₁ c') : Remains c c' where
  session := h'.session.trans h.session
  depth := h'.depth.trans h.depth
  config := h'.config.trans h.config

theorem Remains.id (h : Remains c c') : c'.client.id = c.client.id := congrArg SessionId.client h.session

/-- behind a statement its session is relied on, or it is marked; behind one that succeeded it is relied on -/
theorem remains_execute {s : Statement} {r : Except Error Reply} (h : Ends others (execute s none) c w r c' w')
    (ha : Apart others c.client.id) (hc : c.Ready) :
    Remains c c' ∧ (c'.Ready ∨ c'.needsReconnect = true) ∧ ∀ reply, r = .ok reply → c'.Ready := by
  obtain ⟨hran, htold⟩ := (stated_execute (T := fun _ => True) h ha trivial).of_ready hc
  refine ⟨⟨hran.session, hran.depth, hran.config⟩, ?_, htold.ready⟩
  cases hdoubt : c'.needsReconnect with
  | true => exact .inr rfl
  | false => exact .inl ⟨hdoubt, (hran.sure hdoubt).2.trans hc.live⟩

/-- statements that succeeded one after the other, with what came of each -/
inductive Executes (others : World → World → Prop) :
    List Statement → List Reply → Connection → World → Connection → World → Prop
  | done (c : Connection) (w : World) : Executes others [] [] c w c w
  | next {s : Statement} {rest : List Statement} {reply : Reply} {replies : List Reply} {c c₁ c' : Connection}
      {w w₁ w' : World} (first : Ends others (execute s none) c w (.ok reply) c₁ w₁)
      (more : Executes others rest replies c₁ w₁ c' w') : Executes others (s :: rest) (reply :: replies) c w c' w'

/-- **Statements in order.** Each is prepared and run once, all in the session that is there. -/
theorem ran_executes {statements : List Statement} {replies : List Reply}
    (h : Executes others statements replies c w c' w') (ha : Apart others c.client.id) (hc : c.Ready) :
    Remains c c' ∧ c'.Ready ∧
      w'.own c.client.id = w.own c.client.id ++ statements.flatMap (performed c.client.session c.given) := by
  induction h with
  | done c w => exact ⟨⟨rfl, rfl, rfl⟩, hc, by simp⟩
  | next first more ih =>
    obtain ⟨hremains, -, hready⟩ := remains_execute first ha hc
    obtain ⟨entries, hattempted, hown⟩ := attempted_execute first ha hc
    obtain ⟨hremains', hready', hown'⟩ := ih (hremains.id.symm ▸ ha) (hready _ rfl)
    cases hattempted
    rw [hremains.id, hremains.session, given_congr hremains.config, hown] at hown'
    exact ⟨hremains.trans hremains', hready', by rw [hown', List.flatMap_cons, List.append_assoc]⟩

/-- all statements succeed, or they do up to the first that fails -/
theorem ends_executeAll {statements : List Statement} {x : Except Error Nat}
    (h : Ends others (executeAll statements) c w x c' w') :
    (∃ replies : List Reply, x = .ok (replies.map Reply.affected).sum ∧ Executes others statements replies c w c' w') ∨
      ∃ done s rest replies e c₁ w₁, statements = done ++ s :: rest ∧ x = .error e ∧
        Executes others done replies c w c₁ w₁ ∧ Ends others (execute s none) c₁ w₁ (.error e) c' w' := by
  induction statements generalizing c w x with
  | nil =>
    obtain ⟨rfl, rfl, rfl⟩ := ends_pure.1 h
    exact .inl ⟨[], rfl, .done _ _⟩
  | cons s statements ih =>
    rcases ends_bind.1 h with ⟨e, he, rfl⟩ | ⟨reply, c₁, w₁, he, h⟩
    · exact .inr ⟨[], s, statements, [], e, c, w, rfl, rfl, .done _ _, he⟩
    rcases ends_bind.1 h with ⟨e, hr, rfl⟩ | ⟨n, c₂, w₂, hr, h⟩
    · obtain ⟨_, heq, -⟩ | ⟨done, s', rest, replies, e', c₂, w₂, rfl, heq, hdone, hfailed⟩ := ih hr
      · cases heq
      · cases heq
        exact .inr ⟨s :: done, s', rest, reply :: replies, e, c₂, w₂, rfl, rfl, .next he hdone, hfailed⟩
    · obtain ⟨rfl, rfl, rfl⟩ := ends_pure.1 h
      obtain ⟨replies, heq, hdone⟩ | ⟨_, _, _, _, _, _, _, -, heq, -⟩ := ih hr
      · cases heq
        exact .inl ⟨reply :: replies, by simp, .next he hdone⟩
      · cases heq

/-! ## The transaction around them -/

/-- what opens a transaction inside `depth` others -/
def startText (depth : Nat) : String :=
  if depth = 0 then "BEGIN" else "SAVEPOINT " ++ savepointName (depth + 1)

/-- how the transaction of a batch is opened, with the entries of that: a session is made sure of, which asks for
nothing, and what opens the transaction is asked for in it, unless it is an inner one and there are no savepoints -/
inductive Began (c : Connection) (c₁ : Connection) (w₁ : World) : List Entry → Prop
  | asked (front : List Entry) (unasked : ∀ e ∈ front, e.request? = none) (limited : c₁.limit none = .ok c₁.given) :
      Began c c₁ w₁ (front ++ answered c₁.client.session c₁.given (.query (startText c.depth)))
  | unsupported (front : List Entry) (unasked : ∀ e ∈ front, e.request? = none) (inside : 0 < c.depth)
      (none : w₁.server.savepoints = false) : Began c c₁ w₁ front

/-- without a valid limit there was nothing to begin with -/
theorem Began.limited {opening : List Entry} (h : Began c c₁ w₁ opening) :
    c₁.limit none = .ok c₁.given ∨ 0 < c.depth ∧ w₁.server.savepoints = false := by
  cases h with
  | asked _ _ hlimited => exact .inl hlimited
  | unsupported _ _ hinside hnone => exact .inr ⟨hinside, hnone⟩

/-- a query was asked for once, under the limit that there is, and succeeded -/
structure AskedOnce (text : String) (c : Connection) (w w' : World) : Prop where
  limited : c.limit none = .ok c.given
  own : w'.own c.client.id = w.own c.client.id ++ answered c.client.session c.given (.query text)

theorem answered_query {text : String} {rows : RowSet} (h : Ends others (query text none) c w (.ok rows) c' w')
    (ha : Apart others c.client.id) (hc : c.Ready) :
    Alike c c' ∧ AskedOnce text c w w' := by
  cases ends_queried_ready h ha hc with
  | answered _ limit _ _ hlimit halike hown =>
    rw [← given_of_limit hlimit] at hown
    exact ⟨halike, limited_of_limit hlimit, hown⟩

theorem answered_marking {text : String} (h : Marking others text c w (.ok ()) c' w') (ha : Apart others c.client.id)
    (hc : c.Ready) :
    Alike c c' ∧
      ((w'.server.savepoints = false ∧ w'.own c.client.id = w.own c.client.id) ∨ AskedOnce text c w w') := by
  generalize hr : Except.ok () = r at h
  cases h with
  | skipped w₁ hs hn => exact ⟨.refl c, .inl ⟨hn, ha _ _ hs⟩⟩
  | asked w₁ x c' w' hs hq =>
    cases x with
    | error e => cases hr
    | ok rows =>
      obtain ⟨halike, hanswers⟩ := answered_query hq ha hc
      exact ⟨halike, .inr ⟨hanswers.limited, by rw [hanswers.own, ha _ _ hs]⟩⟩

theorem answered_starting {depth : Nat} (h : Starting others (depth + 1) c w (.ok ()) c' w')
    (ha : Apart others c.client.id) (hc : c.Ready) :
    Alike c c' ∧ ((0 < depth ∧ w'.server.savepoints = false ∧ w'.own c.client.id = w.own c.client.id) ∨
      AskedOnce (startText depth) c w w') := by
  generalize hr : Except.ok () = r at h
  cases h with
  | outermost x c' w' hfirst hq =>
    cases x with
    | error e => cases hr
    | ok rows =>
      obtain rfl : depth = 0 := Nat.succ.inj hfirst
      exact (answered_query hq ha hc).imp id .inr
  | inner r c' w' hfurther hm =>
    subst hr
    have hinside : 0 < depth := by omega
    rw [startText, if_neg (Nat.ne_of_gt hinside)]
    exact (answered_marking hm ha hc).imp id (Or.imp (fun hnone => ⟨hinside, hnone⟩) id)

theorem began_start (h : Ends others start c w (.ok ()) c₁ w₁) (ha : Apart others c.client.id) :
    c₁.Ready ∧ c₁.depth = c.depth + 1 ∧ c₁.client.id = c.client.id ∧
      ∃ opening, Began c c₁ w₁ opening ∧ w₁.own c.client.id = w.own c.client.id ++ opening := by
  obtain ⟨e, heq, -⟩ | ⟨c₀, w₀, x, c₂, hconn, hstarting, ⟨rfl, -, rfl⟩ | ⟨e, -, heq, -⟩⟩ := ends_start h ha
  · cases heq
  swap
  · cases heq
  obtain ⟨hsure, hlive, hdepth⟩ := hconn.ready
  obtain ⟨front, hfront, hown⟩ := hconn.own
  have hid : c₀.client.id = c.client.id := hconn.id
  have ha₀ : Apart others c₀.deeper.client.id := (hid.symm ▸ ha : Apart others c₀.client.id)
  obtain ⟨halike, hasked⟩ := answered_starting hstarting ha₀ ⟨hsure, hlive⟩
  have hclient : c₁.client = c₀.client := halike.client
  refine ⟨⟨halike.needsReconnect.trans hsure, by rw [hclient, hlive]⟩, halike.depth.trans (congrArg (· + 1) hdepth),
    by rw [hclient, hid], ?_⟩
  have hsession : c₀.deeper.client.session = c₁.client.session := by rw [halike.client]
  have hgiven : c₀.deeper.given = c₁.given := (given_congr halike.config).symm
  have hlimit : c₀.deeper.limit none = c₁.limit none := (limit_congr halike.config).symm
  have hid₀ : c₀.deeper.client.id = c.client.id := hid
  obtain ⟨hinside, hnone, hsame⟩ | ⟨hlimited, hasked⟩ := hasked
  · rw [hid₀, hown] at hsame
    exact ⟨front, .unsupported front hfront (hdepth ▸ hinside) hnone, hsame⟩
  · rw [hlimit, hgiven] at hlimited
    rw [hid₀, hown, hsession, hgiven, hdepth, List.append_assoc] at hasked
    exact ⟨_, .asked front hfront hlimited, hasked⟩

theorem Leaving.of_ready {r : Except Error Nat} (h : Leaving others c w r c' w') (hc : c.Ready) (hd : 0 < c.depth) :
    r = .ok c.depth ∧ c' = c.shallower ∧ w' = w := by
  cases h with
  | outside hz => exact absurd hz (Nat.ne_of_gt hd)
  | unconnected e c' w' _ hconn => cases (hconn.of_live hc.sure hc.live).1
  | left c₁ w₁ _ hconn =>
    obtain ⟨-, rfl, rfl⟩ := hconn.of_live hc.sure hc.live
    exact ⟨rfl, rfl, rfl⟩

/-- how the transaction of a batch is made to last that was begun at a depth, with the entries of that -/
inductive Sealed (depth : Nat) (session : SessionId) (limit : Option Duration) : Except Error Unit → List Entry → Prop
  | inner (inside : 0 < depth) : Sealed depth session limit (.ok ()) []
  | committed (outside : depth = 0) : Sealed depth session limit (.ok ()) (answered session limit (.query "COMMIT"))
  | unsent (outside : depth = 0) (e : Error) : Sealed depth session limit (.error e) []
  | refused (outside : depth = 0) (e : Error) (limit' : Option Duration) (cause : NativeError) :
      Sealed depth session limit (.error e)
        [.received session (.query "COMMIT") limit', .failed session (.query "COMMIT") cause]

theorem sealed_commit {r : Except Error Unit} {depth : Nat} (h : Ends others commit c w r c' w')
    (ha : Apart others c.client.id) (hc : c.Ready) (hd : c.depth = depth + 1) :
    ∃ closing, Sealed depth c.client.session c.given r closing ∧ w'.own c.client.id = w.own c.client.id ++ closing := by
  have hpos : 0 < c.depth := by omega
  cases ends_commit h ha with
  | unconnected e c' w' hl => cases (hl.of_ready hc hpos).1
  | counted depth' c' w' hinner hl =>
    obtain ⟨heq, -, rfl⟩ := hl.of_ready hc hpos
    cases heq
    exact ⟨[], .inner (by omega), by simp⟩
  | sent c₁ w₁ x c' w' hl hq =>
    obtain ⟨heq, rfl, rfl⟩ := hl.of_ready hc hpos
    have hone : c.depth = 1 := (Except.ok.inj heq).symm
    have hzero : depth = 0 := by omega
    have hready : c.shallower.Ready := ⟨hc.sure, hc.live⟩
    cases ends_queried_ready hq ha hready with
    | unlimited e c' w' _ _ hown => exact ⟨[], .unsent hzero e, hown.trans (List.append_nil _).symm⟩
    | late e c' w' _ hown => exact ⟨[], .unsent hzero e, hown.trans (List.append_nil _).symm⟩
    | failed e limit cause c' w' _ _ _ _ hown => exact ⟨_, .refused hzero e limit cause, hown⟩
    | answered rows limit c' w' hlimit _ hown =>
      have hgiven : c.given = limit := given_of_limit hlimit
      rw [hgiven]
      exact ⟨_, .committed hzero, hown⟩

/-- what undoes a transaction inside `depth` others -/
def undoText (depth : Nat) : String :=
  if depth = 0 then "ROLLBACK" else "ROLLBACK TO SAVEPOINT " ++ savepointName (depth + 1)

/-- how the transaction of a batch is undone that was begun at a depth in `w₁`, with the entries of that: its session was
marked with the statement that failed, and nothing is asked for in it; the rollback is asked for; it is late, which marks
the session; or it is an inner one, and there are no savepoints, or were none when it began. `c` is the connection behind
the statement -/
inductive Undone (depth : Nat) (w₁ : World) (session : SessionId) (c c' : Connection) (w' : World) : List Entry → Prop
  | marked (entries : List Entry) (marked : c.needsReconnect = true) (unasked : ∀ e ∈ entries, e.request? = none) :
      Undone depth w₁ session c c' w' entries
  | asked (limit : Option Duration) (answer : Entry)
      (answers : answer = .succeeded session (.query (undoText depth)) ∨
        ∃ cause, answer = .failed session (.query (undoText depth)) cause) :
      Undone depth w₁ session c c' w' [.received session (.query (undoText depth)) limit, answer]
  | late (marked : c'.needsReconnect = true) : Undone depth w₁ session c c' w' []
  | unsupported (inside : 0 < depth) (none : w₁.server.savepoints = false ∨ w'.server.savepoints = false) :
      Undone depth w₁ session c c' w' []

theorem undone_query {x : Except Error RowSet} {depth : Nat} {text : String}
    (h : Ends others (query text none) c.shallower w x c' w') (ha : Apart others c.client.id) (hc : c.Ready)
    (hl : c.limit none = .ok c.given ∨ 0 < depth ∧ w₁.server.savepoints = false) (ht : text = undoText depth) :
    ∃ undoing, Undone depth w₁ c.client.session c c' w' undoing ∧
      w'.own c.client.id = w.own c.client.id ++ undoing := by
  subst ht
  have hready : c.shallower.Ready := ⟨hc.sure, hc.live⟩
  cases ends_queried_ready h ha hready with
  | unlimited e c' w' hlimit _ hown =>
    have hlimit' : c.limit none = .error e := hlimit
    obtain hl | ⟨hinside, hnone⟩ := hl
    · cases hl.symm.trans hlimit'
    · exact ⟨[], .unsupported hinside (.inl hnone), hown.trans (List.append_nil _).symm⟩
  | late e c' w' halike hown => exact ⟨[], .late halike.needsReconnect, hown.trans (List.append_nil _).symm⟩
  | failed e limit cause c' w' _ _ _ _ hown => exact ⟨_, .asked limit _ (.inr ⟨cause, rfl⟩), hown⟩
  | answered rows limit c' w' _ _ hown => exact ⟨_, .asked limit _ (.inl rfl), hown⟩

theorem undone_ready {r : Except Error Unit} {depth : Nat} (h : Ends others rollback c w r c' w')
    (ha : Apart others c.client.id) (hc : c.Ready)
    (hl : c.limit none = .ok c.given ∨ 0 < depth ∧ w₁.server.savepoints = false) (hd : c.depth = depth + 1) :
    ∃ undoing, Undone depth w₁ c.client.session c c' w' undoing ∧
      w'.own c.client.id = w.own c.client.id ++ undoing := by
  have hpos : 0 < c.depth := by omega
  cases ends_rollback h ha with
  | unconnected e c' w' hleaving => cases (hleaving.of_ready hc hpos).1
  | outside c' w' hleaving =>
    obtain ⟨heq, -⟩ := hleaving.of_ready hc hpos
    have hzero : c.depth = 0 := (Except.ok.inj heq).symm
    omega
  | outermost c₁ w₁ x c' w' hleaving hq =>
    obtain ⟨heq, rfl, rfl⟩ := hleaving.of_ready hc hpos
    have hone : c.depth = 1 := (Except.ok.inj heq).symm
    have hzero : depth = 0 := by omega
    exact undone_query hq ha hc hl (by rw [undoText, if_pos hzero])
  | inner depth' c₁ w₁ r c' w' hfurther hleaving hm =>
    obtain ⟨heq, rfl, rfl⟩ := hleaving.of_ready hc hpos
    cases heq
    have hinside : 0 < depth := by omega
    cases hm with
    | skipped w₂ hs hn => exact ⟨[], .unsupported hinside (.inr hn), (ha _ _ hs).trans (List.append_nil _).symm⟩
    | asked w₂ x c' w' hs hq =>
      rw [← ha _ _ hs]
      exact undone_query hq ha hc hl (by rw [undoText, if_neg (Nat.ne_of_gt hinside), hd])

/-- a marked session is replaced first, and the loss of the transaction is all that is told -/
theorem undone_marked {r : Except Error Unit} {depth : Nat} (h : Ends others rollback c w r c' w')
    (ha : Apart others c.client.id) (hmarked : c.needsReconnect = true) (hd : c.depth = depth + 1) :
    ∃ undoing, Undone depth w₁ c.client.session c c' w' undoing ∧
      w'.own c.client.id = w.own c.client.id ++ undoing := by
  have hunready : ¬c.Ready := fun hready => by simp [hready.sure] at hmarked
  have hlost : c.lost = c.depth := by simp [Connection.lost, hmarked]
  cases course_rollback (T := fun _ => True) h ha trivial fun _ => trivial with
  | still r c' w' _ _ hdepth _ => exact absurd hdepth (by omega)
  | within r c' w' hready _ _ _ => exact absurd hready hunready
  | failed e c' w' _ hr =>
    obtain ⟨undoing, hown, hunasked⟩ := hr.unasked
    exact ⟨undoing, .marked undoing hmarked hunasked, hown⟩
  | anew c₁ w₁ r c' w' _ hr _ _ _ =>
    cases hr with
    | opened _ c₁ w₁ _ hnone _ _ => omega

theorem undone_rollback {r : Except Error Unit} {depth : Nat} (h : Ends others rollback c w r c' w')
    (ha : Apart others c.client.id) (hc : c.Ready ∨ c.needsReconnect = true)
    (hl : c.limit none = .ok c.given ∨ 0 < depth ∧ w₁.server.savepoints = false) (hd : c.depth = depth + 1) :
    ∃ undoing, Undone depth w₁ c.client.session c c' w' undoing ∧
      w'.own c.client.id = w.own c.client.id ++ undoing := by
  rcases hc with hc | hmarked
  · exact undone_ready h ha hc hl hd
  · exact undone_marked h ha hmarked hd

/-! ## Batches -/

/-- how a batch goes, with the entries of all its statements: its transaction could not be opened; all its statements
were run, and the transaction is made to last; one of them failed, and the transaction is undone; or one of them was
aborted, and nothing is done behind it -/
inductive Batched (others : World → World → Prop) (statements : List Statement) (c : Connection) (w : World) :
    Except Error Nat → Connection → World → Prop
  | unbegun (e : Error) (c' : Connection) (w' : World) (news : List Entry)
      (started : Ends others start c w (.error e) c' w') (own : w'.own c.client.id = w.own c.client.id ++ news)
      (opening : ∀ entry ∈ news, ∀ session request, entry.request? = some (session, request) →
        request.text = startText c.depth) :
      Batched others statements c w (.error e) c' w'
  | ended (replies : List Reply) (z : Except Error Unit) (opening closing : List Entry) (c₁ c₂ c' : Connection)
      (w₁ w₂ w' : World) (started : Ends others start c w (.ok ()) c₁ w₁)
      (ran : Executes others statements replies c₁ w₁ c₂ w₂) (committed : Ends others commit c₂ w₂ z c' w')
      (began : Began c c₁ w₁ opening) (sealed : Sealed c.depth c₁.client.session c₁.given z closing)
      (own : w'.own c.client.id = w.own c.client.id ++
        (opening ++ statements.flatMap (performed c₁.client.session c₁.given) ++ closing)) :
      Batched others statements c w (z.map fun _ => (replies.map Reply.affected).sum) c' w'
  | failed (done rest : List Statement) (s : Statement) (replies : List Reply) (e : Error) (z : Except Error Unit)
      (opening attempt undoing : List Entry) (c₁ c₂ c₃ c' : Connection) (w₁ w₂ w₃ w' : World)
      (order : statements = done ++ s :: rest) (started : Ends others start c w (.ok ()) c₁ w₁)
      (ran : Executes others done replies c₁ w₁ c₂ w₂) (goesOn : e.isAbort = false)
      (failed : Ends others (execute s none) c₂ w₂ (.error e) c₃ w₃)
      (rolledBack : Ends others rollback c₃ w₃ z c' w') (began : Began c c₁ w₁ opening)
      (attempted : Attempted c₁.client.session c₁.given s (.error e) attempt)
      (undone : Undone c.depth w₁ c₁.client.session c₃ c' w' undoing)
      (own : w'.own c.client.id = w.own c.client.id ++
        (opening ++ done.flatMap (performed c₁.client.session c₁.given) ++ attempt ++ undoing)) :
      Batched others statements c w (outcome (.error e) z) c' w'
  | aborted (done rest : List Statement) (s : Statement) (replies : List Reply) (e : Error)
      (opening attempt : List Entry) (c₁ c₂ c' : Connection) (w₁ w₂ w' : World)
      (order : statements = done ++ s :: rest) (started : Ends others start c w (.ok ()) c₁ w₁)
      (ran : Executes others done replies c₁ w₁ c₂ w₂) (abort : e.isAbort = true)
      (failed : Ends others (execute s none) c₂ w₂ (.error e) c' w') (began : Began c c₁ w₁ opening)
      (attempted : Attempted c₁.client.session c₁.given s (.error e) attempt)
      (own : w'.own c.client.id = w.own c.client.id ++
        (opening ++ done.flatMap (performed c₁.client.session c₁.given) ++ attempt)) :
      Batched others statements c w (.error e) c' w'

section

variable {statements : List Statement} {c₂ c₃ : Connection} {w₂ w₃ : World} {e : Error} {z : Except Error Unit}

theorem batched_unbegun (hs : Ends others start c w (.error e) c' w') (ha : Apart others c.client.id) :
    Batched others statements c w (.error e) c' w' := by
  obtain ⟨_, -, hconn⟩ | ⟨c₀, w₀, x, c₂, hconn, hstarting, ⟨-, heq, -⟩ | ⟨e', -, -, rfl⟩⟩ := ends_start hs ha
  · obtain ⟨front, hfront, hown⟩ := hconn.own
    exact .unbegun e c' w' front hs hown fun entry he session request heq => by simp [hfront entry he] at heq
  · cases heq
  obtain ⟨hsure, hlive, hdepth⟩ := hconn.ready
  obtain ⟨front, hfront, hown⟩ := hconn.own
  have hid : c₀.deeper.client.id = c.client.id := hconn.id
  have hfirst : c₀.depth + 1 = 1 → "BEGIN" = startText c.depth := fun hone => by rw [startText, if_pos (by omega)]
  have hfurther : c₀.depth + 1 ≠ 1 → "SAVEPOINT " ++ savepointName (c₀.depth + 1) = startText c.depth :=
    fun hmore => by rw [startText, if_neg (by omega), hdepth]
  obtain ⟨hran, -⟩ := ran_starting (T := fun text => text = startText c.depth) hstarting (hid.symm ▸ ha) ⟨hsure, hlive⟩
    hfirst hfurther
  obtain ⟨news, hn, hown'⟩ := hran.own
  rw [hid, hown, List.append_assoc] at hown'
  refine .unbegun e _ w' (front ++ news) hs hown' fun entry he session request heq => ?_
  rcases List.mem_append.1 he with he | he
  · simp [hfront entry he] at heq
  · exact hn.requests entry he session request heq

theorem batched_ended {replies : List Reply} (hs : Ends others start c w (.ok ()) c₁ w₁)
    (hran : Executes others statements replies c₁ w₁ c₂ w₂) (hz : Ends others commit c₂ w₂ z c' w')
    (ha : Apart others c.client.id) :
    Batched others statements c w (z.map fun _ => (replies.map Reply.affected).sum) c' w' := by
  obtain ⟨hready, hdepth, hid, opening, hbegan, hopening⟩ := began_start hs ha
  rw [← hid] at ha hopening
  obtain ⟨hremains, hready₂, hall⟩ := ran_executes hran ha hready
  rw [← hremains.id] at ha
  obtain ⟨closing, hsealed, hclosing⟩ := sealed_commit hz ha hready₂ (hremains.depth.trans hdepth)
  rw [hremains.session, given_congr hremains.config] at hsealed
  refine .ended replies z opening closing c₁ c₂ c' w₁ w₂ w' hs hran hz hbegan hsealed ?_
  rw [hremains.id, hall, hopening, hid] at hclosing
  simpa only [List.append_assoc] using hclosing

/-- up to a statement that fails, nothing is asked for but what opens the transaction and the statements up to this
one -/
theorem own_failed {done : List Statement} {s : Statement} {replies : List Reply}
    (hs : Ends others start c w (.ok ()) c₁ w₁) (hran : Executes others done replies c₁ w₁ c₂ w₂)
    (hfailed : Ends others (execute s none) c₂ w₂ (.error e) c₃ w₃) (ha : Apart others c.client.id) :
    ∃ opening attempt, Began c c₁ w₁ opening ∧ Attempted c₁.client.session c₁.given s (.error e) attempt ∧
      Remains c₁ c₃ ∧ (c₃.Ready ∨ c₃.needsReconnect = true) ∧ c₃.client.id = c.client.id ∧ c₃.depth = c.depth + 1 ∧
      w₃.own c.client.id = w.own c.client.id ++
        (opening ++ done.flatMap (performed c₁.client.session c₁.given) ++ attempt) := by
  obtain ⟨hready, hdepth, hid, opening, hbegan, hopening⟩ := began_start hs ha
  rw [← hid] at ha hopening
  obtain ⟨hremains, hready₂, hall⟩ := ran_executes hran ha hready
  rw [← hremains.id] at ha
  obtain ⟨hremains', hlive, -⟩ := remains_execute hfailed ha hready₂
  obtain ⟨attempt, hattempted, hattempt⟩ := attempted_execute hfailed ha hready₂
  rw [hremains.session, given_congr hremains.config] at hattempted
  have hboth : Remains c₁ c₃ := hremains.trans hremains'
  refine ⟨opening, attempt, hbegan, hattempted, hboth, hlive, hboth.id.trans hid, hboth.depth.trans hdepth, ?_⟩
  rw [hremains.id, hall, hopening, hid] at hattempt
  simpa only [List.append_assoc] using hattempt

theorem batched_failed {done rest : List Statement} {s : Statement} {replies : List Reply}
    (order : statements = done ++ s :: rest) (hs : Ends others start c w (.ok ()) c₁ w₁)
    (hran : Executes others done replies c₁ w₁ c₂ w₂) (hgoes : e.isAbort = false)
    (hfailed : Ends others (execute s none) c₂ w₂ (.error e) c₃ w₃) (hz : Ends others rollback c₃ w₃ z c' w')
    (ha : Apart others c.client.id) : Batched others statements c w (outcome (.error e) z) c' w' := by
  obtain ⟨opening, attempt, hbegan, hattempted, hremains, hlive, hid, hdepth, hattempt⟩ :=
    own_failed hs hran hfailed ha
  have hlimited : c₃.limit none = .ok c₃.given ∨ 0 < c.depth ∧ w₁.server.savepoints = false := by
    rw [limit_congr hremains.config, given_congr hremains.config]
    exact hbegan.limited
  rw [← hid] at ha
  obtain ⟨undoing, hundone, hundoing⟩ := undone_rollback hz ha hlive hlimited hdepth
  rw [hremains.session] at hundone
  refine .failed done rest s replies e z opening attempt undoing c₁ c₂ c₃ c' w₁ w₂ w₃ w' order hs hran hgoes hfailed hz
    hbegan hattempted hundone ?_
  rw [hid, hattempt, List.append_assoc] at hundoing
  exact hundoing

end

/-- **All or nothing, in order.** A batch of statements asks for what opens a transaction, then for each of its
statements once and in order, all in one session, then for COMMIT if it is outside any other transaction; its result is
the sum of the rows that they affected. If one of them fails, then its error is the result, no later one is asked for,
and behind it is asked for nothing but what undoes the transaction, unless the session was marked or there are no
savepoints. Behind an abort nothing is asked for. -/
theorem batch_all_or_nothing {statements : List Statement} {r : Except Error Nat}
    (h : Ends others (batch statements) c w r c' w') (hs : statements ≠ []) (ha : Apart others c.client.id) :
    Batched others statements c w r c' w' := by
  unfold batch at h
  rw [if_neg (by simpa using hs)] at h
  obtain ⟨e, hstart, rfl⟩ | ⟨c₁, w₁, hstart, hworked⟩ := ends_transaction h
  · exact batched_unbegun hstart ha
  obtain ⟨e, habort, hwork, rfl⟩ | ⟨x, c₂, w₂, hgoes, hwork, hsettle⟩ := hworked
  · obtain ⟨_, heq, -⟩ | ⟨done, s, rest, replies, e, c₃, w₃, order, heq, hran, hfailed⟩ := ends_executeAll hwork
    · cases heq
    · cases heq
      obtain ⟨opening, attempt, hbegan, hattempted, -, -, -, -, hattempt⟩ := own_failed hstart hran hfailed ha
      exact .aborted done rest s replies e opening attempt c₁ c₃ c' w₁ w₃ w' order hstart hran habort hfailed hbegan
        hattempted hattempt
  obtain ⟨replies, rfl, hran⟩ | ⟨done, s, rest, replies, e, c₃, w₃, order, rfl, hran, hfailed⟩ := ends_executeAll hwork
  · obtain ⟨a, heq, z, hcommit, rfl⟩ | ⟨_, _, heq, -⟩ := ends_settle hsettle
    · cases heq
      exact batched_ended hstart hran hcommit ha
    · cases heq
  · obtain ⟨_, heq, -⟩ | ⟨_, z, heq, rfl, hrollback⟩ := ends_settle hsettle
    · cases heq
    · cases heq
      exact batched_failed order hstart hran hgoes hfailed hrollback ha

/-- two statements outside any transaction, each of which affects two rows: both are committed -/
theorem batch_all_or_nothing_committed :
    let statements := [Statement.ofText "DELETE FROM a", Statement.ofText "DELETE FROM b"]
    let run := (batch statements (.new (.new 0) .standard .empty)).run 0
      (World.fresh.arrange fun s => { s with affected := 2 })
    run.1.1 = .ok 4 ∧ ∃ opening session limit, run.2.2.own 0 =
      opening ++ statements.flatMap (performed session limit) ++ answered session limit (.query "COMMIT") := by
  intro statements
  generalize hrun : (batch statements (.new (.new 0) .standard .empty)).run 0
    (World.fresh.arrange fun s => { s with affected := 2 }) = run
  have hok : run.1.1 = .ok 4 := by rw [← hrun]; decide +kernel
  have alone : Apart (· = ·) 0 := by
    rintro w _ rfl
    rfl
  have hends := Op.ends_of_run (fun _ _ => rfl) hrun (Timed.throughout_of_forall (fun _ => trivial) _ _)
  have hbatched := batch_all_or_nothing hends (by simp [statements]) alone
  refine ⟨hok, ?_⟩
  generalize run.1.1 = r at hok hbatched
  cases hbatched with
  | unbegun e _ _ _ _ _ _ => cases hok
  | failed _ _ _ _ _ z => exact absurd hok (outcome_error_ne_ok z)
  | aborted => cases hok
  | ended replies z opening closing c₁ c₂ _ w₁ w₂ _ _ _ _ _ hsealed hown =>
    cases hsealed with
    | inner hinside => exact absurd hinside (lt_irrefl 0)
    | committed _ => exact ⟨opening, _, _, hown⟩
    | unsent _ e => cases hok
    | refused _ e _ _ => cases hok

end Op

end SqlSession
