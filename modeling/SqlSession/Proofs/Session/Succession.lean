/-
What a holder of a connection finds of the holders before it.

A holder gets a connection that is new or one that was used, in any way and by any number of holders, and then made
ready (`Obtained`). What stays of these uses is the lock method and the case of field names, the session, the count of
connects that failed, the log, and the number for the next prepared statement.
- `obtained_ready`: all that is known of such a connection;
- `next_lease_independent`: with the same lock method and field case, and sessions that make no difference, all
  operations of the next holder ask for the same and come to the same as they do on any other such connection, alone
  and among others;
- `next_lease_inherits`: what stays can be found out.
-/
import SqlSession.Proofs.Session.Handles
import SqlSession.Proofs.Session.Keeping
import SqlSession.Proofs.Session.Matching

namespace SqlSession

open Op (Both due)

/-- a connection with these settings as a holder gets it: new, or used and made ready; others may have gone on since -/
inductive Obtained (others : World → World → Prop) (id : Nat) (config : Config) (registry : Query.Registry) :
    Connection → World → Prop
  | new {w : World} (unknown : w.own id = []) : Obtained others id config registry (.new (.new id) config registry) w
  | used {α : Type} {work : Program (Use AnyText true) α} {r : Except Error α} {c₀ c : Connection} {w₀ w₁ w₂ w : World}
      (unknown : w₀.own id = [])
      (uses : Op.Ends others (work.op Use.perform) (.new (.new id) config registry) w₀ r c₀ w₁)
      (ready : Op.Ends others Op.beforeUse c₀ w₁ (.ok ()) c w₂)
      (since : w.own id = w₂.own id) : Obtained others id config registry c w

/-- where the holder of a connection begins -/
def Onset.of (c : Connection) (w : World) : Onset := ⟨c.client.id, w.own c.client.id, w.heard, c.client.nextHandle⟩

section

variable {others : World → World → Prop} {id : Nat} {config : Config} {registry : Query.Registry} {c c' : Connection}
  {w w' : World}

theorem settings_program {α : Type} (work : Program (Use AnyText true) α) :
    Op.Keeps Connection.settings (work.op Use.perform) :=
  keeps_program (fun s => match s with | .operation step _ => step.keeps_perform) work

/-- what is known of a connection that a holder gets -/
theorem obtained_ready (ha : Apart others id) (h : Obtained others id config registry c w) :
    c.client.id = id ∧ c.settings = (config, registry, config.tablePrefix) ∧ c.Revalidated config.tablePrefix ∧
      Numbered c w := by
  cases h with
  | new unknown => exact ⟨rfl, rfl, ⟨rfl, rfl, rfl⟩, numbered_fresh unknown⟩
  | @used _ work _ c₀ _ _ _ w₂ _ unknown uses ready since =>
    obtain ⟨events, hused⟩ := passage_program work uses ha
    obtain ⟨more, hready⟩ := Op.passes_beforeUse _ _ _ _ _ _ (hused.apart ha) ready
    have hpassage := hused.trans hready
    have hid : c.client.id = id := hpassage.id ha
    have hbefore : c₀.settings = (config, registry, config.tablePrefix) := (settings_program work _).ends uses
    have hsettings : c.settings = c₀.settings := (Op.keeps_beforeUse c₀).ends ready
    have hprefix : c₀.draft.tablePrefix = config.tablePrefix := congrArg (·.2.2) hbefore
    have hrevalidated : c.Revalidated c₀.draft.tablePrefix := (Op.secures_beforeUse c₀).ends ready () rfl
    have hnumbered : Numbered c w₂ := numbered_passage hpassage ha (numbered_fresh unknown)
    refine ⟨hid, hsettings.trans hbefore, hprefix ▸ hrevalidated, numbered_rests hnumbered (.refl _) ?_⟩
    rw [World.issued, World.issued, hid, since]

/-- no handle of a client has a number that it has not given yet -/
theorem lookup_later (hn : Numbered c w) (n : Nat) : c.client.prepared.lookup (c.client.nextHandle + n) = none := by
  cases hl : c.client.prepared.lookup (c.client.nextHandle + n) with
  | none => rfl
  | some text =>
    obtain ⟨-, hissued⟩ := hn.known _ _ (mem_of_lookup hl)
    obtain ⟨hbound, -⟩ := List.getElem?_eq_some_iff.1 hissued
    have hnext := hn.next
    omega

/-- two connections that holders get, as long as nothing that stays of their uses makes a difference -/
theorem mirrored_obtained {g : Stage} {id' : Nat} {others' : World → World → Prop} (ha : Apart others id)
    (ha' : Apart others' id') (hc : Obtained others id g.config registry c w)
    (hc' : Obtained others' id' g.config registry c' w') (hleft : g.left = .of c w) (hright : g.right = .of c' w')
    (hlock : c.lockMethod = c'.lockMethod) (hcase : c.fieldCase = c'.fieldCase)
    (hsession : g.free ∨ c.client.connected = c'.client.connected ∧ c.retries = c'.retries) :
    Mirrored g (due false) c c' := by
  obtain ⟨-, hsettings, hready, hn⟩ := obtained_ready ha hc
  obtain ⟨-, hsettings', hready', hn'⟩ := obtained_ready ha' hc'
  have hunknown : ∀ handle handle', g.Paired handle handle' →
      c.client.prepared.lookup handle = none ∧ c'.client.prepared.lookup handle' = none := by
    rintro _ _ ⟨n, rfl, rfl⟩
    rw [hleft, hright]
    exact ⟨lookup_later hn n, lookup_later hn' n⟩
  have hclient : c.client.Mirrors g c'.client :=
    { left := by rw [hleft]; rfl
      right := by rw [hright]; rfl
      next := ⟨0, by rw [hleft]; rfl, by rw [hright]; rfl⟩
      known := fun handle handle' hp => (hunknown handle handle' hp).1.trans (hunknown handle handle' hp).2.symm
      uneven := fun hne => ⟨hsession.resolve_right fun h => hne h.1, fun handle handle' hp =>
        (hunknown handle handle' hp).1⟩ }
  exact
    { client := hclient
      config := congrArg (·.1) hsettings
      config' := congrArg (·.1) hsettings'
      registry := congrArg (·.2.1) (hsettings.trans hsettings'.symm)
      draft := hready.draft.trans hready'.draft.symm
      retries := hsession.symm.imp (fun h => h.2) fun h => h
      needsReconnect := hready.sure.trans hready'.sure.symm
      depth := hready.depth.trans hready'.depth.symm
      fieldCase := hcase
      lockMethod := hlock
      tally := .inl ⟨0, rfl, Nat.le_of_eq hready.depth⟩ }

/-- two worlds in which holders begin -/
theorem facing_obtained {g : Stage} (hleft : g.left = .of c w) (hright : g.right = .of c' w')
    (hserver : w.server.outlook = w'.server.outlook) (hwelcome : g.free → w.server.Welcomes g.config)
    (hnamed : w.named = []) (hnamed' : w'.named = []) : Facing g w w' where
  server := hserver
  welcome := hwelcome
  asked := by
    rw [hleft, hright]
    exact ⟨[], [], (List.append_nil _).symm, (List.append_nil _).symm, rfl⟩
  heard := by
    rw [hleft, hright]
    exact ⟨[], (List.append_nil _).symm, (List.append_nil _).symm⟩
  named := by
    rw [hnamed, hnamed']
    exact .nil

end

/-- two holders begin, each on a connection with these settings and with no prepared statement of its own, with servers
that are going to answer alike -/
structure Successors (others others' : World → World → Prop) (id id' : Nat) (config : Config)
    (registry : Query.Registry) (c : Connection) (w : World) (c' : Connection) (w' : World) : Prop where
  apart : Apart others id
  apart' : Apart others' id'
  obtained : Obtained others id config registry c w
  obtained' : Obtained others' id' config registry c' w'
  server : w.server.outlook = w'.server.outlook
  named : w.named = []
  named' : w'.named = []

/-- two runs in which the same came of all operations, or which were aborted alike; the same was asked for, and the
listeners heard the same -/
structure Stage.Agree (g : Stage) (r r' : Except Error (List (Except Error Answer))) (w w' : World) : Prop where
  results : (∃ results results', r = .ok results ∧ r' = .ok results' ∧
    List.Forall₂ (Both (Answer.Matches g)) results results') ∨ ∃ e, e.isAbort = true ∧ r = .error e ∧ r' = .error e
  asked : ∃ news news', w.own g.left.client = g.left.own ++ news ∧ w'.own g.right.client = g.right.own ++ news' ∧
    news.filterMap Entry.asked? = news'.filterMap Entry.asked?
  heard : ∃ news, w.heard = g.left.heard ++ news ∧ w'.heard = g.right.heard ++ news

theorem agree_of_settled {g : Stage} {K : Connection → Connection → Prop}
    {p p' : Except Error (List (Except Error Answer)) × Connection} {w w' : World}
    (h : Settled (fun _ _ => False) K (List.Forall₂ (Both (Answer.Matches g))) p p') (hw : Facing g w w') :
    g.Agree p.1 p'.1 w w' where
  results := by
    cases h with
    | ok same kept => exact .inl ⟨_, _, rfl, rfl, same⟩
    | @error e _ _ kept => exact .inr ⟨e, by simpa using kept, rfl, rfl⟩
  asked := hw.asked
  heard := hw.heard

/-- **Leases do not influence each other.** Two holders begin with the same lock method and field case. Either both
connections have a session or none, with as many connects that failed before; or everybody is let in in time. Then the
same operations, whatever they are, come to the same on both sides, with the same requests to the server and the same
reports to the listeners: for holders who are alone, and for holders among others who do the same on both sides. -/
theorem next_lease_independent {others others' : World → World → Prop} {id id' : Nat} {config : Config}
    {registry : Query.Registry} {c c' : Connection} {w w' : World}
    (h : Successors others others' id id' config registry c w c' w') (hlock : c.lockMethod = c'.lockMethod)
    (hcase : c.fieldCase = c'.fieldCase) (free : Prop) (hfree : free → w.server.Welcomes config)
    (hlimited : free → ∃ limit, config.connectLimit = .ok limit)
    (hsession : free ∨ c.client.connected = c'.client.connected ∧ c.retries = c'.retries) (operations : List Operation)
    (himpartial : ∀ operation ∈ operations, operation.Impartial config free) :
    let g : Stage := ⟨config, .of c w, .of c' w', free, hlimited⟩
    let uses := Operation.performEach operations
    (∀ now now', g.Agree ((uses c).run now w).1.1 ((uses c').run now' w').1.1 ((uses c).run now w).2.2
      ((uses c').run now' w').2.2) ∧
    ∀ r c₁ w₁, Op.Ends (Meanwhile config free id) uses c w r c₁ w₁ →
      ∃ r' c₁' w₁' w₂', Op.Ends (Meanwhile config free id') uses c' w' r' c₁' w₁' ∧
        Meanwhile config free id' w₁' w₂' ∧ g.Agree r r' w₁ w₂' := by
  intro g uses
  have hid : c.client.id = id := (obtained_ready h.apart h.obtained).1
  have hid' : c'.client.id = id' := (obtained_ready h.apart' h.obtained').1
  have hconnections : Mirrored g (due false) c c' :=
    mirrored_obtained (g := g) h.apart h.apart' h.obtained h.obtained' rfl rfl hlock hcase hsession
  have hworlds : Facing g w w' := facing_obtained (g := g) rfl rfl h.server hfree h.named h.named'
  have halike := mirrors_performEach (g := g) false operations himpartial c c' hconnections
  constructor
  · intro now now'
    obtain ⟨hsettled, hfacing⟩ := Timed.alike_run halike now now' hworlds
    exact agree_of_settled hsettled hfacing
  · intro r c₁ w₁ hends
    have hmatch : ∀ w w' w₁, Facing g w w' → Meanwhile config free id w w₁ →
        ∃ w₁', Meanwhile config free id' w' w₁' ∧ Facing g w₁ w₁' := by
      intro w w' w₁ hw hothers
      rw [← hid] at hothers
      rw [← hid']
      exact facing_meanwhile hw hothers
    obtain ⟨⟨r', c₁'⟩, w₁', w₂', hends', hlater, hsettled, hfacing⟩ :=
      Timed.alike_ends Meanwhile.refl (fun _ _ _ => Meanwhile.trans) hmatch halike hworlds (Meanwhile.refl w') hends
    exact ⟨r', c₁', w₁', w₂', hends', hlater, agree_of_settled hsettled hfacing⟩

/-! ## What stays -/

/-- a connection that was new, behind these uses and made ready -/
def relet (past : Program (Use AnyText true) Answer) : (Except Error Unit × Connection) × Nat × World :=
  let used := (past.op Use.perform (.new (.new 0) .standard .empty)).run 0 .fresh
  (Op.beforeUse used.1.2).run used.2.1 used.2.2

/-- the same connection if nothing has been done with it -/
def unused : Connection := .new (.new 0) .standard .empty

theorem obtained_relet {past : Program (Use AnyText true) Answer} (hready : (relet past).1.1 = .ok ()) {w : World}
    (since : w.own 0 = (relet past).2.2.own 0) : Obtained (· = ·) 0 .standard .empty (relet past).1.2 w := by
  have hends : Op.Ends (· = ·) Op.beforeUse _ _ (relet past).1.1 (relet past).1.2 (relet past).2.2 :=
    Op.ends_run (fun _ => rfl) Op.beforeUse _ _ _
  rw [hready] at hends
  exact .used rfl (Op.ends_run (fun _ => rfl) (past.op Use.perform) _ 0 .fresh) hends since

/-- two holders of whom nobody else is there -/
theorem successors_alone {c c' : Connection} {w w' : World} (hc : Obtained (· = ·) 0 .standard .empty c w)
    (hc' : Obtained (· = ·) 0 .standard .empty c' w') (hserver : w.server.outlook = w'.server.outlook)
    (hnamed : w.named = []) (hnamed' : w'.named = []) :
    Successors (· = ·) (· = ·) 0 0 .standard .empty c w c' w' := by
  have alone : Apart (· = ·) 0 := by
    rintro w _ rfl
    rfl
  exact ⟨alone, alone, hc, hc', hserver, hnamed, hnamed'⟩

/-- a holder who leaves clauses, a transaction and a prepared statement behind -/
def leftovers : Program (Use AnyText true) Answer :=
  .step (.operation (.bound ⟨none, false, [.ok (.table "t")], .unfinished, ""⟩) trivial) fun _ =>
    .step (.operation .start trivial) fun _ =>
      .step (.operation (.prepare "old" ⟨"SELECT 1", []⟩ none) trivial) .finish

/-- behind such a holder, the next one updates and locks as on a new connection -/
theorem next_lease_as_new :
    let w : World := { (relet leftovers).2.2 with named := [] }
    let operations : List Operation := [.execute ⟨"UPDATE t SET n=?", [.int 2]⟩ none, .lock ["t"]]
    let run := (Operation.performEach operations (relet leftovers).1.2).run 0 w
    let run' := (Operation.performEach operations unused).run 0 .fresh
    (relet leftovers).1.2.client.connected = true ∧
      ∃ news, run.2.2.own 0 = w.own 0 ++ news ∧
        news.filterMap Entry.asked? = (run'.2.2.own 0).filterMap Entry.asked? ∧
        news.filterMap Entry.asked? = [(.prepare "UPDATE t SET n=?", none),
          (.execute ⟨"UPDATE t SET n=?", [.int 2]⟩, none), (.query "LOCK TABLES t READ", none)] := by
  generalize hrelet : relet leftovers = ready
  dsimp only
  have hok : ready.1.1 = .ok () := by
    rw [← hrelet]
    rfl
  have hkept : ready.1.2.lockMethod = .read ∧ ready.1.2.fieldCase = .natural ∧ ready.1.2.client.connected = true := by
    rw [← hrelet]
    decide +kernel
  have hserver : ready.2.2.server.outlook = World.fresh.server.outlook := by
    rw [← hrelet]
    rfl
  have hobtained : Obtained (· = ·) 0 .standard .empty ready.1.2 { ready.2.2 with named := [] } := by
    rw [← hrelet] at hok ⊢
    exact obtained_relet hok rfl
  have hsuccessors : Successors (· = ·) (· = ·) 0 0 .standard .empty ready.1.2 { ready.2.2 with named := [] } unused
      .fresh := successors_alone hobtained (.new rfl) hserver rfl rfl
  have hwelcome : World.fresh.server.Welcomes .standard := ⟨rfl, fun _ hlimit => nomatch hlimit⟩
  obtain ⟨halone, -⟩ :=
    next_lease_independent hsuccessors hkept.1 hkept.2.1 True (fun _ => hwelcome.of_outlook hserver.symm)
      (fun _ => ⟨none, rfl⟩) (.inl trivial) [.execute ⟨"UPDATE t SET n=?", [.int 2]⟩ none, .lock ["t"]]
      (by
        intro operation hmem
        rcases List.mem_pair.1 hmem with rfl | rfl <;> trivial)
  obtain ⟨news, news', hown, hown', hasked⟩ := (halone 0 0).asked
  obtain rfl : _ = news' := hown'
  have hid : ready.1.2.client.id = 0 := by
    rw [← hrelet]
    rfl
  exact ⟨hkept.2.2, news, hid ▸ hown, hasked, hasked.trans (by rfl)⟩

/-- a holder who runs a statement -/
def brief : Program (Use AnyText true) Answer := .step (.operation (.query "SELECT 1" none) trivial) .finish

/-- a holder who chooses how to lock and how fields are called, and runs a statement -/
def particular : Program (Use AnyText true) Answer :=
  .step (.operation (.setLockMethod .write) trivial) fun _ =>
    .step (.operation (.setFieldCase "upper") trivial) fun _ =>
      .step (.operation (.query "SELECT 2" none) trivial) .finish

/-- a holder who is not let in -/
def turnedAway : Program (Use AnyText true) Answer :=
  .step (.operation (.arrange fun s => { s with refusals := 2 }) fun _ => rfl) fun _ =>
    .step (.operation (.connect false) nofun) .finish

/-- the statements that a client has run by these operations -/
def ranBy (operations : List Operation) (c : Connection) (w : World) : List Statement :=
  let run := (Operation.performEach operations c).run 0 w
  ((run.2.2.own c.client.id).drop (w.own c.client.id).length).filterMap Server.executed?

/-- what the operations come to -/
def comesOf (operations : List Operation) (c : Connection) (w : World) : Except Error (List (Except Error Answer)) :=
  ((Operation.performEach operations c).run 0 w).1.1

/-- the server describes a table -/
def describing (w : World) : World :=
  w.arrange fun s => { s with responses := [("SHOW COLUMNS", .ofValues ["Field"] [[.text "id"]])] }

/-- the server refuses so many connects -/
def refusing (n : Nat) (w : World) : World := w.arrange fun s => { s with refusals := n }

/-- **What stays of a lease.** Behind one holder tables are locked, fields called and statements logged in another way
than behind another, in sessions that do not differ. A statement runs in the session that a holder has left where a new
connection is refused one. And where a holder was refused a session before, fewer refusals are put up with. -/
theorem next_lease_inherits :
    let one := relet particular
    let other := relet brief
    let third := relet turnedAway
    (Successors (· = ·) (· = ·) 0 0 .standard .empty one.1.2 one.2.2 other.1.2 other.2.2 ∧
      one.1.2.client.connected = other.1.2.client.connected ∧ one.1.2.retries = other.1.2.retries ∧
      ranBy [.lock ["t"]] one.1.2 one.2.2 = [.ofText "LOCK TABLES t WRITE"] ∧
      ranBy [.lock ["t"]] other.1.2 other.2.2 = [.ofText "LOCK TABLES t READ"] ∧
      comesOf [.columns "t"] one.1.2 (describing one.2.2) =
        .ok [.ok (.columns [⟨"ID", "", true, none, false, false⟩])] ∧
      comesOf [.columns "t"] other.1.2 (describing other.2.2) =
        .ok [.ok (.columns [⟨"id", "", true, none, false, false⟩])] ∧
      comesOf [.showLog] one.1.2 one.2.2 = .ok [.ok (.texts ["[STATEMENT] SELECT 2 [ RunTime:#.######s ]"])] ∧
      comesOf [.showLog] other.1.2 other.2.2 = .ok [.ok (.texts ["[STATEMENT] SELECT 1 [ RunTime:#.######s ]"])]) ∧
    (Successors (· = ·) (· = ·) 0 0 .standard .empty other.1.2 (refusing 2 other.2.2) unused (refusing 2 .fresh) ∧
      ranBy [.query "SELECT 3" none] other.1.2 (refusing 2 other.2.2) = [.ofText "SELECT 3"] ∧
      ranBy [.query "SELECT 3" none] unused (refusing 2 .fresh) = []) ∧
    (Successors (· = ·) (· = ·) 0 0 .standard .empty third.1.2 (refusing 1 third.2.2) unused (refusing 1 .fresh) ∧
      ranBy [.query "SELECT 3" none] third.1.2 (refusing 1 third.2.2) = [] ∧
      ranBy [.query "SELECT 3" none] unused (refusing 1 .fresh) = [.ofText "SELECT 3"]) := by
  have hready : (relet particular).1.1 = .ok () := by rfl
  have hready' : (relet brief).1.1 = .ok () := by rfl
  have hready'' : (relet turnedAway).1.1 = .ok () := by rfl
  refine ⟨⟨?_, ?_, ?_, by rfl, by rfl, by rfl, by rfl, by rfl, by rfl⟩, ⟨?_, by rfl, by rfl⟩, ⟨?_, by rfl, by rfl⟩⟩
  · have hserver : (relet particular).2.2.server.outlook = World.fresh.server.outlook := by rfl
    have hserver' : (relet brief).2.2.server.outlook = World.fresh.server.outlook := by rfl
    exact successors_alone (obtained_relet hready rfl) (obtained_relet hready' rfl) (hserver.trans hserver'.symm)
      (by rfl) (by rfl)
  · decide +kernel
  · decide +kernel
  · exact successors_alone (obtained_relet hready' (by rfl)) (.new rfl) (by rfl) (by rfl) rfl
  · exact successors_alone (obtained_relet hready'' (by rfl)) (.new rfl) (by rfl) (by rfl) rfl

end SqlSession
