/-
Settings whose seconds no span holds.

A document may give any number of seconds. Those that are not finite or not positive are no limit, those below `2 ^ 64`
are the nearest span, and longer ones have no span: they are accepted, and missed when they are converted. That is in
every connect, in every statement without a limit of its own, in every count of rows, and in every acquire without a
wait of its own. An acquire also passes on what is missed where a connection is made ready for it: the transaction that
a failed `BEGIN` leaves counted is rolled back then, under the limit that has no span.
- `Tells`: what acquires are told while something happens in a pool;
- `tells_acquire`: an acquire that has a limit, or none, is told that seconds have no span only if the pool holds a
  strained connection, and so is anybody else;
- `acquire_strained`: it is told so if the first connection that is tried is strained and fails at once;
- `seconds_converted`: the result, for all settings.
-/
import SqlSession.Config.Reader
import SqlSession.Proofs.Pool.Waits

namespace SqlSession

open Config (Overlong Spans)
open Query (Registry)

theorem Connection.Revalidated.not_strained {c : Connection} {tablePrefix : String} (h : c.Revalidated tablePrefix) :
    ¬c.Strained := by
  have hdepth := h.depth
  have hsure := h.sure
  rintro (⟨doubt, -⟩ | ⟨-, open_, -⟩ | ⟨-, open_, -⟩)
  · exact absurd (hsure.symm.trans doubt) (by decide)
  · omega
  · omega

namespace Pool

variable {p p' p₁ : Pool} {c d : Connection}

/-! ## What acquires are told -/

/-- the connection is idle or leased -/
def Owns (p : Pool) (c : Connection) : Prop := c ∈ p.idle ∨ ∃ lease ∈ p.leases, lease.2 = c

/-- acquires are told in addition that they ended, for want of a span only if the pool held a strained connection, and
it holds no other strained ones -/
structure Tells (p p' : Pool) : Prop where
  told : ∃ told, p'.ended = p.ended ++ told ∧
    ∀ e ∈ told, e.2 = .failed .secondsOverflow → ∃ c, p.Owns c ∧ c.Strained
  held : ∀ c, p'.Owns c → c.Strained → p.Owns c

namespace Tells

/-- nobody is told anything, and no connection has come to the pool -/
theorem aside (hidle : p'.idle ⊆ p.idle) (hleases : p'.leases ⊆ p.leases) (hended : p'.ended = p.ended) :
    Tells p p' where
  told := ⟨[], by rw [hended, List.append_nil], List.forall_mem_nil _⟩
  held c hc _ := hc.imp (hidle ·) fun ⟨lease, hl, hlc⟩ => ⟨lease, hleases hl, hlc⟩

theorem trans (h : Tells p p₁) (h' : Tells p₁ p') : Tells p p' := by
  obtain ⟨told, htold, hstrained⟩ := h.told
  obtain ⟨more, hmore, hstrained'⟩ := h'.told
  refine ⟨⟨told ++ more, by rw [hmore, htold, List.append_assoc], fun e he hover => ?_⟩, fun c hc hs =>
    h.held c (h'.held c hc hs) hs⟩
  rcases List.mem_append.1 he with he | he
  · exact hstrained e he hover
  · obtain ⟨c, hc, hs⟩ := hstrained' e he hover
    exact ⟨c, h.held c hc hs, hs⟩

instance : Trans Tells Tells Tells := ⟨trans⟩

end Tells

theorem tells_finish (name : String) {outcome : Outcome}
    (h : outcome = .failed .secondsOverflow → ∃ c, p.Owns c ∧ c.Strained) : Tells p (p.finish name outcome) := by
  refine ⟨⟨[(name, outcome)], rfl, fun e he => ?_⟩, fun _ hc _ => hc⟩
  obtain rfl := List.mem_singleton.1 he
  exact h

theorem owns_takeBack (h : (p.takeBack c).Owns d) : d = c ∨ p.Owns d := by
  unfold takeBack at h
  split at h
  · rcases h with h | h
    · exact (List.mem_append.1 h).elim (fun h => .inr (.inl h)) fun h => .inl (List.mem_singleton.1 h)
    · exact .inr (.inr h)
  · exact .inr h

theorem owns_lend {name : String} (h : (p.lend name c).Owns d) : d = c ∨ p.Owns d := by
  have hlent : ∀ {d}, ((p.withoutLease name).handOut name c).Owns d → d = c ∨ p.Owns d := by
    rintro d (h | ⟨lease, hl, rfl⟩)
    · exact .inr (.inl h)
    · rcases List.mem_append.1 hl with hl | hl
      · exact .inr (.inr ⟨lease, List.mem_of_mem_filter hl, rfl⟩)
      · exact .inl (congrArg Prod.snd (List.mem_singleton.1 hl))
  unfold lend at h
  split at h
  · exact hlent h
  · next before hbefore =>
    rcases owns_takeBack h with rfl | h
    · exact .inr (.inr ⟨_, mem_of_lookup hbefore, rfl⟩)
    · exact hlent h

theorem lend_ended (p : Pool) (name : String) (c : Connection) :
    (p.lend name c).ended = p.ended ++ [(name, .leased)] := by
  unfold lend
  split
  · rfl
  · exact takeBack_ended _ _

theorem tells_lend (name : String) (hc : ¬c.Strained) : Tells p (p.lend name c) := by
  refine ⟨⟨[(name, .leased)], lend_ended p name c, fun e he hover => ?_⟩, fun d hd hs => ?_⟩
  · obtain rfl := List.mem_singleton.1 he
    cases hover
  · obtain rfl | hd := owns_lend hd
    · exact absurd hs hc
    · exact hd

/-- only a connection that is tried can make the acquire miss a span, and what it gets is not strained -/
theorem tells_provide (name : String) {connections : List Connection} (p : Pool) (hidle : connections ⊆ p.idle) :
    Tells p (provide name connections p) := by
  induction connections generalizing p with
  | nil =>
    let opened : Pool := { p with idle := [], world := (p.world.onServer Server.welcome).2 }
    have hnew : ∀ id, ¬(Connection.new (.new id) p.config p.registry).Strained := fun id =>
      (revalidated_new id).not_strained
    calc Tells p opened := .aside (List.nil_subset _) (.refl _) rfl
      Tells opened (opened.lend name _) := tells_lend name (hnew _)
  | cons c rest ih =>
    have hrest : rest ⊆ p.idle := fun d hd => hidle (List.mem_cons_of_mem _ hd)
    have hready := (Op.secures_beforeUse c).proceed p.world
    have hstrained := (Op.strained_of_beforeUse c).proceed p.world
    rw [provide]
    split
    · next d world hd =>
      have hleft : Tells p { p with idle := rest, world } := .aside hrest (.refl _) rfl
      exact hleft.trans (tells_lend name (hready.1 _ (congrArg Prod.fst hd) () rfl).not_strained)
    · next e d world hd =>
      split
      · have htold : Tells p (p.finish name (.failed e)) := tells_finish name fun hover =>
          ⟨c, .inl (hidle List.mem_cons_self),
            hstrained.1 _ (congrArg Prod.fst hd) (congrArg Except.error (Outcome.failed.inj hover))⟩
        exact htold.trans (.aside hrest (.refl _) rfl)
      · have hworld : Tells p { p with world } := .aside (.refl _) (.refl _) rfl
        exact hworld.trans (ih { p with world } hrest)
    · exact .aside hrest (.refl _) rfl

theorem tells_serve (tickets : List Ticket) (p : Pool) : Tells p (serve tickets p) := by
  induction tickets generalizing p with
  | nil => exact .aside (.refl _) (.refl _) rfl
  | cons ticket rest ih =>
    rw [serve]
    split
    · exact (tells_provide ticket.name p (.refl _)).trans (ih _)
    · exact .aside (.refl _) (.refl _) rfl

theorem tells_acquireWithin (name : String) (limit : Option Duration) : Tells p (p.acquireWithin name limit) := by
  unfold acquireWithin
  split_ifs
  · exact tells_finish name nofun
  · exact (tells_provide name p (.refl _)).trans (tells_serve _ _)
  · cases limit with
    | none => exact .aside (.refl _) (.refl _) rfl
    | some d =>
      dsimp only
      split_ifs
      · exact tells_finish name nofun
      · exact .aside (.refl _) (.refl _) rfl

theorem budget_eq_error_iff {wait : Option Duration} {e : Error} :
    p.budget wait = .error e ↔ e = .secondsOverflow ∧ wait = none ∧ Overlong p.config.waitSeconds := by
  cases wait with
  | some d => exact ⟨fun h => (nomatch h), fun h => (nomatch h.2.1)⟩
  | none =>
    have hspan : p.budget none = Config.span p.config.waitSeconds := rfl
    rw [hspan, Config.span_eq_error_iff]
    exact ⟨fun h => ⟨h.1, rfl, h.2⟩, fun h => ⟨h.1, h.2.2⟩⟩

/-- an acquire without a wait of its own is told so at once if the seconds for waits have no span -/
theorem acquire_overlong (name : String) (h : Overlong p.config.waitSeconds) :
    p.acquire name none = p.finish name (.failed .secondsOverflow) := by
  rw [acquire_eq, budget_eq_error_iff.2 ⟨rfl, rfl, h⟩]

/-- otherwise it is told so only if the pool holds a strained connection -/
theorem tells_acquire (name : String) {wait : Option Duration}
    (h : ¬(wait = none ∧ Overlong p.config.waitSeconds)) : Tells p (p.acquire name wait) := by
  cases hb : p.budget wait with
  | error e => exact absurd (budget_eq_error_iff.1 hb).2 h
  | ok limit => exact acquire_of_budget hb ▸ tells_acquireWithin name limit

/-- it is told so at once if the first idle connection is strained and fails before it waits -/
theorem acquire_strained (name : String) {wait limit : Option Duration} {rest : List Connection}
    (hidle : p.idle = c :: rest) (h : c.Strained)
    (hat : c.needsReconnect = true ∨ c.client.connected = true ∨ Overlong c.config.connectSeconds)
    (hopen : p.closed = false) (hfree : 0 < p.free) (hb : p.budget wait = .ok limit) :
    ∃ world, p.acquire name wait = (finish { p with idle := rest, world } name (.failed .secondsOverflow)).served := by
  obtain ⟨d, world, hd⟩ := Op.stops_beforeUse h hat p.world
  have hprovided : provide name (c :: rest) p =
      finish { p with idle := rest, world } name (.failed .secondsOverflow) := by
    rw [provide, show (Op.beforeUse.run.run c).proceed p.world = _ from hd]
    rfl
  refine ⟨world, ?_⟩
  rw [acquire_of_budget hb]
  unfold acquireWithin
  rw [if_neg (by rw [hopen]; exact Bool.false_ne_true), if_pos hfree, hidle, hprovided]

end Pool

theorem Config.login_eq (config : Config) :
    config.login = config.connectLimit.map fun limit =>
      ⟨config.host, config.port, config.user, config.password, config.database, config.charset, config.fetchMode,
        config.strictType, limit⟩ := by
  unfold Config.login
  cases config.connectLimit <;> rfl

/-- **What becomes of seconds.** Whatever document the settings come from: each of their limits is none if the seconds
are not given, not finite or not positive, the nearest span below `2 ^ 64` seconds, and an error of its own from there
on; a login has the first one. A connect, a statement or a count of rows fails with that error only if it has to convert
seconds that are too long, and making a connection ready only if that is strained. But if it has to, it fails: no
session is opened, no statement without a limit of its own succeeds, no rows are counted, and no strained connection is
made ready. An acquire without a wait of its own is told so at once if the seconds for waits are too long. Any other is
told so only if the pool holds a strained connection, and it is if that is the first to be tried and fails before it
waits. Behind any steps of a pool that was new nobody has been told so unless there are seconds that are too long. -/
theorem seconds_converted (config : Config) :
    (Spans config.connectSeconds config.connectLimit ∧ Spans config.executeSeconds config.executeLimit ∧
        Spans config.waitSeconds config.waitLimit ∧
        config.login = config.connectLimit.map fun limit =>
          ⟨config.host, config.port, config.user, config.password, config.database, config.charset, config.fetchMode,
            config.strictType, limit⟩) ∧
      ((∀ force, (Op.connect force).Converts config (Overlong config.connectSeconds)) ∧
        (∀ (task : Task) (own : Option Duration), (task.op own).Converts config (Op.Wanting config own)) ∧
        Op.fetchTotalCount.Converts config (Overlong config.executeSeconds) ∧
        Op.beforeUse.Converts config (Op.Wanting config none)) ∧
      (∀ c : Connection, c.config = config →
        (Overlong config.connectSeconds → ∀ force : Bool,
            force = true ∨ c.needsReconnect = true ∨ c.client.connected = false →
              (Op.connect force).Assures c fun r _ => r = .error .secondsOverflow) ∧
          (Overlong config.executeSeconds →
            (∀ task : Task, (task.op none).Assures c fun r _ => ∀ x, r ≠ .ok x) ∧
              Op.fetchTotalCount.Assures c fun r _ => r = .error .secondsOverflow) ∧
          (Op.beforeUse.Assures c fun r _ => r = .error .secondsOverflow → c.Strained) ∧
          (c.Strained → Op.beforeUse.Assures c fun r _ => ∀ x, r ≠ .ok x)) ∧
      (∀ p : Pool, p.config = config → ∀ (name : String) (wait : Option Duration),
        (Overlong config.waitSeconds → p.acquire name none = p.finish name (.failed .secondsOverflow)) ∧
          (¬(wait = none ∧ Overlong config.waitSeconds) → p.Tells (p.acquire name wait)) ∧
          ∀ (c : Connection) (rest : List Connection) (limit : Option Duration),
            p.idle = c :: rest → c.Strained →
              (c.needsReconnect = true ∨ c.client.connected = true ∨ Overlong c.config.connectSeconds) →
                p.closed = false → 0 < p.free → p.budget wait = .ok limit →
                  ∃ world, p.acquire name wait =
                    (Pool.finish { p with idle := rest, world } name (.failed .secondsOverflow)).served) ∧
      ∀ (registry : Registry) (p₀ p : Pool), Pool.new config registry = .ok p₀ → Relation.ReflTransGen Pool.Step p₀ p →
        ∀ e ∈ p.ended, e.2 = .failed .secondsOverflow → Overlong config.waitSeconds ∨ Op.Wanting config none := by
  refine ⟨⟨Config.spans_span _, Config.spans_span _, Config.spans_span _, config.login_eq⟩,
    ⟨Op.converts_connect, Op.converts_task, Op.converts_count, Op.converts_beforeUse⟩, ?_, ?_, ?_⟩
  · rintro c rfl
    exact ⟨fun h force hneeded => Op.assures_connect_overlong h hneeded,
      fun h => ⟨fun task => Op.assures_task_overlong task h, Op.assures_count_overlong h⟩,
      Op.strained_of_beforeUse c, Op.secures_beforeUse_strained⟩
  · rintro p rfl name wait
    exact ⟨Pool.acquire_overlong name, Pool.tells_acquire name, fun c rest limit => Pool.acquire_strained name⟩
  · intro registry p₀ p hmade hpast e he
    exact ((Pool.Uniform.new hmade).steps hpast).ended e he

/-- a document that is accepted: the limit of its statements is `10 ^ 20` seconds -/
def overlongDocument : String := "\x7b\"execute_timeout_secs\": 1e20\x7d"

/-- a transaction is begun on a connection of a pool that was new, and the connection comes back -/
def Pool.begun (p₀ : Pool) : Pool :=
  ((p₀.acquire "a" none).useAll "a" [.start]).giveBack "a"

/-- what is read from that document, and what becomes of such a pool -/
theorem begun_overlongDocument :
    ∃ config p₀, Config.ofText overlongDocument = .ok config ∧ Pool.new config .empty = .ok p₀ ∧
      Overlong config.executeSeconds ∧ ¬Overlong config.connectSeconds ∧ ¬Overlong config.waitSeconds ∧
      p₀.begun.ended = [("a", .leased)] ∧
      (p₀.begun.acquire "b" none).ended = [("a", .leased), ("b", .failed .secondsOverflow)] := by
  have hparts : ((Config.ofText overlongDocument).toOption.bind fun c => c.executeSeconds.bind Decimal.parts?) =
      some ⟨false, 6103515625000000, 14, false⟩ := by
    decide +kernel
  have hothers : ((Config.ofText overlongDocument).toOption.map fun c =>
      (c.connectSeconds.isNone, c.waitSeconds.isNone)) = some (true, true) := by
    decide +kernel
  have hended : ((Config.ofText overlongDocument).toOption.bind fun config =>
      (Pool.new config .empty).toOption.map fun p₀ => (p₀.begun.ended, (p₀.begun.acquire "b" none).ended)) =
        some ([("a", .leased)], [("a", .leased), ("b", .failed .secondsOverflow)]) := by
    decide +kernel
  cases hread : Config.ofText overlongDocument with
  | error e =>
    rw [hread] at hparts
    cases hparts
  | ok config =>
    rw [hread] at hparts hothers hended
    obtain ⟨x, hx, hp⟩ := Option.bind_eq_some_iff.1 (show config.executeSeconds.bind Decimal.parts? = _ from hparts)
    obtain ⟨hconnect, hwait⟩ := Prod.mk.inj (Option.some.inj hothers)
    obtain ⟨p₀, hmade, hended⟩ := Option.map_eq_some_iff.1
      (show (Pool.new config .empty).toOption.map _ = _ from hended)
    obtain ⟨hbegun, hended⟩ := Prod.mk.inj hended
    have hlong : Overlong config.executeSeconds := by
      refine ⟨x, hx, _, congrArg (Option.map Decimal.Parts.value) hp, ?_⟩
      norm_num [Decimal.Parts.value]
    have hshort : ∀ seconds : Option Float, seconds.isNone = true → ¬Overlong seconds := by
      rintro _ hnone ⟨y, hy, -⟩
      rw [Option.isNone_iff_eq_none.1 hnone] at hy
      cases hy
    have hnew : Pool.new config .empty = .ok p₀ := by
      cases h : Pool.new config .empty with
      | error e => rw [h] at hmade; cases hmade
      | ok p => rw [h] at hmade; exact congrArg Except.ok (Option.some.inj hmade)
    exact ⟨config, p₀, rfl, hnew, hlong, hshort _ hconnect, hshort _ hwait, hbegun, hended⟩

/-- no statement with the limit of that document succeeds, and a connect does not fail for want of it. The `BEGIN` of a
transaction does, and leaves it counted: the connection is strained, and who acquires it next is told that -/
theorem seconds_converted_overlong :
    ∃ config p₀, Config.ofText overlongDocument = .ok config ∧ Pool.new config .empty = .ok p₀ ∧
      config.executeLimit = .error .secondsOverflow ∧
      (∀ c : Connection, c.config = config →
        ((Task.query "SELECT 1").op none).Assures c fun r _ => ∀ x, r ≠ .ok x) ∧
      (∀ c : Connection, c.config = config → (Op.connect false).Assures c fun r _ => r ≠ .error .secondsOverflow) ∧
      Relation.ReflTransGen Pool.Step p₀ p₀.begun ∧
      (p₀.begun.acquire "b" none).ended = [("a", .leased), ("b", .failed .secondsOverflow)] ∧
      ∃ c, p₀.begun.Owns c ∧ c.Strained := by
  obtain ⟨config, p₀, hread, hmade, hlong, hconnect, hwait, hbegun, hended⟩ := begun_overlongDocument
  obtain ⟨-, ⟨hconverts, -⟩, hfails, hacquires, -⟩ := seconds_converted config
  have huniform := Pool.Uniform.new hmade
  have hleased : Relation.ReflTransGen Pool.Step p₀ (p₀.acquire "a" none) := .single (.act (.acquire "a" none))
  have hused := hleased.trans (Pool.steps_useAll "a" [.start] (huniform.steps hleased))
  have hpast : Relation.ReflTransGen Pool.Step p₀ p₀.begun := hused.tail (.act (.giveBack "a"))
  have hshared := hacquires p₀.begun (huniform.steps hpast).config_eq "b" none
  obtain ⟨told, htold, hstrained⟩ := (hshared.2.1 fun h => hwait h.2).told
  refine ⟨config, p₀, hread, hmade, Config.span_eq_error_iff.2 ⟨rfl, hlong⟩, fun c hc => ?_, fun c hc => ?_, hpast,
    hended, ?_⟩
  · exact ((hfails c hc).2.1 hlong).1 _
  · exact (hconverts false c hc).mono fun r _ hr hover => hconnect (hr.2 hover)
  · rw [hended, hbegun] at htold
    obtain rfl := (List.cons.inj htold).2
    exact hstrained _ List.mem_cons_self rfl

end SqlSession
