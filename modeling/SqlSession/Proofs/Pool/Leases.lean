/-
What a pool hands out.

Whatever the holders of connections do with them, nobody gets a connection from a pool but one that is new or has been
made ready: without clauses, outside of transactions, and in no session that is not relied on.
- `Lends`: what happens in a pool while acquires get only connections of some kind;
- `Uniform`: all connections of a pool have its settings, those that are being made ready will be ready, and no acquire
  was told that seconds have no span where all of them have one;
- `serves_provide`, `serves_resume`, ..: what the pool does by itself keeps that, and lends only connections that are
  ready;
- `steps_use`: operations of holders are made of steps;
- `revalidated_leases`: the result, behind any steps of a pool that was new.
-/
import Mathlib.Logic.Relation
import SqlSession.Pool.Clock
import SqlSession.Proofs.Session.Conversions

namespace SqlSession

open Query (Registry)

def Outcome.isLeased : Outcome → Bool
  | .leased => true
  | _ => false

namespace Pool

/-! ## What is lent -/

/-- the acquires that have got a connection and have not been told so -/
def winners (p : Pool) : List (String × Outcome) := p.ended.filter (·.2.isLeased)

/-- nobody gets a connection, and nobody's connection is changed -/
structure Unlent (p p' : Pool) : Prop where
  leases : p'.leases.Sublist p.leases
  winners : p'.winners.Sublist p.winners

/-- one thing that happens in a pool, where an acquire may get only such a connection -/
inductive Event (P : Connection → Prop) (p : Pool) : Pool → Prop
  | unlent {p' : Pool} (h : Unlent p p') : Event P p p'
  | lent (name : String) {c : Connection} (h : P c) : Event P p (p.lend name c)

/-- things happen in a pool one after the other, and each connection that an acquire gets is such a one when it does -/
def Lends (P : Connection → Prop) : Pool → Pool → Prop := Relation.ReflTransGen (Event P)

/-! ## What all connections of a pool have -/

section

variable (config : Config) (registry : Registry)

/-- a connection with these settings and their prefix -/
def Standard (c : Connection) : Prop := c.settings = (config, registry, config.tablePrefix)

/-- a connection is being made ready with these settings -/
def Preparing (t : Timed World (Except Error Unit × Connection)) : Prop :=
  t.Gives fun made => Standard config registry made.2 ∧ (made.1 = .ok () → made.2.Revalidated config.tablePrefix) ∧
    (made.1 = .error .secondsOverflow → Op.Wanting config none)

/-- that an acquire ended for want of a span has a reason: the seconds for waits, connects or statements have none -/
def Founded (outcome : Outcome) : Prop :=
  outcome = .failed .secondsOverflow → Config.Overlong config.waitSeconds ∨ Op.Wanting config none

/-- the pool and all connections in its care have these settings, and what acquires are told is founded on them -/
structure Uniform (p : Pool) : Prop where
  config_eq : p.config = config
  registry_eq : p.registry = registry
  idle : ∀ c ∈ p.idle, Standard config registry c
  leases : ∀ lease ∈ p.leases, Standard config registry lease.2
  detached : ∀ entry ∈ p.detached, Standard config registry entry.2
  readying : ∀ r ∈ p.readying, Preparing config registry r.rest
  ended : ∀ e ∈ p.ended, Founded config e.2

/-- from a pool with these settings the pool comes to one with these settings, and lends only connections that nothing
is left in -/
def Serves (p p' : Pool) : Prop :=
  p.Uniform config registry → p'.Uniform config registry ∧ Lends (Connection.Revalidated config.tablePrefix) p p'

end

variable {config : Config} {registry : Registry} {p p' p₁ : Pool}

theorem standard_new (id : Nat) : Standard config registry (.new (.new id) config registry) := rfl

theorem revalidated_new (id : Nat) :
    (Connection.new (.new id) config registry).Revalidated config.tablePrefix := ⟨rfl, rfl, rfl⟩

theorem Standard.clearDraft {c : Connection} (h : Standard config registry c) :
    Standard config registry c.clearDraft := h

theorem preparing_beforeUse {c : Connection} (h : Standard config registry c) :
    Preparing config registry (Op.beforeUse.run.run c) := by
  have hbefore : c.draft.tablePrefix = config.tablePrefix := congrArg (·.2.2) h
  have hconfig : c.config = config := congrArg Prod.fst h
  have hready := (Op.keeps_beforeUse c).and (Op.secures_beforeUse c)
  exact Timed.Gives.mono (hready.and (Op.converts_beforeUse c hconfig)) fun made hc =>
    ⟨hc.1.1.trans h, fun hx => hbefore ▸ hc.1.2 () hx, hc.2.2⟩

namespace Uniform

/-- no connection has come into the care of the pool -/
theorem fewer (h : p.Uniform config registry) (hsame : p'.config = p.config ∧ p'.registry = p.registry)
    (hidle : p'.idle ⊆ p.idle) (hleases : p'.leases ⊆ p.leases) (hdetached : p'.detached ⊆ p.detached)
    (hreadying : p'.readying ⊆ p.readying) (hended : p'.ended ⊆ p.ended) : p'.Uniform config registry where
  config_eq := hsame.1.trans h.config_eq
  registry_eq := hsame.2.trans h.registry_eq
  idle c hc := h.idle c (hidle hc)
  leases lease hl := h.leases lease (hleases hl)
  detached entry he := h.detached entry (hdetached he)
  readying r hr := h.readying r (hreadying hr)
  ended e he := h.ended e (hended he)

theorem finish {name : String} {outcome : Outcome} (h : p.Uniform config registry) (ho : Founded config outcome) :
    (p.finish name outcome).Uniform config registry := by
  refine { h with ended := fun e he => ?_ }
  rcases List.mem_append.1 he with he | he
  · exact h.ended e he
  · obtain rfl := List.mem_singleton.1 he
    exact ho

theorem takeBack {c : Connection} (h : p.Uniform config registry) (hc : Standard config registry c) :
    (p.takeBack c).Uniform config registry := by
  unfold Pool.takeBack
  split
  · refine { h with idle := fun d hd => ?_ }
    rcases List.mem_append.1 hd with hd | hd
    · exact h.idle d hd
    · obtain rfl := List.mem_singleton.1 hd
      exact hc
  · exact h

theorem prepare {name : String} {wake : Nat} {t : Timed World (Except Error Unit × Connection)}
    (h : p.Uniform config registry) (ht : Preparing config registry t) :
    Uniform config registry { p with readying := p.readying ++ [⟨name, wake, t⟩] } := by
  refine { h with readying := fun r hr => ?_ }
  rcases List.mem_append.1 hr with hr | hr
  · exact h.readying r hr
  · obtain rfl := List.mem_singleton.1 hr
    exact ht

theorem lend {c : Connection} (h : p.Uniform config registry) (name : String) (hc : Standard config registry c) :
    (p.lend name c).Uniform config registry := by
  have hlent : Uniform config registry ((p.withoutLease name).handOut name c) := by
    refine finish { h with leases := fun lease hl => ?_ } nofun
    rcases List.mem_append.1 hl with hl | hl
    · exact h.leases lease (List.mem_of_mem_filter hl)
    · obtain rfl := List.mem_singleton.1 hl
      exact hc
  unfold Pool.lend
  split
  · exact hlent
  · next before hb => exact hlent.takeBack (h.leases _ (mem_of_lookup hb))

end Uniform

namespace Serves

theorem refl : Serves config registry p p := fun h => ⟨h, .refl⟩

theorem trans (h : Serves config registry p p₁) (h' : Serves config registry p₁ p') : Serves config registry p p' := by
  intro hp
  obtain ⟨hp₁, hl⟩ := h hp
  obtain ⟨hp', hl'⟩ := h' hp₁
  exact ⟨hp', Relation.ReflTransGen.trans hl hl'⟩

instance : Trans (Serves config registry) (Serves config registry) (Serves config registry) := ⟨trans⟩

theorem unlent (h : Unlent p p') (hp : p.Uniform config registry → p'.Uniform config registry) :
    Serves config registry p p' :=
  fun hu => ⟨hp hu, .single (.unlent h)⟩

/-- what changes neither connections nor what acquires are told -/
theorem aside (hsame : p'.config = p.config ∧ p'.registry = p.registry) (hidle : p'.idle ⊆ p.idle)
    (hleases : p'.leases = p.leases) (hdetached : p'.detached = p.detached) (hreadying : p'.readying ⊆ p.readying)
    (hended : p'.ended = p.ended) : Serves config registry p p' :=
  unlent ⟨by rw [hleases], by rw [winners, winners, hended]⟩ fun h =>
    h.fewer hsame hidle (hleases ▸ List.Subset.refl _) (hdetached ▸ List.Subset.refl _) hreadying
      (hended ▸ List.Subset.refl _)

end Serves

theorem serves_finish (name : String) {outcome : Outcome} (h : outcome.isLeased = false)
    (ho : Founded config outcome) : Serves config registry p (p.finish name outcome) := by
  refine .unlent ⟨.refl _, ?_⟩ fun hu => hu.finish ho
  simp [winners, finish, h]

theorem serves_lend (name : String) {c : Connection} (hc : Standard config registry c)
    (hr : c.Revalidated config.tablePrefix) : Serves config registry p (p.lend name c) :=
  fun h => ⟨h.lend name hc, .single (.lent name hr)⟩

/-! ## What the pool does by itself -/

/-- what happens outside of the pool -/
theorem serves_outside (world : World) : Serves config registry p { p with world } :=
  .aside ⟨rfl, rfl⟩ (.refl _) rfl rfl (.refl _) rfl

theorem serves_prepare {name : String} {wake : Nat} {t : Timed World (Except Error Unit × Connection)}
    (h : Preparing config registry t) :
    Serves config registry p { p with readying := p.readying ++ [⟨name, wake, t⟩] } :=
  .unlent ⟨.refl _, .refl _⟩ fun hu => hu.prepare h

theorem serves_lendNew (name : String) : Serves config registry p (p.lendNew name) := by
  intro h
  obtain rfl := h.config_eq
  obtain rfl := h.registry_eq
  exact ((serves_outside _).trans (serves_lend name (standard_new _) (revalidated_new _))) h

theorem founded_of_made {x : Except Error Unit} {e : Error} (hx : x = .error e)
    (h : x = .error .secondsOverflow → Op.Wanting config none) : Founded config (.failed e) := by
  intro hover
  obtain rfl := Outcome.failed.inj hover
  exact .inr (h hx)

/-- an acquire gets an idle connection only after that has been made ready -/
theorem serves_provide (name : String) {connections : List Connection} (p : Pool) (hidle : connections ⊆ p.idle) :
    Serves config registry p (provide name connections p) := by
  induction connections generalizing p with
  | nil =>
    have hleft : Serves config registry p { p with idle := [] } :=
      .aside ⟨rfl, rfl⟩ (List.nil_subset _) rfl rfl (.refl _) rfl
    exact hleft.trans (serves_lendNew name)
  | cons c rest ih =>
    intro h
    have hrest : rest ⊆ p.idle := fun d hd => hidle (List.mem_cons_of_mem _ hd)
    have hready := (preparing_beforeUse (h.idle c (hidle List.mem_cons_self))).proceed p.world
    have hleft : ∀ world, Serves config registry p { p with idle := rest, world } := fun world =>
      .aside ⟨rfl, rfl⟩ hrest rfl rfl (.refl _) rfl
    rw [provide]
    split
    · next d world hd =>
      obtain ⟨hs, hr⟩ := hready.1 _ (congrArg Prod.fst hd)
      exact (hleft world).trans (serves_lend name hs (hr.1 rfl)) h
    · next e d world hd =>
      have hfounded := founded_of_made rfl (hready.1 _ (congrArg Prod.fst hd)).2.2
      split
      · exact (hleft world).trans (serves_finish name rfl hfounded) h
      · exact (serves_outside world).trans (ih { p with world } hrest) h
    · next millis program world hd =>
      have hmore := hready.2 _ _ (congrArg Prod.fst hd)
      exact (hleft world).trans (serves_prepare hmore) h

theorem serves_serve (tickets : List Ticket) (p : Pool) : Serves config registry p (serve tickets p) := by
  induction tickets generalizing p with
  | nil => exact .aside ⟨rfl, rfl⟩ (.refl _) rfl rfl (.refl _) rfl
  | cons ticket rest ih =>
    rw [serve]
    split
    · exact (serves_provide ticket.name p (.refl _)).trans (ih _)
    · exact .aside ⟨rfl, rfl⟩ (.refl _) rfl rfl (.refl _) rfl

theorem serves_served : Serves config registry p p.served := serves_serve _ _

theorem serves_acquire (name : String) (wait : Option Duration) : Serves config registry p (p.acquire name wait) := by
  have hwait : ∀ ticket, Serves config registry p { p with waiting := p.waiting ++ [ticket] } := fun _ =>
    .aside ⟨rfl, rfl⟩ (.refl _) rfl rfl (.refl _) rfl
  unfold acquire
  dsimp only
  split
  · next e he =>
    intro h
    refine serves_finish name rfl (fun hover => ?_) h
    cases wait with
    | some d => cases he
    | none => exact .inl (h.config_eq ▸ (Config.span_eq_error_iff.1 he).2)
  · split_ifs
    · exact serves_finish name rfl nofun
    · exact (serves_provide name p (.refl _)).trans serves_served
    · split
      · exact hwait _
      · split_ifs
        · exact serves_finish name rfl nofun
        · exact hwait _

theorem serves_cancel (name : String) : Serves config registry p (p.cancel name) := by
  unfold cancel
  split
  · let others : Pool :=
      { p with
        waiting := p.waiting.filter (·.name != name)
        readying := p.readying.filter (·.name != name) }
    calc Serves config registry p others := .aside ⟨rfl, rfl⟩ (.refl _) rfl rfl List.filter_sublist.subset rfl
      Serves config registry _ (others.finish name .cancelled) := serves_finish name rfl nofun
      Serves config registry _ (others.finish name .cancelled).served := serves_served
  · exact .refl

/-- a lease ends, and its connection stays in the care of the pool or goes -/
theorem serves_withoutLease (name : String) : Serves config registry p (p.withoutLease name) :=
  .unlent ⟨List.filter_sublist, .refl _⟩ fun h =>
    h.fewer ⟨rfl, rfl⟩ (.refl _) List.filter_sublist.subset (.refl _) (.refl _) (.refl _)

theorem takeBack_leases (p : Pool) (c : Connection) : (p.takeBack c).leases = p.leases := by
  unfold takeBack
  split <;> rfl

theorem takeBack_ended (p : Pool) (c : Connection) : (p.takeBack c).ended = p.ended := by
  unfold takeBack
  split <;> rfl

theorem serves_takeBack {c : Connection} (hc : Standard config registry c) :
    Serves config registry p (p.takeBack c) :=
  .unlent ⟨by rw [takeBack_leases], by rw [winners, winners, takeBack_ended]⟩ fun h => h.takeBack hc

/-- the slot of a lease that ends goes to those who wait -/
theorem serves_ended (name : String) {c : Connection} (hc : Standard config registry c) :
    Serves config registry p ((p.withoutLease name).takeBack c).served :=
  calc Serves config registry p (p.withoutLease name) := serves_withoutLease name
    Serves config registry _ ((p.withoutLease name).takeBack c) := serves_takeBack hc
    Serves config registry _ ((p.withoutLease name).takeBack c).served := serves_served

theorem serves_giveBack (name : String) : Serves config registry p (p.giveBack name) := by
  intro h
  unfold giveBack
  split
  · exact ⟨h, .refl⟩
  · next c hc =>
    have hs : Standard config registry c := h.leases _ (mem_of_lookup hc)
    exact serves_ended name hs h

/-- these leases without clauses in the ones of this name -/
def cleared (leases : List (String × Connection)) (name : String) : List (String × Connection) :=
  leases.map fun lease => if lease.1 == name then (lease.1, lease.2.clearDraft) else lease

theorem filter_cleared (leases : List (String × Connection)) (name : String) :
    (cleared leases name).filter (·.1 != name) = leases.filter (·.1 != name) := by
  unfold cleared
  induction leases with
  | nil => rfl
  | cons lease rest ih =>
    rw [List.map_cons]
    by_cases hn : lease.1 = name
    · rw [if_pos (beq_iff_eq.2 hn), List.filter_cons_of_neg (by simp [hn]), List.filter_cons_of_neg (by simp [hn]), ih]
    · rw [if_neg (by simp [hn]), List.filter_cons_of_pos (by simp [hn]), List.filter_cons_of_pos (by simp [hn]), ih]

theorem standard_map {entries : List (String × Connection)} {g : String × Connection → String × Connection}
    (h : ∀ entry ∈ entries, Standard config registry entry.2)
    (hg : ∀ entry, Standard config registry entry.2 → Standard config registry (g entry).2) :
    ∀ entry ∈ entries.map g, Standard config registry entry.2 := by
  intro entry he
  obtain ⟨before, hb, rfl⟩ := List.mem_map.1 he
  exact hg before (h before hb)

/-- clauses that are left over go, and the lease with them -/
theorem serves_release (name : String) : Serves config registry p (p.release name) := by
  intro h
  let without : Pool := { p with leases := cleared p.leases name }
  have hothers : without.withoutLease name = p.withoutLease name :=
    congrArg (fun leases => { p with leases }) (filter_cleared p.leases name)
  show (without.giveBack name).Uniform config registry ∧ Lends _ p (without.giveBack name)
  unfold giveBack
  split
  · next hn =>
    have hnone : without = without.withoutLease name := by
      have hkeys : ∀ lease ∈ without.leases, (lease.1 != name) = true := by
        intro lease hl
        simpa [bne_iff_ne, ne_comm] using List.lookup_eq_none_iff.1 hn lease hl
      exact congrArg (fun leases => { p with leases }) (List.filter_eq_self.2 hkeys).symm
    rw [hnone, hothers]
    exact serves_withoutLease name h
  · next c hc =>
    have hs : Standard config registry c := by
      refine standard_map h.leases (fun lease hl => ?_) _ (mem_of_lookup hc)
      split
      · exact hl.clearDraft
      · exact hl
    rw [hothers]
    exact serves_ended name hs h

theorem serves_detach (name : String) : Serves config registry p (p.detach name) := by
  intro h
  unfold detach
  split
  · exact ⟨h, .refl⟩
  · next c hc =>
    let left : Pool := { p.withoutLease name with detached := (name, c) :: p.detached.filter (·.1 != name) }
    have hleft : Serves config registry (p.withoutLease name) left := by
      refine .unlent ⟨.refl _, .refl _⟩ fun hu => { hu with detached := fun entry he => ?_ }
      rcases List.mem_cons.1 he with rfl | he
      · exact h.leases _ (mem_of_lookup hc)
      · exact h.detached entry (List.mem_of_mem_filter he)
    have hserved : Serves config registry p left.served :=
      calc Serves config registry p (p.withoutLease name) := serves_withoutLease name
        Serves config registry _ left := hleft
        Serves config registry _ left.served := serves_served
    exact hserved h

theorem serves_evictIdle (span : Duration) : Serves config registry p (p.evictIdle span).1 :=
  .aside ⟨rfl, rfl⟩ List.filter_sublist.subset rfl rfl (.refl _) rfl

theorem serves_refuseAll (tickets : List Ticket) (p : Pool) :
    Serves config registry p (tickets.foldl (fun p ticket => p.finish ticket.name (.failed .poolClosed)) p) := by
  induction tickets generalizing p with
  | nil => exact .refl
  | cons ticket rest ih =>
    have hfounded : Founded config (.failed .poolClosed) := nofun
    exact (serves_finish ticket.name rfl hfounded).trans (ih _)

theorem serves_close : Serves config registry p p.close := by
  let shut : Pool := { p with slots := 0, closed := true, idle := [], waiting := [] }
  have hshut : Serves config registry p shut := .aside ⟨rfl, rfl⟩ (List.nil_subset _) rfl rfl (.refl _) rfl
  exact hshut.trans (serves_refuseAll p.waiting shut)

/-! ## What time brings -/

/-- an acquire gets a connection only if making it ready has succeeded -/
theorem serves_resume {r : Readying} (hr : Preparing config registry r.rest) :
    Serves config registry p (p.resume r) := by
  have hmore := hr.proceed p.world
  unfold resume
  split
  · next c world hd =>
    obtain ⟨hs, hc⟩ := hmore.1 _ (congrArg Prod.fst hd)
    exact (serves_outside world).trans (serves_lend r.name hs (hc.1 rfl))
  · next e d world hd =>
    have hfounded := founded_of_made rfl (hmore.1 _ (congrArg Prod.fst hd)).2.2
    split
    · exact (serves_outside world).trans (serves_finish r.name rfl hfounded)
    · exact (serves_outside world).trans (serves_provide r.name _ (.refl _))
  · next millis program world hd =>
    exact (serves_outside world).trans (serves_prepare (hmore.2 _ _ (congrArg Prod.fst hd)))

theorem serves_expire (tickets : List Ticket) (p : Pool) : Serves config registry p (p.expire tickets) := by
  have hwait : ∀ (p : Pool) ticket, Serves config registry p { p with waiting := p.waiting ++ [ticket] } := fun _ _ =>
    .aside ⟨rfl, rfl⟩ (.refl _) rfl rfl (.refl _) rfl
  induction tickets generalizing p with
  | nil => exact .refl
  | cons ticket rest ih =>
    rw [expire]
    split
    · next deadline wait _ =>
      split
      · have hfounded : Founded config (.failed (.poolTimeout wait)) := nofun
        exact (serves_finish ticket.name rfl hfounded).trans (ih _)
      · exact (hwait p ticket).trans (ih _)
    · exact (hwait p ticket).trans (ih _)

theorem serves_resumeAll {due : List Readying} (hdue : ∀ r ∈ due, Preparing config registry r.rest) (p : Pool) :
    Serves config registry p (due.foldl resume p) := by
  induction due generalizing p with
  | nil => exact .refl
  | cons r rest ih =>
    have hrest : ∀ r ∈ rest, Preparing config registry r.rest := fun r hr => hdue r (List.mem_cons_of_mem _ hr)
    calc Serves config registry p (p.resume r) := serves_resume (hdue r List.mem_cons_self)
      Serves config registry _ (rest.foldl resume (p.resume r)) := ih hrest _

theorem serves_arrive : Serves config registry p p.arrive := by
  intro h
  have hdue : ∀ r ∈ p.readying.filter (fun r => r.wake ≤ p.now), Preparing config registry r.rest :=
    fun r hr => h.readying r (List.mem_of_mem_filter hr)
  let later : Pool := { p with readying := p.readying.filter fun r => p.now < r.wake }
  let resumed := (p.readying.filter fun r => r.wake ≤ p.now).foldl resume later
  let unasked : Pool := { resumed with waiting := [] }
  have hserved : Serves config registry p (unasked.expire resumed.waiting).served :=
    calc Serves config registry p later := .aside ⟨rfl, rfl⟩ (.refl _) rfl rfl List.filter_sublist.subset rfl
      Serves config registry _ resumed := serves_resumeAll hdue later
      Serves config registry _ unasked := .aside ⟨rfl, rfl⟩ (.refl _) rfl rfl (.refl _) rfl
      Serves config registry _ (unasked.expire resumed.waiting) := serves_expire _ _
      Serves config registry _ (unasked.expire resumed.waiting).served := serves_served
  exact hserved h

theorem serves_moment (now : Nat) : Serves config registry p { p with now } :=
  .aside ⟨rfl, rfl⟩ (.refl _) rfl rfl (.refl _) rfl

theorem serves_passUntil (moment events : Nat) (p : Pool) : Serves config registry p (passUntil moment events p) := by
  induction events generalizing p with
  | zero => exact serves_moment moment
  | succ events ih =>
    rw [passUntil]
    split
    · next t _ =>
      split
      · calc Serves config registry p { p with now := t } := serves_moment t
          Serves config registry _ (arrive { p with now := t }) := serves_arrive
          Serves config registry _ (passUntil moment events (arrive { p with now := t })) := ih _
      · exact serves_moment moment
    · exact serves_moment moment

theorem serves_pass (millis : Nat) : Serves config registry p (p.pass millis) :=
  serves_passUntil (p.now + millis) millis p

theorem serves_awaitWithin (name : String) (events : Nat) (p : Pool) :
    Serves config registry p (awaitWithin name events p) := by
  induction events generalizing p with
  | zero => exact .refl
  | succ events ih =>
    rw [awaitWithin]
    split
    · exact .refl
    · split
      · next t _ =>
        calc Serves config registry p { p with now := t } := serves_moment t
          Serves config registry _ (arrive { p with now := t }) := serves_arrive
          Serves config registry _ (awaitWithin name events (arrive { p with now := t })) := ih _
      · exact .refl

theorem serves_await (name : String) : Serves config registry p (p.await name) :=
  serves_awaitWithin name (p.eventsAhead + 1) p

/-! ## Steps of a pool -/

/-- what users of a pool do, and time -/
inductive Action where
  | acquire (name : String) (wait : Option Duration)
  | cancel (name : String)
  | release (name : String)
  | giveBack (name : String)
  | detach (name : String)
  | evictIdle (span : Duration)
  | close
  | tell
  | pass (millis : Nat)
  | await (name : String)

def Action.apply (p : Pool) : Action → Pool
  | acquire name wait => p.acquire name wait
  | cancel name => p.cancel name
  | release name => p.release name
  | giveBack name => p.giveBack name
  | detach name => p.detach name
  | evictIdle span => (p.evictIdle span).1
  | close => p.close
  | tell => p.told
  | pass millis => p.pass millis
  | await name => p.await name

/-- one thing that happens to a pool -/
inductive Step (p : Pool) : Pool → Prop
  | act (action : Action) : Step p (action.apply p)
  /-- a holder does anything to a connection; no operation changes its settings (`Operation.keeps_perform`) -/
  | held (name : String) (c : Connection) (hc : Standard p.config p.registry c) : Step p (p.putBack name c)
  /-- others go on outside of the pool, on the server as well -/
  | outside (world : World) : Step p { p with world }

theorem serves_act (action : Action) : Serves config registry p (action.apply p) := by
  cases action with
  | acquire name wait => exact serves_acquire name wait
  | cancel name => exact serves_cancel name
  | release name => exact serves_release name
  | giveBack name => exact serves_giveBack name
  | detach name => exact serves_detach name
  | evictIdle span => exact serves_evictIdle span
  | close => exact serves_close
  | tell => exact .unlent ⟨.refl _, List.nil_sublist _⟩ fun h => { h with ended := List.forall_mem_nil _ }
  | pass millis => exact serves_pass millis
  | await name => exact serves_await name

namespace Uniform

theorem putBack (h : p.Uniform config registry) (name : String) {c : Connection} (hc : Standard config registry c) :
    (p.putBack name c).Uniform config registry := by
  have hput : ∀ entry : String × Connection, Standard config registry entry.2 →
      Standard config registry (if entry.1 == name then (name, c) else entry).2 := by
    intro entry he
    split
    · exact hc
    · exact he
  unfold Pool.putBack
  dsimp only
  split
  · exact { h with leases := standard_map h.leases hput }
  · exact { h with detached := standard_map h.detached hput }

theorem step (h : p.Uniform config registry) (hs : Step p p') : p'.Uniform config registry := by
  cases hs with
  | act action => exact (serves_act action h).1
  | held name c hc =>
    rw [h.config_eq, h.registry_eq] at hc
    exact h.putBack name hc
  | outside world => exact { h with }

theorem steps (h : p.Uniform config registry) (hs : Relation.ReflTransGen Step p p') :
    p'.Uniform config registry := by
  induction hs with
  | refl => exact h
  | tail _ hs ih => exact ih.step hs

/-- a new pool has no connections -/
theorem new (h : Pool.new config registry = .ok p) : p.Uniform config registry := by
  obtain ⟨checked, hc, h⟩ := except_bind_ok.1 h
  have hsame : checked = config := by
    unfold Config.check at hc
    split at hc
    · cases hc
    · exact (Except.ok.inj hc).symm
  obtain rfl := Except.ok.inj h
  exact ⟨hsame, rfl, List.forall_mem_nil _, List.forall_mem_nil _, List.forall_mem_nil _, List.forall_mem_nil _,
    List.forall_mem_nil _⟩

theorem connection {c : Connection} {name : String} (h : p.Uniform config registry)
    (hc : p.connection? name = some c) : Standard config registry c := by
  rcases Option.or_eq_some_iff.1 hc with hl | ⟨-, hd⟩
  · exact h.leases _ (mem_of_lookup hl)
  · exact h.detached _ (mem_of_lookup hd)

end Uniform

/-- a program that runs in the world of a pool takes its turns among the steps of the pool -/
theorem steps_play {α : Type} (t : Timed World α) (p : Pool) : Relation.ReflTransGen Step p (play t p).2 := by
  induction t generalizing p with
  | done x => exact .refl
  | act change rest ih => exact .head (.outside _) (ih p.world _)
  | wait millis rest ih => exact .head (.act (.pass millis)) (ih _)

theorem gives_play {α : Type} {P : α → Prop} {t : Timed World α} (h : t.Gives P) (p : Pool) : P (play t p).1 := by
  induction h generalizing p with
  | done x h => exact h
  | act change rest _ ih => exact ih p.world _
  | wait millis rest _ ih => exact ih _

/-- whatever a holder does with a connection is made of steps -/
theorem steps_use {name : String} {operation : Operation} {answer : Except Error Answer}
    (h : p.Uniform config registry) (hu : p.use name operation = some (answer, p')) :
    Relation.ReflTransGen Step p p' := by
  unfold use at hu
  split at hu
  · cases hu
  · next c hc =>
    have hkept := gives_play (operation.keeps_perform c) p
    have hplayed := steps_play (operation.perform.run.run c) p
    obtain rfl := (Prod.mk.inj (Option.some.inj hu)).2
    -- the pool went on while the operation waited, but with the same settings
    have hthere := h.steps hplayed
    refine hplayed.tail (.held name _ ?_)
    rw [hthere.config_eq, hthere.registry_eq]
    exact hkept.trans (h.connection hc)

theorem leases_lend (name : String) (c : Connection) :
    (p.lend name c).leases = (p.withoutLease name).leases ++ [(name, c)] := by
  unfold lend
  split
  · rfl
  · exact takeBack_leases _ _

/-- operations on one connection, one after the other -/
def useAll (p : Pool) (name : String) : List Operation → Pool
  | [] => p
  | operation :: rest =>
    match p.use name operation with
    | none => p
    | some (_, p) => p.useAll name rest

theorem steps_useAll (name : String) (operations : List Operation) (h : p.Uniform config registry) :
    Relation.ReflTransGen Step p (p.useAll name operations) := by
  induction operations generalizing p with
  | nil => exact .refl
  | cons operation rest ih =>
    rw [useAll]
    split
    · exact .refl
    · next hu =>
      have hfirst := steps_use h hu
      exact hfirst.trans (ih (h.steps hfirst))

/-- the leases that were not there before are such connections -/
theorem leases_lends {P : Connection → Prop} (h : Lends P p p') :
    ∀ lease ∈ p'.leases, lease ∈ p.leases ∨ P lease.2 := by
  induction h with
  | refl => exact fun lease hl => .inl hl
  | @tail p₁ p₂ _ he ih =>
    intro lease hl
    cases he with
    | unlent hq => exact ih lease (hq.leases.subset hl)
    | lent name hc =>
      rw [leases_lend] at hl
      rcases List.mem_append.1 hl with hl | hl
      · exact ih lease (List.mem_of_mem_filter hl)
      · obtain rfl := List.mem_singleton.1 hl
        exact .inr hc

/-- **Every lease is revalidated.** Behind any steps of a pool that was new, whatever its connections went through:
when an acquire gets a connection, there are no clauses in it but the prefix of the pool, it is in no transaction, and
its session is not one that cannot be relied on. Operations of holders are such steps. -/
theorem revalidated_leases {p₀ : Pool} (made : Pool.new config registry = .ok p₀)
    (past : Relation.ReflTransGen Step p₀ p) :
    (∀ action : Action, Lends (Connection.Revalidated config.tablePrefix) p (action.apply p)) ∧
      ∀ (name : String) (operation : Operation) (answer : Except Error Answer) (p' : Pool),
        p.use name operation = some (answer, p') → Relation.ReflTransGen Step p p' := by
  have h := (Uniform.new made).steps past
  exact ⟨fun action => (serves_act action h).2, fun name operation answer p' hu => steps_use h hu⟩

/-- a nested transaction, a statement that the session was lost with, and a query that was not finished -/
def abandonedWork : List Operation :=
  [.start, .start, .arrange fun s => { s with prepareFailures := [⟨2006, "server has gone away"⟩] },
    .execute (.ofText "UPDATE a SET x = 1") none, .bound ⟨none, false, [.ok (.table "old")], .unfinished, ""⟩]

/-- the connection comes back as it was left, and the next acquire gets it without any of that -/
theorem revalidated_leases_abandoned :
    ∃ p₀ p : Pool, Pool.new { Config.standard with tablePrefix := "p_" } .empty = .ok p₀ ∧
      Relation.ReflTransGen Step p₀ p ∧
      (p.idle.map fun c => (c.client.id, c.draft.isDirty, c.depth, c.needsReconnect)) = [(0, true, 2, true)] ∧
      ∃ c, (p.acquire "b" none).lease? "b" = some c ∧ c.client.id = 0 ∧ c.Revalidated "p_" := by
  obtain ⟨p₀, hmade⟩ : ∃ p₀, Pool.new { Config.standard with tablePrefix := "p_" } .empty = .ok p₀ := ⟨_, rfl⟩
  have hp₀ := Except.ok.inj hmade
  generalize hp : ((p₀.acquire "a" none).useAll "a" abandonedWork).giveBack "a" = p
  have hpast : Relation.ReflTransGen Step p₀ p := by
    have hleased : Relation.ReflTransGen Step p₀ (p₀.acquire "a" none) := .single (.act (.acquire "a" none))
    have hused := hleased.trans (steps_useAll "a" abandonedWork ((Uniform.new hmade).steps hleased))
    exact hp ▸ hused.tail (.act (.giveBack "a"))
  have hidle : (p.idle.map fun c => (c.client.id, c.draft.isDirty, c.depth, c.needsReconnect)) =
      [(0, true, 2, true)] := by
    rw [← hp, ← hp₀]
    decide +kernel
  have hnobody : p.leases = [] := by
    refine List.isEmpty_iff.1 ?_
    rw [← hp, ← hp₀]
    decide +kernel
  have hid : ((p.acquire "b" none).lease? "b").map (·.client.id) = some 0 := by
    rw [← hp, ← hp₀]
    decide +kernel
  obtain ⟨c, hc, hid⟩ := Option.map_eq_some_iff.1 hid
  have hlends := (revalidated_leases hmade hpast).1 (.acquire "b" none)
  refine ⟨p₀, p, hmade, hpast, hidle, c, hc, hid, ?_⟩
  rcases leases_lends hlends _ (mem_of_lookup hc) with hl | hl
  · rw [hnobody] at hl
    cases hl
  · exact hl

end Pool

end SqlSession
