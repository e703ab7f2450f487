/-
How long an acquire waits.

The wait that an acquire allows for is the time that it may spend in the queue. It gets a slot before that is over, or
it is told at its very end that it waited too long and has nothing of the pool then. Once it has a slot its connection
is made ready, and the wait does not bound that.
- `Timely`: what a pool is going to do by itself lies ahead of it, kept by all steps;
- `Turn`, `course_act`, `course_use`: steps are made of turns, at one moment each or with nothing happening in them;
- `advance_turn`: what a turn does to an acquire, and when;
- `acquire_waits_within_budget`: the result, for any course of a pool that was new.
-/
import SqlSession.Proofs.Pool.Shares

namespace SqlSession

open Query (Registry)

namespace Pool

variable {config : Config} {registry : Registry} {p p' : Pool} {m n : String}

/-! ## What is still to come -/

/-- what the pool is going to do by itself lies ahead of it -/
structure Timely (p : Pool) : Prop where
  waiting : ∀ t ∈ p.waiting, t.Early p.now
  readying : ∀ r ∈ p.readying, p.now < r.wake

theorem Prompt.timely (h : Prompt p p') (hp : p.Timely) : p'.Timely := by
  refine ⟨fun t ht => h.now ▸ hp.waiting t (h.waiting ht), fun r hr => ?_⟩
  rcases h.readying r hr with hr | hr
  · exact h.now ▸ hp.readying r hr
  · exact h.now ▸ hr

namespace Timely

theorem join (h : p.Timely) {t : Ticket} (ht : t.Early p.now) : Timely { p with waiting := p.waiting ++ [t] } := by
  refine ⟨fun u hu => ?_, h.readying⟩
  rcases List.mem_append.1 hu with hu | hu
  · exact h.waiting u hu
  · obtain rfl := List.mem_singleton.1 hu
    exact ht

theorem early (h : p.Timely) : ∀ t ∈ (p.share n).queued, t.Early p.now :=
  fun t ht => h.waiting t (List.mem_of_mem_filter ht)

theorem new (h : Pool.new config registry = .ok p) : p.Timely := by
  obtain ⟨checked, -, h⟩ := except_bind_ok.1 h
  obtain rfl := Except.ok.inj h
  exact ⟨List.forall_mem_nil _, List.forall_mem_nil _⟩

end Timely

theorem Duration.ticks_pos {d : Duration} (h : d.nanos ≠ 0) : 0 < d.ticks := by
  unfold Duration.ticks
  omega

theorem timely_acquire (h : p.Timely) (name : String) (wait : Option Duration) :
    (p.acquire name wait).Timely ∧ (p.acquire name wait).now = p.now := by
  unfold acquire
  dsimp only
  split
  · exact ⟨(prompt_finish name _).timely h, rfl⟩
  · split_ifs
    · exact ⟨(prompt_finish name _).timely h, rfl⟩
    · have hserved : Prompt p (provide name p.idle p).served := (prompt_provide name p.idle p).trans prompt_served
      exact ⟨hserved.timely h, hserved.now⟩
    · split
      · refine ⟨h.join fun limit hl => ?_, rfl⟩
        cases hl
      · next d =>
        split_ifs with hd
        · exact ⟨(prompt_finish name _).timely h, rfl⟩
        · refine ⟨h.join fun limit hl => ?_, rfl⟩
          obtain rfl := Option.some.inj hl
          exact Nat.lt_add_of_pos_right (Duration.ticks_pos hd)

theorem timely_settle (h : p.Timely) (t : Ticket) : (p.settle t).Timely := by
  rcases settle_cases p t with ⟨deadline, wait, -, -, heq⟩ | ⟨hearly, heq⟩
  · exact heq ▸ (prompt_finish t.name (.failed (.poolTimeout wait))).timely h
  · exact heq ▸ h.join hearly

theorem timely_expire (tickets : List Ticket) (h : p.Timely) :
    (p.expire tickets).Timely ∧ (p.expire tickets).now = p.now := by
  rw [expire_eq_foldl]
  refine ⟨?_, foldl_now settle_now tickets p⟩
  induction tickets generalizing p with
  | nil => exact h
  | cons t rest ih => exact ih (timely_settle h t)

/-- at a moment with events everything that is due is done -/
theorem timely_arrive (p : Pool) : p.arrive.Timely ∧ p.arrive.now = p.now := by
  have hresumed : Prompt p.later p.resumed := prompt_resumeAll p.due p.later
  have hunasked : Timely { p.resumed with waiting := [] } := by
    refine ⟨List.forall_mem_nil _, fun r hr => ?_⟩
    show p.resumed.now < r.wake
    rw [hresumed.now]
    rcases hresumed.readying r hr with hr | hr
    · exact of_decide_eq_true (List.mem_filter.1 hr).2
    · exact hr
  obtain ⟨hexpired, hnow⟩ := timely_expire p.resumed.waiting hunasked
  have hserved : Prompt _ p.arrive := prompt_served
  exact ⟨hserved.timely hexpired, hserved.now.trans (hnow.trans hresumed.now)⟩

/-! ## Turns -/

/-- the action takes time, or may do so -/
def Action.Lasts : Action → Prop
  | pass _ => True
  | await _ => True
  | _ => False

/-- the action is an acquire under a name -/
def Action.Takes (n : String) : Action → Prop
  | acquire name _ => name = n
  | _ => False

/-- one thing that happens at one moment, or time in which nothing happens; and nobody else takes the name -/
inductive Turn (n : String) (p : Pool) : Pool → Prop
  | act (action : Action) (prompt : ¬action.Lasts) (other : ¬action.Takes n) : Turn n p (action.apply p)
  /-- a holder does anything to a connection -/
  | held (name : String) (c : Connection) : Turn n p (p.putBack name c)
  /-- others go on outside of the pool, on the server as well -/
  | outside (world : World) : Turn n p { p with world }
  | idle (moment : Nat) (later : p.now ≤ moment) (quiet : ∀ t, p.nextEvent? = some t → moment < t) :
      Turn n p { p with now := moment }
  | event (t : Nat) (next : p.nextEvent? = some t) : Turn n p { p with now := t }.arrive

/-- turns one after the other -/
def Course (n : String) : Pool → Pool → Prop := Relation.ReflTransGen (Turn n)

/-- all that is going to happen by itself happens at the next event or behind it -/
theorem nextEvent?_le {moment : Nat}
    (h : moment ∈ p.readying.map Readying.wake ++ p.waiting.filterMap fun t => t.limit.map Prod.fst) :
    ∃ t, p.nextEvent? = some t ∧ t ≤ moment := by
  obtain ⟨t, ht⟩ := Option.isSome_iff_exists.1 (List.isSome_min?_of_mem h)
  exact ⟨t, ht, (List.min?_eq_some_iff.1 ht).2 moment h⟩

theorem nextEvent?_le_limit {t : Ticket} {limit : Nat × Duration} (ht : t ∈ p.waiting) (hl : limit ∈ t.limit) :
    ∃ e, p.nextEvent? = some e ∧ e ≤ limit.1 := by
  refine nextEvent?_le (List.mem_append_right _ (List.mem_filterMap.2 ⟨t, ht, ?_⟩))
  rw [Option.mem_def.1 hl]
  rfl

theorem Timely.lt_nextEvent? (h : p.Timely) {t : Nat} (ht : p.nextEvent? = some t) : p.now < t := by
  rcases List.mem_append.1 (List.min?_eq_some_iff.1 ht).1 with hmem | hmem
  · obtain ⟨r, hr, rfl⟩ := List.mem_map.1 hmem
    exact h.readying r hr
  · obtain ⟨ticket, hticket, hlimit⟩ := List.mem_filterMap.1 hmem
    obtain ⟨limit, hl, rfl⟩ := Option.map_eq_some_iff.1 hlimit
    exact h.waiting ticket hticket limit hl

/-- time goes on up to before the next event -/
theorem timely_idle {moment : Nat} (quiet : ∀ t, p.nextEvent? = some t → moment < t) :
    Timely { p with now := moment } := by
  refine ⟨fun t ht limit hl => ?_, fun r hr => ?_⟩
  · obtain ⟨e, he, hle⟩ := nextEvent?_le_limit ht hl
    exact Nat.lt_of_lt_of_le (quiet e he) hle
  · obtain ⟨e, he, hle⟩ := nextEvent?_le (List.mem_append_left _ (List.mem_map_of_mem hr))
    exact Nat.lt_of_lt_of_le (quiet e he) hle

theorem timely_act (h : p.Timely) {action : Action} (hprompt : ¬action.Lasts) :
    (action.apply p).Timely ∧ (action.apply p).now = p.now := by
  have of_prompt : ∀ {p'}, Prompt p p' → p'.Timely ∧ p'.now = p.now := fun hp => ⟨hp.timely h, hp.now⟩
  cases action with
  | acquire name wait => exact timely_acquire h name wait
  | cancel name => exact of_prompt (prompt_cancel name)
  | release name => exact of_prompt (prompt_release name)
  | giveBack name => exact of_prompt (prompt_giveBack name)
  | detach name => exact of_prompt (prompt_detach name)
  | evictIdle span => exact of_prompt (prompt_evictIdle span)
  | close => exact of_prompt prompt_close
  | tell => exact of_prompt (.fewer rfl (.refl _) (.refl _))
  | pass millis => exact absurd trivial hprompt
  | await name => exact absurd trivial hprompt

theorem timely_turn (h : p.Timely) (ht : Turn n p p') : p'.Timely := by
  cases ht with
  | act action prompt _ => exact (timely_act h prompt).1
  | held name c => exact (prompt_putBack name c).timely h
  | outside world => exact ⟨h.waiting, h.readying⟩
  | idle moment _ quiet => exact timely_idle quiet
  | event t _ => exact (timely_arrive _).1

theorem timely_course (h : p.Timely) (hc : Course n p p') : p'.Timely := by
  induction hc with
  | refl => exact h
  | tail _ ht ih => exact timely_turn ih ht

theorem course_passUntil (n : String) (moment events : Nat) (p : Pool) (h : p.Timely) (hfrom : p.now ≤ moment)
    (hevents : moment ≤ p.now + events) : Course n p (passUntil moment events p) := by
  have hidle : ∀ p : Pool, p.now ≤ moment → (∀ t, p.nextEvent? = some t → moment < t) →
      Course n p { p with now := moment } := fun p hle quiet => .single (.idle moment hle quiet)
  induction events generalizing p with
  | zero =>
    obtain rfl := Nat.le_antisymm hfrom hevents
    exact .refl
  | succ events ih =>
    rw [passUntil]
    split
    · next t ht =>
      have hnext := h.lt_nextEvent? ht
      split
      · next hle =>
        obtain ⟨harrived, hnow⟩ := timely_arrive { p with now := t }
        have hleft : moment ≤ (arrive { p with now := t }).now + events := by
          rw [hnow]
          show moment ≤ t + events
          omega
        exact .head (.event t ht) (ih _ harrived (hnow ▸ hle) hleft)
      · next hlt =>
        refine hidle p hfrom fun e he => ?_
        obtain rfl := Option.some.inj (ht.symm.trans he)
        exact Nat.lt_of_not_le hlt
    · next hnone =>
      refine hidle p hfrom fun e he => ?_
      cases hnone.symm.trans he

/-- time that passes is made of turns -/
theorem course_pass (n : String) (h : p.Timely) (millis : Nat) : Course n p (p.pass millis) :=
  course_passUntil n _ _ p h (Nat.le_add_right _ _) (Nat.le_refl _)

theorem course_awaitWithin (n name : String) (events : Nat) (p : Pool) : Course n p (awaitWithin name events p) := by
  induction events generalizing p with
  | zero => exact .refl
  | succ events ih =>
    rw [awaitWithin]
    split
    · exact .refl
    · split
      · next t ht => exact .head (.event t ht) (ih _)
      · exact .refl

/-- what users of a pool do is made of turns -/
theorem course_act (h : p.Timely) (action : Action) (hother : ¬action.Takes n) : Course n p (action.apply p) := by
  by_cases hlasts : action.Lasts
  · cases action with
    | pass millis => exact course_pass n h millis
    | await name => exact course_awaitWithin n name _ p
    | _ => exact hlasts.elim
  · exact .single (.act action hlasts hother)

theorem course_play {α : Type} (n : String) (t : Timed World α) (h : p.Timely) : Course n p (play t p).2 := by
  induction t generalizing p with
  | done x => exact .refl
  | act change rest ih => exact .head (.outside _) (ih p.world (timely_turn h (.outside (n := n) _)))
  | wait millis rest ih =>
    have hpass := course_pass n h millis
    exact hpass.trans (ih (timely_course h hpass))

/-- what a holder does with a connection is made of turns -/
theorem course_use {name : String} {operation : Operation} {answer : Except Error Answer} (h : p.Timely)
    (hu : p.use name operation = some (answer, p')) : Course n p p' := by
  unfold use at hu
  split at hu
  · cases hu
  · next c _ =>
    obtain rfl := (Prod.mk.inj (Option.some.inj hu)).2
    exact (course_play n (operation.perform.run.run c) h).tail (.held name _)

theorem timely_steps (h : p.Timely) (hs : Relation.ReflTransGen Step p p') : p'.Timely := by
  induction hs with
  | refl => exact h
  | tail _ hs ih =>
    cases hs with
    | act action =>
      cases action with
      | pass millis => exact timely_course ih (course_pass "" ih millis)
      | await name => exact timely_course ih (course_awaitWithin "" name _ _)
      | _ => exact (timely_act ih id).1
    | held name c _ => exact timely_turn ih (.held (n := "") name c)
    | outside world => exact timely_turn ih (.outside (n := "") world)

/-! ## What a turn does to an acquire -/

/-- there is one acquire under the name, or there was -/
inductive Share.Sole : Share → Prop
  | queued (t : Ticket) : Sole ⟨[t], 0, 0, []⟩
  | making : Sole ⟨[], 1, 0, []⟩
  | done (leases : Nat) (told : List Outcome) : Sole ⟨[], 0, leases, told⟩

/-- what a turn does to an acquire, and that it does so at such a moment -/
inductive Advance (now : Nat) : Share → Share → Prop
  | waits {t : Ticket} (early : t.Early now) : Advance now ⟨[t], 0, 0, []⟩ ⟨[t], 0, 0, []⟩
  | lent {t : Ticket} (early : t.Early now) : Advance now ⟨[t], 0, 0, []⟩ ⟨[], 0, 1, [.leased]⟩
  | prepared {t : Ticket} (early : t.Early now) : Advance now ⟨[t], 0, 0, []⟩ ⟨[], 1, 0, []⟩
  | aborted {t : Ticket} {e : Error} (early : t.Early now) (abort : e.isAbort = true) :
      Advance now ⟨[t], 0, 0, []⟩ ⟨[], 0, 0, [.failed e]⟩
  | refused {t : Ticket} {d : Duration} (late : t.limit = some (now, d)) :
      Advance now ⟨[t], 0, 0, []⟩ ⟨[], 0, 0, [.failed (.poolTimeout d)]⟩
  | closed {t : Ticket} : Advance now ⟨[t], 0, 0, []⟩ ⟨[], 0, 0, [.failed .poolClosed]⟩
  | cancelled {t : Ticket} : Advance now ⟨[t], 0, 0, []⟩ ⟨[], 0, 0, [.cancelled]⟩
  | making : Advance now ⟨[], 1, 0, []⟩ ⟨[], 1, 0, []⟩
  | made : Advance now ⟨[], 1, 0, []⟩ ⟨[], 0, 1, [.leased]⟩
  | unmade {e : Error} (abort : e.isAbort = true) : Advance now ⟨[], 1, 0, []⟩ ⟨[], 0, 0, [.failed e]⟩
  | abandoned : Advance now ⟨[], 1, 0, []⟩ ⟨[], 0, 0, [.cancelled]⟩
  | done {leases leases' : Nat} {told told' : List Outcome} (fewer : leases' ≤ leases) :
      Advance now ⟨[], 0, leases, told⟩ ⟨[], 0, leases', told'⟩

namespace Share

variable {now : Nat} {s s' : Share}

theorem Sole.queued_le (h : s.Sole) : s.queued.length ≤ 1 := by
  cases h <;> simp

theorem Sole.same (h : s.Sole) (early : ∀ t ∈ s.queued, t.Early now) : Advance now s s := by
  cases h with
  | queued t => exact .waits (early t (List.mem_singleton.2 rfl))
  | making => exact .making
  | done leases told => exact .done (Nat.le_refl _)

theorem Sole.supplied (h : s.Sole) (early : ∀ t ∈ s.queued, t.Early now) (hs : s.Supplied s') : Advance now s s' := by
  cases hs with
  | same => exact h.same early
  | served queued got =>
    cases h with
    | queued t =>
      have ht := early t (List.mem_singleton.2 rfl)
      cases got with
      | lent => exact .lent ht
      | prepared => exact .prepared ht
      | aborted e abort => exact .aborted ht abort
    | making => cases queued
    | done leases told => cases queued

/-- a lease under the name ends, if there is one -/
theorem Sole.ended (h : s.Sole) (early : ∀ t ∈ s.queued, t.Early now) {same : Bool}
    (hs : (s.ended same).Supplied s') : Advance now s s' := by
  cases h with
  | queued t =>
    have hnone : Share.ended ⟨[t], 0, 0, []⟩ same = ⟨[t], 0, 0, []⟩ := by cases same <;> rfl
    exact (Sole.queued t).supplied early (hnone ▸ hs)
  | making =>
    have hnone : Share.ended ⟨[], 1, 0, []⟩ same = ⟨[], 1, 0, []⟩ := by cases same <;> rfl
    exact Sole.making.supplied early (hnone ▸ hs)
  | done leases told =>
    obtain rfl := hs.eq_of_nil (Share.ended_queued _ _)
    cases same with
    | true => exact .done (Nat.zero_le _)
    | false => exact .done (Nat.le_refl _)

theorem Sole.advance (h : Advance now s s') : s'.Sole := by
  cases h with
  | waits => exact .queued _
  | lent | made => exact .done 1 [.leased]
  | prepared | making => exact .making
  | aborted | refused | closed | cancelled | unmade | abandoned => exact .done 0 _
  | done => exact .done _ _

end Share

theorem advance_cancel (hs : (p.share n).Sole) (early : ∀ t ∈ (p.share n).queued, t.Early p.now) :
    Advance p.now (p.share n) ((p.cancel m).share n) := by
  by_cases hm : m = n
  · subst hm
    have hself := share_cancel_self (p := p) (n := m)
    have hnone := share_cancel_of_none (p := p) (n := m)
    generalize p.share m = s at hs hself hnone
    cases hs with
    | queued t => exact hself (.inl (List.cons_ne_nil _ _)) ▸ .cancelled
    | making => exact hself (.inr Nat.one_ne_zero) ▸ .abandoned
    | done leases told =>
      rw [hnone rfl rfl]
      exact .done (Nat.le_refl _)
  · exact hs.supplied early (share_cancel_of_ne hm hs.queued_le)

theorem advance_act (h : p.Timely) (hs : (p.share n).Sole) {action : Action} (hprompt : ¬action.Lasts)
    (hother : ¬action.Takes n) : Advance p.now (p.share n) ((action.apply p).share n) := by
  have hone := hs.queued_le
  cases action with
  | acquire name wait => exact hs.supplied h.early (share_acquire_of_ne hother wait hone)
  | cancel name => exact advance_cancel hs h.early
  | release name => exact hs.ended h.early (share_release hone)
  | giveBack name => exact hs.ended h.early (share_giveBack hone)
  | detach name => exact hs.ended h.early (share_detach hone)
  | evictIdle span => exact share_evictIdle (n := n) span ▸ hs.same h.early
  | close =>
    show Advance p.now (p.share n) (p.close.share n)
    rw [share_close]
    generalize p.share n = s at hs
    cases hs with
    | queued t => exact .closed
    | making => exact .making
    | done leases told => exact .done (Nat.le_refl _)
  | tell =>
    show Advance p.now (p.share n) { p.share n with told := [] }
    have early := h.early (n := n)
    generalize p.share n = s at hs early
    cases hs with
    | queued t => exact .waits (early t (List.mem_singleton.2 rfl))
    | making => exact .making
    | done leases told => exact .done (Nat.le_refl _)
  | pass millis => exact absurd trivial hprompt
  | await name => exact absurd trivial hprompt

/-- at a moment with events, an acquire whose wait is not over before that is refused if its wait is over then -/
theorem advance_arrive (hs : (p.share n).Sole) (hdue : ∀ t ∈ (p.share n).queued, ∀ limit ∈ t.limit, p.now ≤ limit.1) :
    Advance p.now (p.share n) (p.arrive.share n) := by
  have hzero := share_resumed_of_zero (p := p) (n := n)
  have hone := share_resumed_of_one (p := p) (n := n)
  have hnil := share_arrive_of_nil (p := p) (n := n)
  generalize p.share n = s at hs hdue hzero hone
  cases hs with
  | queued t =>
    have hresumed := hzero rfl
    rcases share_arrive_of_one (congrArg Share.queued hresumed) with
      ⟨deadline, d, hlimit, hover, hrefused⟩ | ⟨hearly, hsupplied⟩
    · have htime : deadline = p.now := Nat.le_antisymm hover (hdue t (List.mem_singleton.2 rfl) (deadline, d) hlimit)
      rw [hrefused, hresumed]
      exact .refused (htime ▸ hlimit)
    · rw [hresumed] at hsupplied
      refine (Share.Sole.queued t).supplied (fun u hu => ?_) hsupplied
      obtain rfl := List.mem_singleton.1 hu
      exact hearly
  | making =>
    rcases hone rfl with hresumed | hserved
    · rw [hnil (congrArg Share.queued hresumed), hresumed]
      exact .making
    · generalize p.resumed.share n = s' at hnil hserved
      cases hserved with
      | lent =>
        rw [hnil rfl]
        exact .made
      | prepared =>
        rw [hnil rfl]
        exact .making
      | aborted e abort =>
        rw [hnil rfl]
        exact .unmade abort
  | done leases told =>
    have hresumed := hzero rfl
    rw [hnil (congrArg Share.queued hresumed), hresumed]
    exact .done (Nat.le_refl _)

/-- **One turn.** An acquire that is queued waits on, gets a slot or is told that it waited too long, and it is told so
exactly when its wait is over and gets a slot only before; one that has a slot keeps it until there is a connection. -/
theorem advance_turn (h : p.Timely) (hs : (p.share n).Sole) (ht : Turn n p p') :
    Advance p'.now (p.share n) (p'.share n) := by
  cases ht with
  | act action prompt other => exact (timely_act h prompt).2 ▸ advance_act h hs prompt other
  | held name c =>
    rw [(prompt_putBack name c).now, share_putBack]
    exact hs.same h.early
  | outside world => exact hs.same h.early
  | idle moment _ quiet => exact hs.same (timely_idle quiet).early
  | event t next =>
    rw [(timely_arrive _).2]
    refine advance_arrive (p := { p with now := t }) hs fun ticket hticket limit hl => ?_
    obtain ⟨e, he, hle⟩ := nextEvent?_le_limit (List.mem_of_mem_filter hticket) hl
    obtain rfl := Option.some.inj (next.symm.trans he)
    exact hle

/-! ## What becomes of an acquire -/

/-- how long an acquire may wait, if its wait is limited -/
def budget (p : Pool) (wait : Option Duration) : Except Error (Option Duration) :=
  match wait with
  | some d => .ok (some d)
  | none => p.config.waitLimit

/-- what an acquire is queued with -/
def ticket (n : String) (call : Nat) (limit : Option Duration) : Ticket :=
  ⟨n, limit.map fun d => (call + d.ticks, d)⟩

/-- the pool has nothing under the name but what is going to be told -/
def HasNothing (n : String) (p : Pool) : Prop := ∃ told, p.share n = ⟨[], 0, 0, told⟩

/-- what has become of an acquire, in the course of a pool since a moment when it was made with a limit -/
inductive Fate (n : String) (call : Nat) (limit : Option Duration) (start p : Pool) : Prop
  /-- it is in the queue, and its wait is not over -/
  | waits (there : p.share n = ⟨[ticket n call limit], 0, 0, []⟩) (early : ∀ d ∈ limit, p.now < call + d.ticks)
  /-- it was given a slot when it was made or before its wait was over, and with that it left the queue -/
  | served {q : Pool} (before : Course n start q) (since : Course n q p)
      (given : q.share n = ⟨[], 1, 0, []⟩ ∨ q.share n = ⟨[], 0, 1, [.leased]⟩)
      (early : q.now = call ∨ ∀ d ∈ limit, q.now < call + d.ticks) (left : (p.share n).queued = [])
  /-- it was given a slot in the same way, making a connection ready for it was aborted at once, and the pool has
  nothing for it -/
  | aborted {q : Pool} {e : Error} (before : Course n start q) (since : Course n q p) (abort : e.isAbort = true)
      (told : q.share n = ⟨[], 0, 0, [.failed e]⟩) (early : q.now = call ∨ ∀ d ∈ limit, q.now < call + d.ticks)
      (nothing : p.HasNothing n)
  /-- it was told that it waited too long, at the moment when its wait was over, and the pool has nothing for it -/
  | refused {q : Pool} {d : Duration} (before : Course n start q) (since : Course n q p) (limited : limit = some d)
      (late : q.now = call + d.ticks) (told : q.share n = ⟨[], 0, 0, [.failed (.poolTimeout d)]⟩)
      (nothing : p.HasNothing n)
  /-- it was cancelled or the pool closed before it had a slot, and the pool has nothing for it -/
  | dismissed {q : Pool} {outcome : Outcome} (before : Course n start q) (since : Course n q p)
      (reason : outcome = .cancelled ∨ outcome = .failed .poolClosed) (told : q.share n = ⟨[], 0, 0, [outcome]⟩)
      (nothing : p.HasNothing n)

/-- making the connection ready takes no time: its session is there, and no transaction is open -/
def Settled (c : Connection) : Prop := c.needsReconnect = false ∧ c.depth = 0

theorem beforeUse_settled {c : Connection} (h : Settled c) : Op.beforeUse.run.run c = .done (.ok (), c.clearDraft) :=
  Op.beforeUse_settled h.1 h.2

/-- an acquire that is served has a connection at once unless the first idle one takes time -/
theorem share_provide_settled {connections : List Connection} (p : Pool) (h : ∀ c ∈ connections.head?, Settled c) :
    (provide n connections p).share n = (p.share n).lend := by
  cases connections with
  | nil => exact share_lend_self _
  | cons c rest =>
    rw [provide, beforeUse_settled (h c rfl)]
    exact share_lend_self _

section

variable {wait limit : Option Duration}

/-- an acquire whose wait has this limit -/
def acquireWithin (p : Pool) (n : String) (limit : Option Duration) : Pool :=
  if p.closed then p.finish n (.failed .poolClosed)
  else if 0 < p.free then (provide n p.idle p).served
  else match limit with
    | none => { p with waiting := p.waiting ++ [ticket n p.now none] }
    | some d =>
      if d.nanos = 0 then p.finish n (.failed (.poolTimeout d))
      else { p with waiting := p.waiting ++ [ticket n p.now (some d)] }

theorem acquire_eq (p : Pool) (n : String) (wait : Option Duration) :
    p.acquire n wait =
      match p.budget wait with
      | .error e => p.finish n (.failed e)
      | .ok limit => p.acquireWithin n limit :=
  rfl

theorem acquire_of_budget (h : p.budget wait = .ok limit) : p.acquire n wait = p.acquireWithin n limit := by
  rw [acquire_eq, h]

/-- a slot that is free is for the acquire, with a connection or one that is made ready first, unless that is aborted -/
theorem share_provide_served (unknown : p.share n = ⟨[], 0, 0, []⟩) :
    (provide n p.idle p).served.share n = ⟨[], 1, 0, []⟩ ∨
      (provide n p.idle p).served.share n = ⟨[], 0, 1, [.leased]⟩ ∨
      ∃ e, e.isAbort = true ∧ (provide n p.idle p).served.share n = ⟨[], 0, 0, [.failed e]⟩ := by
  have hprovided := share_provide_self (n := n) p.idle p
  have hserved := share_served_of_nil (p := provide n p.idle p) (n := n)
  rw [unknown] at hprovided
  generalize (provide n p.idle p).share n = s at hprovided hserved
  cases hprovided with
  | lent => exact .inr (.inl (hserved rfl))
  | prepared => exact .inl (hserved rfl)
  | aborted e abort => exact .inr (.inr ⟨e, abort, hserved rfl⟩)

theorem share_finish_unknown (unknown : p.share n = ⟨[], 0, 0, []⟩) (outcome : Outcome) :
    (p.finish n outcome).share n = ⟨[], 0, 0, [outcome]⟩ := by
  rw [share_finish_self, unknown]
  rfl

theorem share_join_unknown (unknown : p.share n = ⟨[], 0, 0, []⟩) (limit : Option Duration) :
    share { p with waiting := p.waiting ++ [ticket n p.now limit] } n = ⟨[ticket n p.now limit], 0, 0, []⟩ := by
  have hqueued : share { p with waiting := p.waiting ++ [ticket n p.now limit] } n =
      { p.share n with queued := (p.share n).queued ++ [ticket n p.now limit] } := by
    simp [share, ticket]
  rw [hqueued, unknown]
  rfl

theorem sole_acquireWithin (unknown : p.share n = ⟨[], 0, 0, []⟩) (limit : Option Duration) :
    ((p.acquireWithin n limit).share n).Sole := by
  have hfinish : ∀ outcome, ((p.finish n outcome).share n).Sole := fun outcome =>
    share_finish_unknown unknown outcome ▸ .done 0 [outcome]
  have hjoin : (share { p with waiting := p.waiting ++ [ticket n p.now limit] } n).Sole :=
    share_join_unknown unknown limit ▸ .queued _
  unfold acquireWithin
  split_ifs
  · exact hfinish _
  · rcases share_provide_served unknown with hserved | hserved | ⟨e, -, hserved⟩
    · exact hserved ▸ .making
    · exact hserved ▸ .done 1 _
    · exact hserved ▸ .done 0 _
  · cases limit with
    | none => exact hjoin
    | some d =>
      dsimp only
      split_ifs
      · exact hfinish _
      · exact hjoin

/-- an acquire is served, queued or told why not, when it is made -/
theorem fate_acquireWithin (unknown : p.share n = ⟨[], 0, 0, []⟩) (limit : Option Duration) :
    Fate n p.now limit (p.acquireWithin n limit) (p.acquireWithin n limit) := by
  have hfinish := share_finish_unknown unknown
  have hjoin := share_join_unknown unknown limit
  unfold acquireWithin
  split_ifs with hclosed hfree
  · exact .dismissed .refl .refl (.inr rfl) (hfinish _) ⟨_, hfinish _⟩
  · have hnow : (provide n p.idle p).served.now = p.now := ((prompt_provide n p.idle p).trans prompt_served).now
    rcases share_provide_served unknown with hserved | hserved | ⟨e, habort, hserved⟩
    · exact .served .refl .refl (.inl hserved) (.inl hnow) (congrArg Share.queued hserved)
    · exact .served .refl .refl (.inr hserved) (.inl hnow) (congrArg Share.queued hserved)
    · exact .aborted .refl .refl habort hserved (.inl hnow) ⟨_, hserved⟩
  · cases limit with
    | none => exact .waits hjoin fun d hd => by cases hd
    | some d =>
      dsimp only
      split_ifs with hd
      · have hticks : d.ticks = 0 := by
          unfold Duration.ticks
          omega
        exact .refused .refl .refl rfl (by rw [hticks]; rfl) (hfinish _) ⟨_, hfinish _⟩
      · refine .waits hjoin fun e he => ?_
        obtain rfl := Option.some.inj he
        exact Nat.lt_add_of_pos_right (Duration.ticks_pos hd)

end

theorem Advance.queued_eq_nil {now : Nat} {s s' : Share} (h : Advance now s s') (hnone : s.queued = []) :
    s'.queued = [] := by
  cases h <;> first | rfl | cases hnone

theorem HasNothing.turn (h : p.HasNothing n) (ha : Advance p'.now (p.share n) (p'.share n)) : p'.HasNothing n := by
  obtain ⟨told, hnothing⟩ := h
  rw [hnothing] at ha
  generalize hs : p'.share n = s at ha
  cases ha with
  | done fewer =>
    obtain rfl := Nat.le_zero.1 fewer
    exact ⟨_, hs⟩

section

variable {call : Nat} {limit : Option Duration} {start : Pool}

theorem early_ticket {now : Nat} : (ticket n call limit).Early now ↔ ∀ d ∈ limit, now < call + d.ticks := by
  cases limit <;> simp [Ticket.Early, ticket]

/-- what has become of an acquire, one turn later -/
theorem Fate.turn (h : Fate n call limit start p) (past : Course n start p) (ht : Turn n p p')
    (ha : Advance p'.now (p.share n) (p'.share n)) : Fate n call limit start p' := by
  have hcourse : Course n start p' := past.tail ht
  cases h with
  | waits there early =>
    rw [there] at ha
    generalize hs : p'.share n = s at ha
    cases ha with
    | waits early => exact .waits hs (early_ticket.1 early)
    | lent early => exact .served hcourse .refl (.inr hs) (.inr (early_ticket.1 early)) (congrArg Share.queued hs)
    | prepared early => exact .served hcourse .refl (.inl hs) (.inr (early_ticket.1 early)) (congrArg Share.queued hs)
    | aborted early abort => exact .aborted hcourse .refl abort hs (.inr (early_ticket.1 early)) ⟨_, hs⟩
    | refused late =>
      obtain ⟨d, hlimit, hlate⟩ := Option.map_eq_some_iff.1 late
      obtain ⟨hnow, rfl⟩ := Prod.mk.inj hlate
      exact .refused hcourse .refl hlimit hnow.symm hs ⟨_, hs⟩
    | closed => exact .dismissed hcourse .refl (.inr rfl) hs ⟨_, hs⟩
    | cancelled => exact .dismissed hcourse .refl (.inl rfl) hs ⟨_, hs⟩
  | served before since given early left => exact .served before (since.tail ht) given early (ha.queued_eq_nil left)
  | aborted before since abort told early nothing =>
    exact .aborted before (since.tail ht) abort told early (nothing.turn ha)
  | refused before since limited late told nothing =>
    exact .refused before (since.tail ht) limited late told (nothing.turn ha)
  | dismissed before since reason told nothing =>
    exact .dismissed before (since.tail ht) reason told (nothing.turn ha)

theorem fate_course (hstart : start.Timely) (hsole : (start.share n).Sole) (hfate : Fate n call limit start start)
    (course : Course n start p) : (p.share n).Sole ∧ Fate n call limit start p := by
  induction course with
  | refl => exact ⟨hsole, hfate⟩
  | tail past ht ih =>
    obtain ⟨hs, hf⟩ := ih
    have ha := advance_turn (timely_course hstart past) hs ht
    exact ⟨Share.Sole.advance ha, hf.turn past ht ha⟩

end

/-- **What a wait bounds.** Behind any steps of a pool that was new an acquire is made under a name that is not taken,
and may wait for so long, by its own limit or that of the settings. If a slot is free and the first idle connection is
settled it has a connection at once. Otherwise, whatever happens next: it is queued only until its wait is over; it is
given a slot before that, or told exactly then that it waited too long, or dismissed, and whoever is told so has no
connection, no slot and no place in the queue from there on. The same holds of one whose slot was given in time while
the program ended in making a connection ready for it. How long the connection of a slot that was given in time is made
ready is not part of its wait. -/
theorem acquire_waits_within_budget {p₀ : Pool} {wait limit : Option Duration}
    (made : Pool.new config registry = .ok p₀) (past : Relation.ReflTransGen Step p₀ p)
    (unknown : p.share n = ⟨[], 0, 0, []⟩) (hbudget : p.budget wait = .ok limit) :
    (p.closed = false → 0 < p.free → (∀ c ∈ p.idle.head?, Settled c) →
        (p.acquire n wait).now = p.now ∧ (p.acquire n wait).share n = ⟨[], 0, 1, [.leased]⟩) ∧
      ∀ p', Course n (p.acquire n wait) p' → Fate n p.now limit (p.acquire n wait) p' := by
  have htimely := timely_steps (.new made) past
  refine ⟨fun hclosed hfree hsettled => ⟨(timely_acquire htimely n wait).2, ?_⟩, fun p' course => ?_⟩
  · have hlent : (provide n p.idle p).share n = ⟨[], 0, 1, [.leased]⟩ := by
      rw [share_provide_settled p hsettled, unknown]
      rfl
    have hserved := share_served_of_nil (congrArg Share.queued hlent)
    rw [acquire_of_budget hbudget]
    unfold acquireWithin
    rw [if_neg (by rw [hclosed]; exact Bool.false_ne_true), if_pos hfree, hserved, hlent]
  · rw [acquire_of_budget hbudget] at course ⊢
    have hstart : (p.acquireWithin n limit).Timely := acquire_of_budget hbudget ▸ (timely_acquire htimely n wait).1
    exact (fate_course hstart (sole_acquireWithin unknown limit) (fate_acquireWithin unknown limit) course).2

/-- the session is lost, and it will take a while to open one -/
def lostSession : List Operation :=
  [.arrange fun s => { s with prepareFailures := [⟨2006, "server has gone away"⟩] }, .execute (.ofText "SELECT 1") none,
    .arrange fun s => { s with delays := ⟨100, 0, 0, 0⟩ }]

/-- an acquire that may wait for 10 ms has a slot at once, and a connection after 100 ms -/
theorem acquire_waits_within_budget_late :
    ∃ p₀ p p' : Pool, Pool.new { Config.standard with maxSize := 1 } .empty = .ok p₀ ∧
      Relation.ReflTransGen Step p₀ p ∧ p.share "b" = ⟨[], 0, 0, []⟩ ∧ p.now = 0 ∧
      Course "b" (p.acquire "b" (some (.ofMillis 10))) p' ∧ p'.now = 100 ∧ p'.leases.map Prod.fst = ["b"] ∧
      Fate "b" p.now (some (.ofMillis 10)) (p.acquire "b" (some (.ofMillis 10))) p' := by
  obtain ⟨p₀, hmade⟩ : ∃ p₀, Pool.new { Config.standard with maxSize := 1 } .empty = .ok p₀ := ⟨_, rfl⟩
  have hp₀ := Except.ok.inj hmade
  generalize hp : ((p₀.acquire "a" none).useAll "a" lostSession).giveBack "a" = p
  have hpast : Relation.ReflTransGen Step p₀ p := by
    have hleased : Relation.ReflTransGen Step p₀ (p₀.acquire "a" none) := .single (.act (.acquire "a" none))
    have hused := hleased.trans (steps_useAll "a" lostSession ((Uniform.new hmade).steps hleased))
    exact hp ▸ hused.tail (.act (.giveBack "a"))
  have hunknown : p.share "b" = ⟨[], 0, 0, []⟩ := by
    have hnobody : p.waiting.isEmpty ∧ p.readying.isEmpty ∧ p.leases.isEmpty ∧
        (p.ended.filter (·.1 == "b")).isEmpty := by
      rw [← hp, ← hp₀]
      decide +kernel
    obtain ⟨hwaiting, hreadying, hleases, hended⟩ := hnobody
    rw [share, List.isEmpty_iff.1 hwaiting, List.isEmpty_iff.1 hreadying, List.isEmpty_iff.1 hleases,
      List.isEmpty_iff.1 hended]
    rfl
  have htimely := timely_steps (.new hmade) hpast
  have hcourse := course_pass "b" (timely_acquire htimely "b" (some (.ofMillis 10))).1 100
  refine ⟨p₀, p, _, hmade, hpast, hunknown, ?_, hcourse, ?_, ?_,
    (acquire_waits_within_budget hmade hpast hunknown rfl).2 _ hcourse⟩
  · rw [← hp, ← hp₀]
    decide +kernel
  · rw [← hp, ← hp₀]
    decide +kernel
  · rw [← hp, ← hp₀]
    decide +kernel

end Pool

end SqlSession
