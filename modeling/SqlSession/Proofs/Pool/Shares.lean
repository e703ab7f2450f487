/-
What a pool does under one name.

The parts of a pool serve whoever is next; here they are seen from one acquire, by the name that it goes by.
- `Share`: what a pool has under one name;
- `share_provide_self`, `share_serve`, `share_giveBack`, ..: what users of a pool do to it;
- `Prompt`, `prompt_provide`, `prompt_serve`, ..: none of that takes time, and what it begins goes on later;
- `share_resumed_of_one`, `share_arrive_of_one`: what comes of it at a moment with events.
-/
import SqlSession.Proofs.Pool.Leases

namespace SqlSession

open Query (Registry)

/-- the wait is not over -/
def Ticket.Early (t : Ticket) (now : Nat) : Prop := ∀ limit ∈ t.limit, now < limit.1

theorem Timed.proceed_wait {σ α : Type} {t : Timed σ α} {s s' : σ} {millis : Nat} {rest : Timed σ α}
    (h : t.proceed s = (.inr (millis, rest), s')) : 0 < millis := by
  induction t generalizing s with
  | done x => cases h
  | act change rest ih => exact ih s h
  | wait n rest ih =>
    cases n with
    | zero => exact ih h
    | succ n =>
      cases h
      exact n.succ_pos

namespace Pool

variable {config : Config} {registry : Registry} {p p' p₁ : Pool} {m n : String}

/-! ## What a pool has under one name -/

/-- what a pool has under one name -/
structure Share where
  queued : List Ticket
  /-- how many connections are being made ready for it -/
  making : Nat
  leases : Nat
  /-- how its acquires ended, as long as nobody has been told -/
  told : List Outcome

def share (p : Pool) (n : String) : Share where
  queued := p.waiting.filter (·.name == n)
  making := p.readying.countP (·.name == n)
  leases := p.leases.countP (·.1 == n)
  told := (p.ended.filter (·.1 == n)).map Prod.snd

namespace Share

def tell (s : Share) (outcome : Outcome) : Share := { s with told := s.told ++ [outcome] }

/-- a connection is leased -/
def lend (s : Share) : Share := { s with leases := 1 }.tell .leased

/-- one more connection is being made ready -/
def prepare (s : Share) : Share := { s with making := s.making + 1 }

/-- a slot is given, and a connection with it or one that is made ready first, unless that is aborted at once -/
inductive Served (s : Share) : Share → Prop
  | lent : Served s s.lend
  | prepared : Served s s.prepare
  | aborted (e : Error) (abort : e.isAbort = true) : Served s (s.tell (.failed e))

/-- free slots are given out, and it may be one who is queued that gets one -/
inductive Supplied (s : Share) : Share → Prop
  | same : Supplied s s
  | served {t : Ticket} {s' : Share} (queued : s.queued = [t]) (got : Served { s with queued := [] } s') : Supplied s s'

end Share

theorem share_finish_self (outcome : Outcome) : (p.finish n outcome).share n = (p.share n).tell outcome := by
  simp [share, finish, Share.tell]

theorem share_finish_of_ne (h : m ≠ n) (outcome : Outcome) : (p.finish m outcome).share n = p.share n := by
  simp [share, finish, h]

theorem share_withoutLease_self : (p.withoutLease n).share n = { p.share n with leases := 0 } := by
  simp [share, withoutLease, List.countP_eq_zero]

theorem share_withoutLease_of_ne (h : m ≠ n) : (p.withoutLease m).share n = p.share n := by
  have hcount : (p.leases.filter (·.1 != m)).countP (·.1 == n) = p.leases.countP (·.1 == n) := by
    rw [List.countP_filter]
    refine List.countP_congr fun lease _ => ?_
    simp only [Bool.and_eq_true, beq_iff_eq, bne_iff_ne, and_iff_left_iff_imp]
    rintro rfl
    exact h.symm
  simp [share, withoutLease, hcount]

theorem share_takeBack (c : Connection) : (p.takeBack c).share n = p.share n := by
  unfold takeBack
  split <;> rfl

theorem share_lend_self (c : Connection) : (p.lend n c).share n = (p.share n).lend := by
  have hlent : ((p.withoutLease n).handOut n c).share n = (p.share n).lend := by
    rw [handOut, share_finish_self]
    simp [share, withoutLease, Share.lend, Share.tell, List.countP_eq_zero]
  unfold lend
  split
  · exact hlent
  · exact (share_takeBack _).trans hlent

theorem share_lend_of_ne (h : m ≠ n) (c : Connection) : (p.lend m c).share n = p.share n := by
  have hlent : ((p.withoutLease m).handOut m c).share n = p.share n := by
    have hadded : ((p.withoutLease m).handOut m c).share n = (p.withoutLease m).share n := by
      rw [handOut, share_finish_of_ne h]
      simp [share, h]
    exact hadded.trans (share_withoutLease_of_ne h)
  unfold lend
  split
  · exact hlent
  · exact (share_takeBack _).trans hlent

theorem served_lend (p : Pool) (c : Connection) : (p.share n).Served ((p.lend n c).share n) :=
  share_lend_self c ▸ .lent

theorem served_abort (p : Pool) {e : Error} (h : e.isAbort = true) :
    (p.share n).Served ((p.finish n (.failed e)).share n) :=
  share_finish_self (p := p) (.failed e) ▸ .aborted e h

theorem served_prepare (p : Pool) (wake : Nat) (t : Timed World (Except Error Unit × Connection)) :
    (p.share n).Served (share { p with readying := p.readying ++ [⟨n, wake, t⟩] } n) := by
  have hprepared : share { p with readying := p.readying ++ [⟨n, wake, t⟩] } n = (p.share n).prepare := by
    simp [share, Share.prepare]
  exact hprepared ▸ .prepared

/-- an acquire that is served has a lease or a connection that is being made ready, or it was aborted -/
theorem share_provide_self (connections : List Connection) (p : Pool) :
    (p.share n).Served ((provide n connections p).share n) := by
  induction connections generalizing p with
  | nil => exact served_lend { p with idle := [], world := (p.world.onServer Server.welcome).2 } _
  | cons c rest ih =>
    rw [provide]
    split
    · next world _ => exact served_lend { p with idle := rest, world } _
    · next world _ =>
      split
      · next habort => exact served_abort { p with idle := rest, world } habort
      · exact ih { p with world }
    · next millis program world _ => exact served_prepare { p with idle := rest, world } (p.now + millis) program

theorem share_provide_of_ne (h : m ≠ n) (connections : List Connection) (p : Pool) :
    (provide m connections p).share n = p.share n := by
  induction connections generalizing p with
  | nil => exact share_lend_of_ne h _
  | cons c rest ih =>
    rw [provide]
    split
    · exact share_lend_of_ne h _
    · split
      · exact share_finish_of_ne h _
      · exact ih _
    · simp [share, h]

namespace Share

theorem Served.queue {s s' : Share} (h : s.Served s') (queued : List Ticket) :
    Served { s with queued } { s' with queued } := by
  cases h with
  | lent => exact .lent
  | prepared => exact .prepared
  | aborted e abort => exact .aborted e abort

end Share

theorem share_serve_of_nil {tickets : List Ticket} (p : Pool) (hnone : tickets.filter (·.name == n) = []) :
    (serve tickets p).share n = { p.share n with queued := [] } := by
  induction tickets generalizing p with
  | nil => rfl
  | cons ticket rest ih =>
    obtain ⟨hticket, hothers⟩ := List.forall_mem_cons.1 (List.filter_eq_nil_iff.1 hnone)
    have hticket : ticket.name ≠ n := by simpa using hticket
    have hrest := List.filter_eq_nil_iff.2 hothers
    rw [serve]
    split
    · rw [ih _ hrest, share_provide_of_ne hticket]
    · simp [share, hticket, hrest]

/-- slots that are given out go to others, or one goes to whom these tickets belong to -/
theorem share_serve {tickets : List Ticket} (p : Pool) (hone : (tickets.filter (·.name == n)).length ≤ 1) :
    Share.Supplied { p.share n with queued := tickets.filter (·.name == n) } ((serve tickets p).share n) := by
  induction tickets generalizing p with
  | nil => exact .same
  | cons ticket rest ih =>
    rw [serve]
    split
    · by_cases hticket : ticket.name = n
      · have hrest : rest.filter (·.name == n) = [] := by
          simpa [List.filter_cons, hticket] using hone
        rw [share_serve_of_nil _ hrest, hticket]
        refine .served (t := ticket) (by simp [hticket, hrest]) ?_
        exact (share_provide_self p.idle p).queue []
      · have hsame : (ticket :: rest).filter (·.name == n) = rest.filter (·.name == n) := by
          simp [hticket]
        rw [hsame] at hone ⊢
        rw [← share_provide_of_ne hticket p.idle p]
        exact ih _ hone
    · exact .same

theorem share_served (hone : (p.share n).queued.length ≤ 1) : (p.share n).Supplied (p.served.share n) :=
  share_serve p hone

/-- only one who is queued can be given a slot -/
theorem Share.Supplied.eq_of_nil {s s' : Share} (h : s.Supplied s') (hnone : s.queued = []) : s' = s := by
  cases h with
  | same => rfl
  | served queued => cases queued.symm.trans hnone

theorem share_served_of_eq {s : Share} (h : p.share n = s) (hone : s.queued.length ≤ 1) :
    s.Supplied (p.served.share n) := by
  subst h
  exact share_served hone

/-- slots that are given out are not for those who are not queued -/
theorem share_served_of_nil (h : (p.share n).queued = []) : p.served.share n = p.share n :=
  (share_served (by rw [h]; exact Nat.zero_le 1)).eq_of_nil h

/-- leases go by their names -/
theorem countP_map_leases {f : String × Connection → String × Connection} (h : ∀ lease, (f lease).1 = lease.1)
    (leases : List (String × Connection)) : (leases.map f).countP (·.1 == n) = leases.countP (·.1 == n) := by
  rw [List.countP_map]
  exact List.countP_congr fun lease _ => by rw [Function.comp_apply, h]

/-! ## What users of a pool do -/

theorem share_acquire_of_ne (h : m ≠ n) (wait : Option Duration) (hone : (p.share n).queued.length ≤ 1) :
    (p.share n).Supplied ((p.acquire m wait).share n) := by
  have hwait : ∀ limit, share { p with waiting := p.waiting ++ [⟨m, limit⟩] } n = p.share n := fun limit => by
    simp [share, h]
  unfold acquire
  dsimp only
  split
  · exact share_finish_of_ne h _ ▸ .same
  · split_ifs
    · exact share_finish_of_ne h _ ▸ .same
    · exact share_served_of_eq (share_provide_of_ne h p.idle p) hone
    · split
      · exact hwait _ ▸ .same
      · split_ifs
        · exact share_finish_of_ne h _ ▸ .same
        · exact hwait _ ▸ .same

theorem share_cancel_of_ne (h : m ≠ n) (hone : (p.share n).queued.length ≤ 1) :
    (p.share n).Supplied ((p.cancel m).share n) := by
  unfold cancel
  split
  · let others : Pool :=
      { p with
        waiting := p.waiting.filter (·.name != m)
        readying := p.readying.filter (·.name != m) }
    have hothers : (others.finish m .cancelled).share n = p.share n := by
      rw [share_finish_of_ne h]
      have hne : ∀ name : String, (name == n && name != m) = (name == n) := by
        intro name
        by_cases hn : name = n <;> simp [hn, h.symm]
      simp [others, share, List.filter_filter, List.countP_filter, hne]
    exact share_served_of_eq hothers hone
  · exact .same

/-- an acquire that is cancelled has nothing of the pool any more -/
theorem share_cancel_self (h : (p.share n).queued ≠ [] ∨ (p.share n).making ≠ 0) :
    (p.cancel n).share n = { p.share n with queued := [], making := 0 }.tell .cancelled := by
  have hthere : (p.waiting.any (·.name == n) || p.readying.any (·.name == n)) = true := by
    rcases h with h | h
    · obtain ⟨t, ht⟩ := List.exists_mem_of_ne_nil _ h
      exact Bool.or_eq_true_iff.2 (.inl (List.any_eq_true.2 ⟨t, List.mem_filter.1 ht⟩))
    · obtain ⟨r, hr⟩ := List.countP_pos_iff.1 (Nat.pos_of_ne_zero h)
      exact Bool.or_eq_true_iff.2 (.inr (List.any_eq_true.2 ⟨r, hr⟩))
  let others : Pool :=
    { p with
      waiting := p.waiting.filter (·.name != n)
      readying := p.readying.filter (·.name != n) }
  have hqueued : (p.waiting.filter (·.name != n)).filter (·.name == n) = [] := by simp [List.filter_eq_nil_iff]
  have hmaking : (p.readying.filter (·.name != n)).countP (·.name == n) = 0 := by simp [List.countP_eq_zero]
  have hothers : (others.finish n .cancelled).share n =
      { p.share n with queued := [], making := 0 }.tell .cancelled := by
    rw [share_finish_self]
    simp only [others, share, hqueued, hmaking]
  have hnone : ((others.finish n .cancelled).share n).queued = [] := congrArg Share.queued hothers
  unfold cancel
  rw [if_pos hthere]
  exact (share_served_of_nil hnone).trans hothers

theorem share_cancel_of_none (hqueued : (p.share n).queued = []) (hmaking : (p.share n).making = 0) :
    (p.cancel n).share n = p.share n := by
  have hnobody : ¬(p.waiting.any (·.name == n) || p.readying.any (·.name == n)) = true := by
    rw [Bool.or_eq_true_iff, not_or, List.any_eq_true, List.any_eq_true]
    refine ⟨fun ⟨t, ht⟩ => ?_, fun ⟨r, hr⟩ => ?_⟩
    · exact List.filter_eq_nil_iff.1 hqueued t ht.1 ht.2
    · exact List.countP_eq_zero.1 hmaking r hr.1 hr.2
  unfold cancel
  rw [if_neg hnobody]

/-- a lease under a name ends -/
def Share.ended (s : Share) (same : Bool) : Share := if same then { s with leases := 0 } else s

theorem share_withoutLease : (p.withoutLease m).share n = (p.share n).ended (m == n) := by
  by_cases h : m = n
  · simp [h, Share.ended, share_withoutLease_self]
  · simp [h, Share.ended, share_withoutLease_of_ne h]

theorem Share.ended_queued (s : Share) (same : Bool) : (s.ended same).queued = s.queued := by
  unfold Share.ended
  split <;> rfl

theorem share_of_lease?_none (h : p.lease? m = none) : (p.share n).ended (m == n) = p.share n := by
  by_cases hm : m = n
  · have hnone : p.leases.countP (·.1 == n) = 0 := by
      refine List.countP_eq_zero.2 fun lease hl => ?_
      have hother := List.lookup_eq_none_iff.1 h lease hl
      exact fun hsame => bne_iff_ne.1 hother (hm.trans (beq_iff_eq.1 hsame).symm)
    rw [Share.ended, if_pos (beq_iff_eq.2 hm)]
    exact congrArg (fun leases => { p.share n with leases }) hnone.symm
  · simp [hm, Share.ended]

theorem share_giveBack (hone : (p.share n).queued.length ≤ 1) :
    ((p.share n).ended (m == n)).Supplied ((p.giveBack m).share n) := by
  unfold giveBack
  split
  · next hnone =>
    rw [share_of_lease?_none hnone]
    exact .same
  · next c _ =>
    have hleft : ((p.withoutLease m).takeBack c).share n = (p.share n).ended (m == n) :=
      (share_takeBack c).trans share_withoutLease
    exact share_served_of_eq hleft (by rwa [Share.ended_queued])

theorem share_release (hone : (p.share n).queued.length ≤ 1) :
    ((p.share n).ended (m == n)).Supplied ((p.release m).share n) := by
  have hcleared : share { p with leases := cleared p.leases m } n = p.share n := by
    have hcount : (cleared p.leases m).countP (·.1 == n) = p.leases.countP (·.1 == n) :=
      countP_map_leases (fun lease => by split <;> rfl) p.leases
    simp [share, hcount]
  have hback := share_giveBack (p := { p with leases := cleared p.leases m }) (m := m) (n := n) (by rwa [hcleared])
  rwa [hcleared] at hback

theorem share_detach (hone : (p.share n).queued.length ≤ 1) :
    ((p.share n).ended (m == n)).Supplied ((p.detach m).share n) := by
  unfold detach
  split
  · next hnone =>
    rw [share_of_lease?_none hnone]
    exact .same
  · next c _ =>
    let left : Pool := { p.withoutLease m with detached := (m, c) :: p.detached.filter (·.1 != m) }
    have hleft : left.share n = (p.share n).ended (m == n) := share_withoutLease (p := p) (m := m)
    exact share_served_of_eq hleft (by rwa [Share.ended_queued])

theorem share_evictIdle (span : Duration) : (p.evictIdle span).1.share n = p.share n := rfl

theorem share_refuseAll (tickets : List Ticket) (p : Pool) :
    (tickets.foldl (fun p ticket => p.finish ticket.name (.failed .poolClosed)) p).share n =
      { p.share n with
        told := (p.share n).told ++ (tickets.filter (·.name == n)).map fun _ => .failed .poolClosed } := by
  induction tickets generalizing p with
  | nil => simp
  | cons ticket rest ih =>
    rw [List.foldl_cons, ih]
    by_cases h : ticket.name = n
    · rw [h, share_finish_self]
      simp [h, Share.tell]
    · rw [share_finish_of_ne h]
      simp [h]

/-- everybody who is queued is told that the pool is closed -/
theorem share_close :
    p.close.share n =
      { p.share n with
        queued := []
        told := (p.share n).told ++ (p.share n).queued.map fun _ => .failed .poolClosed } :=
  share_refuseAll p.waiting { p with slots := 0, closed := true, idle := [], waiting := [] }

theorem share_putBack (c : Connection) : (p.putBack m c).share n = p.share n := by
  have hput : ∀ entries : List (String × Connection),
      (entries.map fun entry => if entry.1 == m then (m, c) else entry).countP (·.1 == n) =
        entries.countP (·.1 == n) := by
    refine fun entries => countP_map_leases (fun entry => ?_) entries
    split
    · next h => rw [beq_iff_eq.1 h]
    · rfl
  unfold putBack
  dsimp only
  split
  · simp only [share, hput]
  · rfl

/-! ## No time passes -/

/-- no time passes, nobody joins the queue, and what is made ready in addition goes on later -/
structure Prompt (p p' : Pool) : Prop where
  now : p'.now = p.now
  waiting : p'.waiting ⊆ p.waiting
  readying : ∀ r ∈ p'.readying, r ∈ p.readying ∨ p.now < r.wake

namespace Prompt

theorem fewer (now : p'.now = p.now) (waiting : p'.waiting ⊆ p.waiting) (readying : p'.readying ⊆ p.readying) :
    Prompt p p' :=
  ⟨now, waiting, fun _ hr => .inl (readying hr)⟩

theorem refl : Prompt p p := .fewer rfl (.refl _) (.refl _)

theorem trans (h : Prompt p p₁) (h' : Prompt p₁ p') : Prompt p p' := by
  refine ⟨h'.now.trans h.now, fun _ ht => h.waiting (h'.waiting ht), fun r hr => ?_⟩
  rcases h'.readying r hr with hr | hr
  · exact h.readying r hr
  · exact .inr (h.now ▸ hr)

instance : Trans Prompt Prompt Prompt := ⟨trans⟩

end Prompt

theorem prompt_finish (name : String) (outcome : Outcome) : Prompt p (p.finish name outcome) :=
  .fewer rfl (.refl _) (.refl _)

theorem prompt_takeBack (c : Connection) : Prompt p (p.takeBack c) := by
  unfold takeBack
  split <;> exact .fewer rfl (.refl _) (.refl _)

theorem prompt_lend (name : String) (c : Connection) : Prompt p (p.lend name c) := by
  have hlent : Prompt p ((p.withoutLease name).handOut name c) := .fewer rfl (.refl _) (.refl _)
  unfold lend
  split
  · exact hlent
  · exact hlent.trans (prompt_takeBack _)

theorem prompt_prepare (name : String) (millis : Nat) (t : Timed World (Except Error Unit × Connection))
    (h : 0 < millis) : Prompt p { p with readying := p.readying ++ [⟨name, p.now + millis, t⟩] } := by
  refine ⟨rfl, .refl _, fun r hr => ?_⟩
  rcases List.mem_append.1 hr with hr | hr
  · exact .inl hr
  · obtain rfl := List.mem_singleton.1 hr
    exact .inr (Nat.lt_add_of_pos_right h)

theorem prompt_provide (name : String) (connections : List Connection) (p : Pool) :
    Prompt p (provide name connections p) := by
  have hleft : ∀ idle world, Prompt p { p with idle, world } := fun _ _ => .fewer rfl (.refl _) (.refl _)
  induction connections generalizing p with
  | nil =>
    have hlent : Prompt { p with idle := [], world := (p.world.onServer Server.welcome).2 } (provide name [] p) :=
      prompt_lend name _
    exact (hleft [] _).trans hlent
  | cons c rest ih =>
    rw [provide]
    split
    · next world _ => exact (hleft rest world).trans (prompt_lend name _)
    · next world _ =>
      split
      · exact (hleft rest world).trans (prompt_finish name _)
      · exact (hleft p.idle world).trans (ih { p with world } fun _ _ => .fewer rfl (.refl _) (.refl _))
    · next millis program world hwait =>
      exact (hleft rest world).trans (prompt_prepare name millis program (Timed.proceed_wait hwait))

theorem prompt_serve (tickets : List Ticket) (p : Pool) : Prompt { p with waiting := tickets } (serve tickets p) := by
  induction tickets generalizing p with
  | nil => exact .refl
  | cons ticket rest ih =>
    rw [serve]
    split
    · have hprovided := prompt_provide ticket.name p.idle p
      calc Prompt { p with waiting := ticket :: rest } { provide ticket.name p.idle p with waiting := rest } :=
            ⟨hprovided.now, List.subset_cons_self _ _, hprovided.readying⟩
        Prompt _ (serve rest (provide ticket.name p.idle p)) := ih _
    · exact .refl

theorem prompt_served : Prompt p p.served := prompt_serve p.waiting p

theorem prompt_cancel (name : String) : Prompt p (p.cancel name) := by
  unfold cancel
  split
  · let others : Pool :=
      { p with
        waiting := p.waiting.filter (·.name != name)
        readying := p.readying.filter (·.name != name) }
    calc Prompt p (others.finish name .cancelled) :=
          .fewer rfl List.filter_sublist.subset List.filter_sublist.subset
      Prompt _ (others.finish name .cancelled).served := prompt_served
  · exact .refl

theorem prompt_withoutLease (name : String) : Prompt p (p.withoutLease name) := .fewer rfl (.refl _) (.refl _)

theorem prompt_giveBack (name : String) : Prompt p (p.giveBack name) := by
  unfold giveBack
  split
  · exact .refl
  · exact (prompt_withoutLease name).trans ((prompt_takeBack _).trans prompt_served)

theorem prompt_release (name : String) : Prompt p (p.release name) := by
  have hcleared : Prompt p { p with leases := cleared p.leases name } := .fewer rfl (.refl _) (.refl _)
  exact hcleared.trans (prompt_giveBack name)

theorem prompt_detach (name : String) : Prompt p (p.detach name) := by
  unfold detach
  split
  · exact .refl
  · next c _ =>
    let left : Pool := { p.withoutLease name with detached := (name, c) :: p.detached.filter (·.1 != name) }
    calc Prompt p left := .fewer rfl (.refl _) (.refl _)
      Prompt _ left.served := prompt_served

theorem prompt_evictIdle (span : Duration) : Prompt p (p.evictIdle span).1 := .fewer rfl (.refl _) (.refl _)

theorem prompt_close : Prompt p p.close := by
  have hrefused : ∀ (tickets : List Ticket) (p : Pool),
      Prompt p (tickets.foldl (fun p ticket => p.finish ticket.name (.failed .poolClosed)) p) := by
    intro tickets
    induction tickets with
    | nil => exact fun _ => .refl
    | cons ticket rest ih => exact fun p => (prompt_finish ticket.name _).trans (ih _)
  let shut : Pool := { p with slots := 0, closed := true, idle := [], waiting := [] }
  have hshut : Prompt p shut := .fewer rfl (List.nil_subset _) (.refl _)
  exact hshut.trans (hrefused p.waiting shut)

theorem prompt_putBack (name : String) (c : Connection) : Prompt p (p.putBack name c) := by
  unfold putBack
  dsimp only
  split <;> exact .fewer rfl (.refl _) (.refl _)

theorem prompt_resume (r : Readying) : Prompt p (p.resume r) := by
  have houtside : ∀ world, Prompt p { p with world } := fun _ => .fewer rfl (.refl _) (.refl _)
  unfold resume
  split
  · next world _ => exact (houtside world).trans (prompt_lend _ _)
  · next world _ =>
    split
    · exact (houtside world).trans (prompt_finish r.name _)
    · exact (houtside world).trans (prompt_provide _ _ _)
  · next millis program world hwait =>
    exact (houtside world).trans (prompt_prepare r.name millis program (Timed.proceed_wait hwait))

theorem prompt_resumeAll (due : List Readying) (p : Pool) : Prompt p (due.foldl resume p) := by
  induction due generalizing p with
  | nil => exact .refl
  | cons r rest ih => exact (prompt_resume r).trans (ih _)

/-! ## What time brings -/

theorem share_resume_of_ne {r : Readying} (h : r.name ≠ n) : (p.resume r).share n = p.share n := by
  unfold resume
  split
  · exact share_lend_of_ne h _
  · split
    · exact share_finish_of_ne h _
    · exact share_provide_of_ne h _ _
  · simp [share, h]

theorem share_resume_self {r : Readying} (h : r.name = n) : (p.share n).Served ((p.resume r).share n) := by
  subst h
  unfold resume
  split
  · next world _ => exact served_lend { p with world } _
  · next world _ =>
    split
    · next habort => exact served_abort { p with world } habort
    · exact share_provide_self p.idle { p with world }
  · next millis program world _ => exact served_prepare { p with world } (p.now + millis) program

/-! ### One entry after the other -/

section

variable {α : Type} {name : α → String} {f : Pool → α → Pool}

/-- the entries of others are nothing to an acquire -/
theorem share_foldl_of_none (hothers : ∀ p x, name x ≠ n → (f p x).share n = p.share n) {xs : List α}
    (h : xs.filter (name · == n) = []) (p : Pool) : (xs.foldl f p).share n = p.share n := by
  induction xs generalizing p with
  | nil => rfl
  | cons x rest ih =>
    obtain ⟨hx, hrest⟩ := List.forall_mem_cons.1 (List.filter_eq_nil_iff.1 h)
    rw [List.foldl_cons, ih (List.filter_eq_nil_iff.2 hrest), hothers p x (by simpa using hx)]

theorem foldl_now (hnow : ∀ p x, (f p x).now = p.now) (xs : List α) (p : Pool) : (xs.foldl f p).now = p.now := by
  induction xs generalizing p with
  | nil => rfl
  | cons x rest ih => rw [List.foldl_cons, ih, hnow]

/-- the entry of its own decides if there is one -/
theorem share_foldl_of_one (hothers : ∀ p x, name x ≠ n → (f p x).share n = p.share n)
    (hnow : ∀ p x, (f p x).now = p.now) {xs : List α} {x : α} (h : xs.filter (name · == n) = [x]) (p : Pool) :
    ∃ q : Pool, q.share n = p.share n ∧ q.now = p.now ∧ name x = n ∧ (xs.foldl f p).share n = (f q x).share n := by
  obtain ⟨before, behind, rfl, hbefore, hx, hbehind⟩ := List.filter_eq_cons_iff.1 h
  have hfront := share_foldl_of_none hothers (List.filter_eq_nil_iff.2 hbefore) p
  refine ⟨before.foldl f p, hfront, foldl_now hnow before p, beq_iff_eq.1 hx, ?_⟩
  rw [List.foldl_append, List.foldl_cons, share_foldl_of_none hothers hbehind]

end

theorem share_resumeAll_of_zero {due : List Readying} (p : Pool) (h : due.countP (·.name == n) = 0) :
    (due.foldl resume p).share n = p.share n := by
  rw [List.countP_eq_length_filter] at h
  exact share_foldl_of_none (fun _ _ => share_resume_of_ne) (List.eq_nil_of_length_eq_zero h) p

theorem share_resumeAll_of_one {due : List Readying} (p : Pool) (h : due.countP (·.name == n) = 1) :
    (p.share n).Served ((due.foldl resume p).share n) := by
  rw [List.countP_eq_length_filter] at h
  obtain ⟨r, hr⟩ := List.length_eq_one_iff.1 h
  obtain ⟨q, hshare, -, hname, hlast⟩ :=
    share_foldl_of_one (fun _ _ => share_resume_of_ne) (fun _ r => (prompt_resume r).now) hr p
  rw [hlast, ← hshare]
  exact share_resume_self hname

/-- an acquire whose wait is over is told so, and another one waits on -/
def settle (p : Pool) (t : Ticket) : Pool :=
  match t.limit with
  | some (deadline, wait) =>
    if deadline ≤ p.now then p.finish t.name (.failed (.poolTimeout wait)) else { p with waiting := p.waiting ++ [t] }
  | none => { p with waiting := p.waiting ++ [t] }

theorem expire_eq_foldl (tickets : List Ticket) (p : Pool) : p.expire tickets = tickets.foldl settle p := by
  induction tickets generalizing p with
  | nil => rfl
  | cons t rest ih =>
    rw [List.foldl_cons, ← ih, expire, settle]
    rcases t.limit with _ | ⟨deadline, wait⟩
    · rfl
    · exact (apply_ite (fun q : Pool => q.expire rest) _ _ _).symm

/-- the two ways in which the wait of an acquire goes on or ends -/
theorem settle_cases (p : Pool) (t : Ticket) :
    (∃ deadline wait, t.limit = some (deadline, wait) ∧ deadline ≤ p.now ∧
        p.settle t = p.finish t.name (.failed (.poolTimeout wait))) ∨
      t.Early p.now ∧ p.settle t = { p with waiting := p.waiting ++ [t] } := by
  unfold settle
  split
  · next deadline wait hlimit =>
    split_ifs with hover
    · exact .inl ⟨deadline, wait, hlimit, hover, rfl⟩
    · refine .inr ⟨fun limit hl => ?_, rfl⟩
      obtain rfl := Option.some.inj (hlimit.symm.trans hl)
      exact Nat.lt_of_not_le hover
  · next hlimit =>
    refine .inr ⟨fun limit hl => ?_, rfl⟩
    cases hlimit.symm.trans hl

theorem settle_now (p : Pool) (t : Ticket) : (p.settle t).now = p.now := by
  rcases settle_cases p t with ⟨_, _, -, -, heq⟩ | ⟨-, heq⟩
  · rw [heq]
    rfl
  · rw [heq]

theorem share_settle_of_ne {t : Ticket} (h : t.name ≠ n) : (p.settle t).share n = p.share n := by
  rcases settle_cases p t with ⟨deadline, wait, -, -, heq⟩ | ⟨-, heq⟩
  · rw [heq, share_finish_of_ne h]
  · rw [heq]
    simp [share, h]

theorem share_expire_of_nil {tickets : List Ticket} (p : Pool) (hnone : tickets.filter (·.name == n) = []) :
    (p.expire tickets).share n = p.share n := by
  rw [expire_eq_foldl]
  exact share_foldl_of_none (fun _ _ => share_settle_of_ne) hnone p

/-- an acquire is told that it waited too long when its wait is over, and else it waits on -/
theorem share_expire_of_one {tickets : List Ticket} {t : Ticket} (p : Pool)
    (hone : tickets.filter (·.name == n) = [t]) :
    (∃ deadline d, t.limit = some (deadline, d) ∧ deadline ≤ p.now ∧
        (p.expire tickets).share n = (p.share n).tell (.failed (.poolTimeout d))) ∨
      t.Early p.now ∧ (p.expire tickets).share n = { p.share n with queued := (p.share n).queued ++ [t] } := by
  obtain ⟨q, hshare, hnow, hname, hlast⟩ := share_foldl_of_one (fun _ _ => share_settle_of_ne) settle_now hone p
  rw [expire_eq_foldl, hlast, ← hshare, ← hnow]
  rcases settle_cases q t with ⟨deadline, wait, hlimit, hover, heq⟩ | ⟨hearly, heq⟩
  · refine .inl ⟨deadline, wait, hlimit, hover, ?_⟩
    rw [heq, hname, share_finish_self]
  · refine .inr ⟨hearly, ?_⟩
    rw [heq]
    simp [share, hname]

/-- connections that are being made ready and go on now -/
def due (p : Pool) : List Readying := p.readying.filter fun r => r.wake ≤ p.now

/-- the pool, but for the connections that go on now -/
def later (p : Pool) : Pool := { p with readying := p.readying.filter fun r => p.now < r.wake }

/-- the pool when these have gone on -/
def resumed (p : Pool) : Pool := p.due.foldl resume p.later

theorem arrive_eq (p : Pool) : p.arrive = ({ p.resumed with waiting := [] }.expire p.resumed.waiting).served := rfl

theorem making_split (p : Pool) (n : String) :
    (p.share n).making = p.due.countP (·.name == n) + (p.later.share n).making := by
  show p.readying.countP (·.name == n) =
    (p.readying.filter fun r => r.wake ≤ p.now).countP (·.name == n) +
      (p.readying.filter fun r => p.now < r.wake).countP (·.name == n)
  induction p.readying with
  | nil => rfl
  | cons r rest ih =>
    by_cases hr : r.wake ≤ p.now
    · have hlater : ¬p.now < r.wake := Nat.not_lt.2 hr
      simp [hr, hlater, List.countP_cons, ih]
      omega
    · have hlater : p.now < r.wake := Nat.lt_of_not_le hr
      simp [hr, hlater, List.countP_cons, ih]
      omega

theorem share_later : p.later.share n = { p.share n with making := (p.later.share n).making } := rfl

theorem share_resumed_of_zero (h : (p.share n).making = 0) : p.resumed.share n = p.share n := by
  obtain ⟨hdue, hlater⟩ := Nat.eq_zero_of_add_eq_zero ((making_split p n).symm.trans h)
  rw [resumed, share_resumeAll_of_zero _ hdue, share_later, hlater, ← h]

/-- a connection that is being made ready goes on later, or it goes on now and is ready or goes on again -/
theorem share_resumed_of_one (h : (p.share n).making = 1) :
    p.resumed.share n = p.share n ∨ Share.Served { p.share n with making := 0 } (p.resumed.share n) := by
  have hsplit := (making_split p n).symm.trans h
  rcases Nat.eq_zero_or_pos (p.due.countP (·.name == n)) with hdue | hdue
  · have hlater : (p.later.share n).making = 1 := by omega
    rw [resumed, share_resumeAll_of_zero _ hdue, share_later, hlater, ← h]
    exact .inl rfl
  · have hlater : (p.later.share n).making = 0 := by omega
    have hone : p.due.countP (·.name == n) = 1 := by omega
    have hserved := share_resumeAll_of_one p.later hone
    rw [share_later, hlater] at hserved
    exact .inr hserved

theorem resumed_now : p.resumed.now = p.now := (prompt_resumeAll p.due p.later).now

theorem share_arrive_of_nil (h : (p.resumed.share n).queued = []) : p.arrive.share n = p.resumed.share n := by
  have hexpired : ({ p.resumed with waiting := [] }.expire p.resumed.waiting).share n = p.resumed.share n := by
    have hunasked : share { p.resumed with waiting := [] } n = { p.resumed.share n with queued := [] } := rfl
    rw [share_expire_of_nil _ h, hunasked, ← h]
  have hnone := (congrArg Share.queued hexpired).trans h
  rw [arrive_eq, share_served_of_nil hnone, hexpired]

/-- an acquire that is queued is told that it waited too long, or its wait is not over and it may get a slot -/
theorem share_arrive_of_one {t : Ticket} (h : (p.resumed.share n).queued = [t]) :
    (∃ deadline d, t.limit = some (deadline, d) ∧ deadline ≤ p.now ∧
        p.arrive.share n = { p.resumed.share n with queued := [] }.tell (.failed (.poolTimeout d))) ∨
      t.Early p.now ∧ (p.resumed.share n).Supplied (p.arrive.share n) := by
  rw [arrive_eq, ← resumed_now (p := p)]
  rcases share_expire_of_one { p.resumed with waiting := [] } h with
    ⟨deadline, d, hlimit, hover, hrefused⟩ | ⟨hearly, hwaits⟩
  · have hnone := congrArg Share.queued hrefused
    refine .inl ⟨deadline, d, hlimit, hover, ?_⟩
    rw [share_served_of_nil hnone, hrefused]
    rfl
  · have hwaits : ({ p.resumed with waiting := [] }.expire p.resumed.waiting).share n = p.resumed.share n := by
      rw [hwaits, ← h]
      rfl
    exact .inr ⟨hearly, share_served_of_eq hwaits (by rw [h]; exact Nat.le_refl 1)⟩

end Pool

end SqlSession
