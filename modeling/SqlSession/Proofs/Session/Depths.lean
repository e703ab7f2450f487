/-
What a unit of work makes of the depth.

A transaction counts one level when it is opened, and its ending takes one level off, whichever ending it is. A loss that
is told of sets the depth to zero. There is one way for a level to stay behind in a program that goes on: the ending
needs a session, and none could be opened (`Denied`). An abort leaves the transactions open that it passes through. Work
is followed call by call, with the losses that it was told of and the levels that stay behind (`Counts`):
- `Course.reckoned`: what a single call makes of the depth;
- `leaves_counts`: what work makes of it, by induction on the way that it goes;
- `unit_gives_back`: so transactions and batches give their level back, but for the endings that were denied, and the
  error of their work is the one that they end with.
-/
import SqlSession.Proofs.Session.Acts
import SqlSession.Proofs.Session.Program

namespace SqlSession

/-! ## Calls -/

/-- the caller is told that a transaction is lost -/
def tellsLoss {α : Type} : Except Error α → Bool
  | .error (.transactionLost _) => true
  | _ => false

namespace Op

variable {α : Type} {others : World → World → Prop} {T : String → Prop} {after : Except Error α → Nat → Nat}
  {c c' : Connection} {w w' : World} {r : Except Error α}

theorem Told.untold (h : Told r c) : tellsLoss r = false := by
  unfold tellsLoss
  split
  · next d => exact absurd rfl (h.kept d)
  · rfl

theorem untold_fetchTotalCount {r : Except Error Unit} (h : Ends others fetchTotalCount c w r c' w')
    (ha : Apart others c.client.id) : tellsLoss r = false := by
  cases r with
  | ok _ => rfl
  | error e => exact ((ran_fetchTotalCount (T := fun _ => True) h ha trivial).2.2 e rfl).untold

/-- a call tells of a loss, which leaves no transaction; it makes of the depth what it is for; or no session could be
opened for it, which leaves the depth as it is -/
theorem Course.reckoned (h : Course T after c w r c' w') :
    (tellsLoss r = true ∧ c'.depth = 0) ∨ (tellsLoss r = false ∧ c'.depth = after r c.depth) ∨
      ∃ e, r = .error e ∧ tellsLoss r = false ∧ ¬c.Ready ∧ Renewed c.lost c w (.error e) c' w' ∧
        c'.depth = c.depth := by
  cases h with
  | still r c' w' hsound halike hdepth _ =>
    refine .inr (.inl ⟨?_, halike.depth.trans hdepth⟩)
    unfold tellsLoss
    split
    · next d => cases hsound _ rfl
    · rfl
  | within r c' w' _ _ hdepth htold => exact .inr (.inl ⟨htold.untold, hdepth⟩)
  | failed e c' w' hn hr =>
    have hrenewed := hr
    cases hr with
    | failed e _ c' w' _ htold halike _ =>
      exact .inr (.inr ⟨e, rfl, (htold.error (β := α)).untold, hn, hrenewed, halike.depth⟩)
    | lost _ c' w' _ _ halike _ => exact .inl ⟨rfl, halike.depth⟩
  | anew c₁ w₁ r c' w' _ hr _ hdepth htold =>
    cases hr with
    | opened _ c₁ w₁ _ _ halike _ =>
      rw [halike.depth] at hdepth
      exact .inr (.inl ⟨htold.untold, hdepth⟩)

end Op

/-! ## Work -/

/-- the call neither opens nor ends a transaction -/
def Primitive.Level {α : Type} : Primitive α → Prop
  | start => False
  | commit => False
  | rollback => False
  | _ => True

/-- what is done in transactions: all that is asked of a server apart from them goes through such calls -/
inductive Job : Type → Type
  | call {β : Type} (p : Primitive β) (level : p.Level) : Job β

def Job.perform {β : Type} : Job β → Op β
  | call p _ => p.perform

/-- statements in order, up to the first that fails -/
def executing : List Statement → Nat → Program Job Nat
  | [], affected => .finish (.ok affected)
  | s :: rest, affected => .step (.call (.execute s none) trivial) fun
    | .ok reply => executing rest (affected + reply.affected)
    | .error e => .finish (.error e)

namespace Op

variable {α : Type}

/-- what ends a transaction whose work came to this -/
def ending : Except Error α → Op Unit
  | .ok _ => commit
  | .error _ => rollback

/-- a transaction is counted, its session is not there, and no other one could be opened for its ending: nothing was
asked for, and the transaction is still counted -/
structure Denied (c : Connection) (w : World) (z : Except Error Unit) (c' : Connection) (w' : World) : Prop where
  open_ : 0 < c.depth
  unready : ¬c.Ready
  untold : tellsLoss z = false
  refused : ∃ e, z = .error e ∧ Renewed c.lost c w (.error e) c' w'

/-- how a transaction is ended whose work came to `x`, and how many endings were denied: one or none -/
inductive Parting (others : World → World → Prop) (x : Except Error α) (c : Connection) (w : World)
    (z : Except Error Unit) (c' : Connection) (w' : World) : Nat → Prop
  | granted (ended : Ends others (ending x) c w z c' w') (granted : ¬Denied c w z c' w') : Parting others x c w z c' w' 0
  | denied (ended : Ends others (ending x) c w z c' w') (denied : Denied c w z c' w') : Parting others x c w z c' w' 1

/-- what is reported of a unit of work: that it could not be begun, the error of its work whatever the rollback came to,
or else what the commit came to; an abort ends it wherever it comes up -/
inductive Reported (others : World → World → Prop) (work : Op α) (c : Connection) (w : World) :
    Except Error α → Connection → World → Prop
  | unbegun (e : Error) (c' : Connection) (w' : World) (ended : Ends others start c w (.error e) c' w') :
      Reported others work c w (.error e) c' w'
  | interrupted (e : Error) (c₁ c' : Connection) (w₁ w' : World) (abort : e.isAbort = true)
      (begun : Ends others start c w (.ok ()) c₁ w₁) (ended : Ends others work c₁ w₁ (.error e) c' w') :
      Reported others work c w (.error e) c' w'
  | failed (e : Error) (z : Except Error Unit) (c₁ c₂ c' : Connection) (w₁ w₂ w' : World) (worked : e.isAbort = false)
      (begun : Ends others start c w (.ok ()) c₁ w₁) (failed : Ends others work c₁ w₁ (.error e) c₂ w₂)
      (ended : Ends others rollback c₂ w₂ z c' w') (goesOn : aborts z = false) :
      Reported others work c w (.error e) c' w'
  | unsettled (e e' : Error) (c₁ c₂ c' : Connection) (w₁ w₂ w' : World)
      (begun : Ends others start c w (.ok ()) c₁ w₁) (failed : Ends others work c₁ w₁ (.error e) c₂ w₂)
      (abort : e'.isAbort = true) (ended : Ends others rollback c₂ w₂ (.error e') c' w') :
      Reported others work c w (.error e') c' w'
  | done (a : α) (z : Except Error Unit) (c₁ c₂ c' : Connection) (w₁ w₂ w' : World)
      (begun : Ends others start c w (.ok ()) c₁ w₁) (done : Ends others work c₁ w₁ (.ok a) c₂ w₂)
      (ended : Ends others commit c₂ w₂ z c' w') : Reported others work c w (z.map fun _ => a) c' w'

end Op

/-- work that has come to a result: whether a call in it told of a loss, and how many levels stay behind, one for each
ending that was denied and one for each transaction that an abort has left open -/
inductive Counts (others : World → World → Prop) :
    {α : Type} → Program Job α → Connection → World → Except Error α → Connection → World → Bool → Nat → Prop
  | finish {α : Type} (result : Except Error α) (c : Connection) (w : World) :
      Counts others (.finish result) c w result c w false 0
  | call {α β : Type} {t : Job β} {next : Except Error β → Program Job α} {c c₁ c' : Connection} {w w₁ w' : World}
      {x : Except Error β} {r : Except Error α} {lost : Bool} {n : Nat} (goesOn : Op.aborts x = false)
      (ended : Op.Ends others t.perform c w x c₁ w₁) (rest : Counts others (next x) c₁ w₁ r c' w' lost n) :
      Counts others (.step t next) c w r c' w' (tellsLoss x || lost) n
  | stopped {α β : Type} {t : Job β} {next : Except Error β → Program Job α} {c c' : Connection} {w w' : World}
      {e : Error} (abort : e.isAbort = true) (ended : Op.Ends others t.perform c w (.error e) c' w') :
      Counts others (.step t next) c w (.error e) c' w' false 0
  | unbegun {α β : Type} {inner : Program Job β} {next : Except Error β → Program Job α} {c c₁ c' : Connection}
      {w w₁ w' : World} {e : Error} {r : Except Error α} {lost : Bool} {n : Nat} (goesOn : e.isAbort = false)
      (ended : Op.Ends others Op.start c w (.error e) c₁ w₁) (rest : Counts others (next (.error e)) c₁ w₁ r c' w' lost n) :
      Counts others (.transaction inner next) c w r c' w' (tellsLoss (.error e : Except Error Unit) || lost) n
  | unopened {α β : Type} {inner : Program Job β} {next : Except Error β → Program Job α} {c c' : Connection}
      {w w' : World} {e : Error} (abort : e.isAbort = true) (connected : Op.Connected others c w (.error e) c' w') :
      Counts others (.transaction inner next) c w (.error e) c' w' false 0
  | unstarted {α β : Type} {inner : Program Job β} {next : Except Error β → Program Job α} {c c₁ c' : Connection}
      {w w₁ w' : World} {e : Error} (abort : e.isAbort = true) (connected : Op.Connected others c w (.ok ()) c₁ w₁)
      (started : Op.Starting others (c₁.depth + 1) c₁.deeper w₁ (.error e) c' w') :
      Counts others (.transaction inner next) c w (.error e) c' w' false 1
  | interrupted {α β : Type} {inner : Program Job β} {next : Except Error β → Program Job α} {c c₁ c' : Connection}
      {w w₁ w' : World} {e : Error} {lost : Bool} {n : Nat} (abort : e.isAbort = true)
      (begun : Op.Ends others Op.start c w (.ok ()) c₁ w₁) (work : Counts others inner c₁ w₁ (.error e) c' w' lost n) :
      Counts others (.transaction inner next) c w (.error e) c' w' lost (n + 1)
  | ended {α β : Type} {inner : Program Job β} {next : Except Error β → Program Job α} {c c₁ c₂ c₃ c' : Connection}
      {w w₁ w₂ w₃ w' : World} {x : Except Error β} {z : Except Error Unit} {r : Except Error α} {lost lost' : Bool}
      {n k n' : Nat} (begun : Op.Ends others Op.start c w (.ok ()) c₁ w₁) (worked : Op.aborts x = false)
      (work : Counts others inner c₁ w₁ x c₂ w₂ lost n) (goesOn : Op.aborts z = false)
      (parting : Op.Parting others x c₂ w₂ z c₃ w₃ k)
      (rest : Counts others (next (Op.outcome x z)) c₃ w₃ r c' w' lost' n') :
      Counts others (.transaction inner next) c w r c' w' (lost || tellsLoss z || lost') (n + k + n')
  | unsettled {α β : Type} {inner : Program Job β} {next : Except Error β → Program Job α} {c c₁ c₂ c' : Connection}
      {w w₁ w₂ w' : World} {x : Except Error β} {e : Error} {lost : Bool} {n k : Nat}
      (begun : Op.Ends others Op.start c w (.ok ()) c₁ w₁) (worked : Op.aborts x = false)
      (work : Counts others inner c₁ w₁ x c₂ w₂ lost n) (abort : e.isAbort = true)
      (parting : Op.Parting others x c₂ w₂ (.error e) c' w' k) :
      Counts others (.transaction inner next) c w (.error e) c' w' lost (n + k)

/-- what becomes of a depth: it is what it was, with the levels more that stay behind; behind a loss it is zero, with no
more than those levels -/
structure Leaves (depth : Nat) (lost : Bool) (n depth' : Nat) : Prop where
  kept : lost = false → depth' = depth + n
  lost : lost = true → depth' ≤ n

theorem Leaves.trans {d d₁ d' n n' : Nat} {l l' : Bool} (h : Leaves d l n d₁) (h' : Leaves d₁ l' n' d') :
    Leaves d (l || l') (n + n') d' := by
  cases l' with
  | true => exact ⟨by simp, fun _ => (h'.lost rfl).trans (Nat.le_add_left n' n)⟩
  | false =>
    have hd' : d' = d₁ + n' := h'.kept rfl
    cases l with
    | true => exact ⟨by simp, fun _ => hd' ▸ Nat.add_le_add_right (h.lost rfl) n'⟩
    | false => exact ⟨fun _ => by rw [hd', h.kept rfl, Nat.add_assoc], by simp⟩

/-- a transaction that an abort leaves open stays behind with what stays behind in it -/
theorem Leaves.interrupted {d d' n : Nat} {l : Bool} (h : Leaves (d + 1) l n d') : Leaves d l (n + 1) d' where
  kept hl := by rw [h.kept hl, Nat.add_assoc, Nat.add_comm 1 n]
  lost hl := (h.lost hl).trans (Nat.le_succ n)

variable {α : Type} {others : World → World → Prop} {c c' : Connection} {w w' : World}

/-! ## What becomes of the depth -/

theorem tellsLoss_abort {e : Error} (h : e.isAbort = true) : tellsLoss (.error e : Except Error α) = false := by
  rw [Op.isAbort_iff] at h
  subst h
  rfl

/-- a call leaves the depth alone that is for nothing else -/
theorem leaves_course {T : String → Prop} {after : Except Error α → Nat → Nat} {r : Except Error α}
    (h : Op.Course T after c w r c' w') (hafter : after r c.depth = c.depth) :
    c'.client.id = c.client.id ∧ Leaves c.depth (tellsLoss r) 0 c'.depth := by
  obtain ⟨news, -, hfollows⟩ := h.follows
  refine ⟨hfollows.client, ?_⟩
  obtain ⟨htold, hz⟩ | ⟨huntold, hdepth⟩ | ⟨e, -, huntold, -, -, hdepth⟩ := h.reckoned
  · exact ⟨by simp [htold], fun _ => hz.le⟩
  · exact ⟨fun _ => hdepth.trans hafter, by simp [huntold]⟩
  · exact ⟨fun _ => hdepth, by simp [huntold]⟩

/-- the count asks in the session that is there, which nobody makes sure of -/
theorem leaves_totalCount {r : Except Error Unit} (ha : Apart others c.client.id)
    (h : Op.Ends others Op.fetchTotalCount c w r c' w') :
    c'.client.id = c.client.id ∧ Leaves c.depth (tellsLoss r) 0 c'.depth := by
  have hran := (Op.ran_fetchTotalCount (T := fun _ => True) h ha trivial).1
  refine ⟨hran.id, ?_⟩
  rw [Op.untold_fetchTotalCount h ha]
  exact ⟨fun _ => hran.depth, by simp⟩

theorem leaves_call {t : Job α} {x : Except Error α} (ha : Apart others c.client.id)
    (h : Op.Ends others t.perform c w x c' w') :
    c'.client.id = c.client.id ∧ Leaves c.depth (tellsLoss x) 0 c'.depth := by
  obtain ⟨p, hlevel⟩ := t
  have hsure : p.Fits c → p.after x c.depth = c.depth → _ := fun hfits => leaves_course (Op.course_untold h ha hfits)
  cases p with
  | start => cases hlevel
  | commit => cases hlevel
  | rollback => cases hlevel
  | totalCount => exact leaves_totalCount ha h
  | _ => exact hsure trivial rfl

theorem leaves_unbegun {e : Error} (hgoesOn : e.isAbort = false) (ha : Apart others c.client.id)
    (h : Op.Ends others Op.start c w (.error e) c' w') :
    c'.client.id = c.client.id ∧ Leaves c.depth (tellsLoss (.error e : Except Error Unit)) 0 c'.depth :=
  leaves_course (Op.course_untold (p := .start) h ha trivial) (if_neg (Bool.eq_false_iff.1 hgoesOn))

/-- an abort while a session is made sure of tells of no loss, so the depth is what it was -/
theorem leaves_unopened {e : Error} (habort : e.isAbort = true) (h : Op.Connected others c w (.error e) c' w') :
    c'.client.id = c.client.id ∧ Leaves c.depth false 0 c'.depth := by
  have hcourse : Op.Course (fun _ => True) (fun _ depth => depth) c w (.error e : Except Error Unit) c' w' :=
    .of_unconnected h
  exact tellsLoss_abort (α := Unit) habort ▸ leaves_course hcourse rfl

/-- behind an abort in its statement the transaction stays counted -/
theorem leaves_unstarted {c₁ : Connection} {w₁ : World} {e : Error} (ha : Apart others c.client.id)
    (hc : Op.Connected others c w (.ok ()) c₁ w₁)
    (hs : Op.Starting others (c₁.depth + 1) c₁.deeper w₁ (.error e) c' w') :
    c'.client.id = c.client.id ∧ Leaves c.depth false 1 c'.depth := by
  obtain ⟨hsure, hlive, hdepth⟩ := hc.ready
  have ha₁ : Apart others c₁.deeper.client.id := (hc.id.symm ▸ ha : Apart others c₁.client.id)
  obtain ⟨hran, -⟩ := Op.ran_starting (T := fun _ => True) hs ha₁ ⟨hsure, hlive⟩ (fun _ => trivial) fun _ => trivial
  refine ⟨hran.id.trans hc.id, fun _ => ?_, by simp⟩
  rw [hran.depth, ← hdepth]
  rfl

theorem depth_begun (ha : Apart others c.client.id) (h : Op.Ends others Op.start c w (.ok ()) c' w') :
    c'.client.id = c.client.id ∧ c'.depth = c.depth + 1 := by
  have hcourse := Op.course_untold (p := .start) h ha trivial
  obtain ⟨news, -, hfollows⟩ := hcourse.follows
  refine ⟨hfollows.client, ?_⟩
  obtain ⟨htold, -⟩ | ⟨-, hdepth⟩ | ⟨_, heq, -⟩ := hcourse.reckoned
  · cases htold
  · exact hdepth
  · cases heq

/-- both endings go alike -/
theorem course_ending {x : Except Error α} {z : Except Error Unit} (ha : Apart others c.client.id)
    (h : Op.Ends others (Op.ending x) c w z c' w') :
    Op.Course (fun _ => True) (fun _ depth => depth - 1) c w z c' w' := by
  cases x with
  | ok a => exact Op.course_commit h ha trivial
  | error e => exact Op.course_rollback h ha trivial fun _ => trivial

/-- an ending takes one level off, unless it is denied -/
theorem leaves_parting {x : Except Error α} {z : Except Error Unit} {d n k : Nat} {lost : Bool}
    (ha : Apart others c.client.id) (h : Op.Parting others x c w z c' w' k) (hd : Leaves (d + 1) lost n c.depth) :
    c'.client.id = c.client.id ∧ Leaves d (lost || tellsLoss z) (n + k) c'.depth := by
  have hends : Op.Ends others (Op.ending x) c w z c' w' := by
    cases h with
    | granted ended _ => exact ended
    | denied ended _ => exact ended
  have hcourse := course_ending ha hends
  obtain ⟨news, -, hfollows⟩ := hcourse.follows
  refine ⟨hfollows.client, ?_⟩
  have hkept := hd.kept
  have hlost := hd.lost
  cases h with
  | denied _ denied =>
    obtain ⟨e, rfl, hr⟩ := denied.refused
    have hdepth : c'.depth = c.depth := by
      cases hr with
      | failed _ _ _ _ _ _ halike _ => exact halike.depth
      | lost _ _ _ _ _ _ _ => cases denied.untold
    rw [denied.untold, Bool.or_false, hdepth]
    exact ⟨fun hl => by rw [hkept hl]; omega, fun hl => (hlost hl).trans (Nat.le_succ n)⟩
  | granted _ granted =>
    obtain ⟨htold, hz⟩ | ⟨huntold, hdepth⟩ | ⟨e, rfl, huntold, hn, hr, hdepth⟩ := hcourse.reckoned
    · exact ⟨by simp [htold], fun _ => hz.trans_le (Nat.zero_le _)⟩
    · rw [huntold, Bool.or_false, hdepth]
      exact ⟨fun hl => by rw [hkept hl]; omega, fun hl => by have := hlost hl; omega⟩
    · -- no session could be opened, so the ending was denied, or nothing was counted any more
      have hnone : ¬0 < c.depth := fun hpos => granted ⟨hpos, hn, huntold, e, rfl, hr⟩
      rw [huntold, Bool.or_false, hdepth]
      exact ⟨fun hl => absurd (hkept hl) (by omega), fun _ => by omega⟩

/-- **Work and the depth.** By induction on the way that the work goes. -/
theorem leaves_counts {body : Program Job α} {r : Except Error α} {lost : Bool} {n : Nat}
    (h : Counts others body c w r c' w' lost n) (ha : Apart others c.client.id) :
    c'.client.id = c.client.id ∧ Leaves c.depth lost n c'.depth := by
  induction h with
  | finish result c w => exact ⟨rfl, fun _ => rfl, by simp⟩
  | call _ ended rest ih =>
    obtain ⟨hid, hcall⟩ := leaves_call ha ended
    obtain ⟨hid', hrest⟩ := ih (hid.symm ▸ ha)
    have hboth := hcall.trans hrest
    rw [Nat.zero_add] at hboth
    exact ⟨hid'.trans hid, hboth⟩
  | stopped abort ended => exact tellsLoss_abort abort ▸ leaves_call ha ended
  | unbegun goesOn ended rest ih =>
    obtain ⟨hid, hstart⟩ := leaves_unbegun goesOn ha ended
    obtain ⟨hid', hrest⟩ := ih (hid.symm ▸ ha)
    have hboth := hstart.trans hrest
    rw [Nat.zero_add] at hboth
    exact ⟨hid'.trans hid, hboth⟩
  | unopened abort connected => exact leaves_unopened abort connected
  | unstarted _ connected started => exact leaves_unstarted ha connected started
  | interrupted _ begun work ih =>
    obtain ⟨hid₁, hdepth⟩ := depth_begun ha begun
    obtain ⟨hid₂, hwork⟩ := ih (hid₁.symm ▸ ha)
    rw [hdepth] at hwork
    exact ⟨hid₂.trans hid₁, hwork.interrupted⟩
  | ended begun _ work _ parting rest ihw ihr =>
    obtain ⟨hid₁, hdepth⟩ := depth_begun ha begun
    obtain ⟨hid₂, hwork⟩ := ihw (hid₁.symm ▸ ha)
    rw [hdepth] at hwork
    have ha₂ := hid₂.symm ▸ hid₁.symm ▸ ha
    obtain ⟨hid₃, hparting⟩ := leaves_parting ha₂ parting hwork
    obtain ⟨hid', hrest⟩ := ihr (hid₃.symm ▸ ha₂)
    exact ⟨hid'.trans (hid₃.trans (hid₂.trans hid₁)), hparting.trans hrest⟩
  | unsettled begun _ work abort parting ih =>
    obtain ⟨hid₁, hdepth⟩ := depth_begun ha begun
    obtain ⟨hid₂, hwork⟩ := ih (hid₁.symm ▸ ha)
    rw [hdepth] at hwork
    obtain ⟨hid₃, hparting⟩ := leaves_parting (hid₂.symm ▸ hid₁.symm ▸ ha) parting hwork
    rw [tellsLoss_abort abort, Bool.or_false] at hparting
    exact ⟨hid₃.trans (hid₂.trans hid₁), hparting⟩

/-! ## All work counts -/

namespace Op

theorem ends_ending {x r : Except Error α} (h : Ends others (settle x) c w r c' w') :
    ∃ z, Ends others (ending x) c w z c' w' ∧ r = outcome x z := by
  obtain ⟨a, rfl, z, hc, rfl⟩ | ⟨e, z, rfl, rfl, hr⟩ := ends_settle h
  · exact ⟨z, hc, rfl⟩
  · exact ⟨z, hr, rfl⟩

theorem parting_of_ends {x : Except Error α} {z : Except Error Unit} (h : Ends others (ending x) c w z c' w') :
    ∃ k, Parting others x c w z c' w' k := by
  by_cases hd : Denied c w z c' w'
  · exact ⟨1, .denied h hd⟩
  · exact ⟨0, .granted h hd⟩

theorem reported_transaction {work : Op α} {r : Except Error α} (h : Ends others (transaction work) c w r c' w') :
    Reported others work c w r c' w' := by
  obtain ⟨e, hs, rfl⟩ | ⟨c₁, w₁, hs, ⟨e, he, hw, rfl⟩ | ⟨x, c₂, w₂, hx, hw, hsettle⟩⟩ := ends_transaction h
  · exact .unbegun e c' w' hs
  · exact .interrupted e c₁ c' w₁ w' he hs hw
  obtain ⟨a, rfl, z, hc, rfl⟩ | ⟨e, z, rfl, rfl, hr⟩ := ends_settle hsettle
  · exact .done a z c₁ c₂ c' w₁ w₂ w' hs hw hc
  cases hz : aborts z with
  | false =>
    rw [outcome_error hz]
    exact .failed e z c₁ c₂ c' w₁ w₂ w' hx hs hw hr hz
  | true =>
    cases z with
    | ok _ => cases hz
    | error e' =>
      rw [outcome_abort hz]
      exact .unsettled e e' c₁ c₂ c' w₁ w₂ w' hs hw hz hr

end Op

theorem counts_start_abort {β : Type} {inner : Program Job β} {next : Except Error β → Program Job α} {e : Error}
    (habort : e.isAbort = true) (h : Op.Ends others Op.start c w (.error e) c' w') (ha : Apart others c.client.id) :
    ∃ lost n, Counts others (.transaction inner next) c w (.error e) c' w' lost n := by
  obtain ⟨_, heq, hc⟩ | ⟨c₁, w₁, x, c₂, hc, hs, ⟨-, heq, -⟩ | ⟨_, rfl, heq, rfl⟩⟩ := Op.ends_start h ha
  · cases heq
    exact ⟨_, _, .unopened habort hc⟩
  · cases heq
  · cases heq
    rw [if_pos habort]
    exact ⟨_, _, .unstarted habort hc hs⟩

/-- a transaction counts whose work does: what follows it counts as well, or it is aborted -/
theorem counts_transaction {β : Type} {work : Op β} {inner : Program Job β} {k : Except Error β → Program Job α}
    {c₁ : Connection} {w₁ : World} {y : Except Error β} {r : Except Error α} (ha : Apart others c.client.id)
    (hwork : ∀ c w x c' w', Apart others c.client.id → Op.Ends others work c w x c' w' →
      ∃ lost n, Counts others inner c w x c' w' lost n)
    (h : Op.Ends others (Op.transaction work) c w y c₁ w₁)
    (hrest : Op.aborts y = false → ∃ lost n, Counts others (k y) c₁ w₁ r c' w' lost n)
    (hstop : ∀ e, e.isAbort = true → y = .error e → r = .error e ∧ c' = c₁ ∧ w' = w₁) :
    ∃ lost n, Counts others (.transaction inner k) c w r c' w' lost n := by
  obtain ⟨e, hs, rfl⟩ | ⟨c₂, w₂, hs, ⟨e, he, hw, rfl⟩ | ⟨x, c₃, w₃, hx, hw, hsettle⟩⟩ := Op.ends_transaction h
  · cases he : e.isAbort with
    | false =>
      obtain ⟨lost, n, hrest⟩ := hrest he
      exact ⟨_, _, .unbegun he hs hrest⟩
    | true =>
      obtain ⟨rfl, rfl, rfl⟩ := hstop e he rfl
      exact counts_start_abort he hs ha
  · obtain ⟨rfl, rfl, rfl⟩ := hstop e he rfl
    obtain ⟨lost, n, hc⟩ := hwork _ _ _ _ _ ((depth_begun ha hs).1.symm ▸ ha) hw
    exact ⟨_, _, .interrupted he hs hc⟩
  · obtain ⟨lost, n, hc⟩ := hwork _ _ _ _ _ ((depth_begun ha hs).1.symm ▸ ha) hw
    obtain ⟨z, hz, rfl⟩ := Op.ends_ending hsettle
    obtain ⟨m, hm⟩ := Op.parting_of_ends hz
    cases hzz : Op.aborts z with
    | false =>
      obtain ⟨lost', n', hrest⟩ := hrest (Op.aborts_outcome hx hzz)
      exact ⟨_, _, .ended hs hx hc hzz hm hrest⟩
    | true =>
      cases z with
      | ok _ => cases hzz
      | error e =>
        obtain ⟨rfl, rfl, rfl⟩ := hstop e hzz (Op.outcome_abort hzz)
        exact ⟨_, _, .unsettled hs hx hc hzz hm⟩

theorem counts_of_ends (body : Program Job α) {r : Except Error α} (ha : Apart others c.client.id)
    (h : Op.Ends others (body.op Job.perform) c w r c' w') : ∃ lost n, Counts others body c w r c' w' lost n := by
  induction body generalizing c w c' w' with
  | finish result =>
    obtain ⟨rfl, rfl, rfl⟩ := Program.ends_finish h
    exact ⟨_, _, .finish _ _ _⟩
  | step t next ih =>
    obtain ⟨e, he, hx, rfl⟩ | ⟨x, c₁, w₁, hx, ht, hnext⟩ := Program.ends_step h
    · exact ⟨_, _, .stopped he hx⟩
    · obtain ⟨lost, n, hrest⟩ := ih x ((leaves_call ha ht).1.symm ▸ ha) hnext
      exact ⟨_, _, .call hx ht hrest⟩
  | transaction inner next ihi ihn =>
    have hwork : ∀ c w x c' w', Apart others c.client.id → Op.Ends others (inner.op Job.perform) c w x c' w' →
        ∃ lost n, Counts others inner c w x c' w' lost n := fun _ _ _ _ _ ha hi => ihi ha hi
    obtain ⟨e, he, ht, rfl⟩ | ⟨y, c₁, w₁, hy, ht, hnext⟩ := Program.ends_transaction h
    · refine counts_transaction ha hwork ht (fun hy => ?_) ?_
      · exact absurd (he.symm.trans hy) (by decide)
      · rintro _ - ⟨⟩
        exact ⟨rfl, rfl, rfl⟩
    · obtain ⟨_, _, htaken⟩ := counts_transaction (k := .finish) ha hwork ht (fun _ => ⟨_, _, .finish y c₁ w₁⟩)
        fun _ _ hstop => ⟨hstop, rfl, rfl⟩
      have hid := (leaves_counts htaken ha).1
      refine counts_transaction ha hwork ht (fun _ => ihn y (hid.symm ▸ ha) hnext) ?_
      rintro e he rfl
      exact absurd (he.symm.trans hy) (by decide)

/-- a batch does what its statements do one by one -/
theorem counts_executeAll {statements : List Statement} (affected : Nat) {x : Except Error Nat}
    (h : Op.Ends others (Op.executeAll statements) c w x c' w') :
    ∃ lost n, Counts others (executing statements affected) c w (x.map (affected + ·)) c' w' lost n := by
  induction statements generalizing c w x affected with
  | nil =>
    obtain ⟨rfl, rfl, rfl⟩ := Op.ends_pure.1 h
    exact ⟨_, _, .finish _ _ _⟩
  | cons s rest ih =>
    rcases Op.ends_bind.1 h with ⟨e, he, rfl⟩ | ⟨reply, c₁, w₁, he, h⟩
    · cases habort : e.isAbort with
      | false => exact ⟨_, _, .call (x := .error e) habort he (.finish _ _ _)⟩
      | true => exact ⟨_, _, .stopped habort he⟩
    rcases Op.ends_bind.1 h with ⟨e, hr, rfl⟩ | ⟨m, c₂, w₂, hr, h⟩
    · obtain ⟨lost, n, hrest⟩ := ih (affected + reply.affected) hr
      exact ⟨_, _, .call (x := .ok reply) rfl he hrest⟩
    · obtain ⟨rfl, rfl, rfl⟩ := Op.ends_pure.1 h
      obtain ⟨lost, n, hrest⟩ := ih (affected + reply.affected) hr
      have hsum : (Except.ok m : Except Error Nat).map (affected + reply.affected + ·) =
          (Except.ok (reply.affected + m) : Except Error Nat).map (affected + ·) := congrArg Except.ok (Nat.add_assoc _ _ _)
      rw [hsum] at hrest
      exact ⟨_, _, .call (x := .ok reply) rfl he hrest⟩

/-- **A unit of work gives its depth back.** Behind a transaction or a batch the depth is what it was, or zero if one of
its calls was told of a loss; every ending that was denied leaves one level behind, and so does every transaction that
an abort passes through. What is reported is the error of the work, whatever the rollback came to, or else what opening
or committing it came to; an abort is passed on. -/
theorem unit_gives_back (ha : Apart others c.client.id) :
    (∀ {α : Type} (body : Program Job α) (r : Except Error α) (c' : Connection) (w' : World),
      Op.Ends others (Op.transaction (body.op Job.perform)) c w r c' w' →
        Op.Reported others (body.op Job.perform) c w r c' w' ∧
          ∃ lost n, Counts others (.transaction body .finish) c w r c' w' lost n ∧ Leaves c.depth lost n c'.depth) ∧
      ∀ (statements : List Statement) (r : Except Error Nat) (c' : Connection) (w' : World),
        Op.Ends others (Op.batch statements) c w r c' w' →
          (statements = [] ∧ r = .ok 0 ∧ c' = c ∧ w' = w) ∨
            Op.Reported others (Op.executeAll statements) c w r c' w' ∧
              ∃ lost n, Counts others (.transaction (executing statements 0) .finish) c w r c' w' lost n ∧
                Leaves c.depth lost n c'.depth := by
  refine ⟨fun body r c' w' h => ?_, fun statements r c' w' h => ?_⟩
  · have hwork : ∀ c w x c' w', Apart others c.client.id → Op.Ends others (body.op Job.perform) c w x c' w' →
        ∃ lost n, Counts others body c w x c' w' lost n := fun _ _ _ _ _ ha => counts_of_ends body ha
    obtain ⟨lost, n, hcounts⟩ := counts_transaction (k := .finish) ha hwork h (fun _ => ⟨_, _, .finish r c' w'⟩)
      fun _ _ hstop => ⟨hstop, rfl, rfl⟩
    exact ⟨Op.reported_transaction h, lost, n, hcounts, (leaves_counts hcounts ha).2⟩
  · unfold Op.batch at h
    split at h
    · next hnone =>
      obtain ⟨rfl, rfl, rfl⟩ := Op.ends_pure.1 h
      exact .inl ⟨List.isEmpty_iff.1 hnone, rfl, rfl, rfl⟩
    · have hwork : ∀ c w x c' w', Apart others c.client.id → Op.Ends others (Op.executeAll statements) c w x c' w' →
          ∃ lost n, Counts others (executing statements 0) c w x c' w' lost n := by
        intro c w x c' w' _ hx
        obtain ⟨lost, n, hcounts⟩ := counts_executeAll 0 hx
        have hsame : x.map (0 + ·) = x := by cases x <;> simp [Except.map]
        exact ⟨lost, n, hsame ▸ hcounts⟩
      obtain ⟨lost, n, hcounts⟩ := counts_transaction (k := .finish) ha hwork h (fun _ => ⟨_, _, .finish r c' w'⟩)
        fun _ _ hstop => ⟨hstop, rfl, rfl⟩
      exact .inr ⟨Op.reported_transaction h, lost, n, hcounts, (leaves_counts hcounts ha).2⟩

/-- a transaction of one statement -/
def updating : Program Job Unit :=
  .step (.call (.execute (.ofText "UPDATE a SET x = 1") none) trivial) fun r => .finish (r.map fun _ => ())

/-- the session is lost with the statement and no other one can be opened: the error of the statement is reported, and
the rollback leaves the transaction counted -/
theorem unit_gives_back_denied :
    let lost : NativeError := ⟨2006, "server has gone away"⟩
    let w := World.fresh.arrange fun s => { s with refusals := 2, prepareFailures := [lost] }
    let c := { Connection.new (.new 0) .standard .empty with client := (Client.new 0).opened }
    let run := (Op.transaction (updating.op Job.perform) c).run 0 w
    c.depth = 0 ∧ run.1.2.depth = 1 ∧ run.1.1 = .error (.prepare lost "UPDATE a SET x = 1") ∧
      Op.Reported (· = ·) (updating.op Job.perform) c w run.1.1 run.1.2 run.2.2 ∧
      ∃ told n, Counts (· = ·) (.transaction updating .finish) c w run.1.1 run.1.2 run.2.2 told n ∧ 0 < n := by
  intro lost w c
  generalize hrun : (Op.transaction (updating.op Job.perform) c).run 0 w = run
  have hdepth : run.1.2.depth = 1 := by rw [← hrun]; decide +kernel
  have herror : run.1.1 = .error (.prepare lost "UPDATE a SET x = 1") := by rw [← hrun]; decide +kernel
  have alone : Apart (· = ·) 0 := by
    rintro w _ rfl
    rfl
  have hends := Op.ends_of_run (fun _ _ => rfl) hrun (Timed.throughout_of_forall (fun _ => trivial) _ _)
  obtain ⟨hreported, told, n, hcounts, hleaves⟩ := (unit_gives_back alone).1 updating _ _ _ hends
  refine ⟨rfl, hdepth, herror, hreported, told, n, hcounts, ?_⟩
  cases told with
  | true =>
    have hfew : run.1.2.depth ≤ n := hleaves.lost rfl
    omega
  | false =>
    have hkept : run.1.2.depth = 0 + n := hleaves.kept rfl
    omega

end SqlSession
