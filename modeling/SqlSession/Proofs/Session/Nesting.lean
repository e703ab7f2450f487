/-
Nested transactions do what frames do.

Work in transactions is run together with frames (`Goes`): each operation does to the frames what it is for, and an
executed statement is written if and only if it succeeded. While nothing gets in the way, the connection `Tracks` the
frames, whatever the work does and wherever it stands: the depth is the number of frames, and the client's database
matches them. For balanced and unbalanced work alike, the same statements are committed, and no savepoint is ever asked
for that is not there (`Program.refines_frames`).
-/
import SqlSession.Proofs.Session.Calm
import SqlSession.Proofs.Session.Frames
import SqlSession.Proofs.Session.Program

namespace SqlSession

/-- a step of work in transactions, which need not be balanced -/
inductive NestingStep (patience : Nat) : Type → Type
  | start : NestingStep patience Unit
  | commit : NestingStep patience Unit
  | rollback : NestingStep patience Unit
  | execute (s : Statement) (own : Option Duration) (plain : IsPlain s.text) (patient : Patient patience own) :
      NestingStep patience Reply
  | batch (statements : List Statement) (plain : ∀ s ∈ statements, IsPlain s.text) : NestingStep patience Nat

namespace NestingStep

variable {patience : Nat} {β : Type}

def perform : NestingStep patience β → Op β
  | start => Op.start
  | commit => Op.commit
  | rollback => Op.rollback
  | execute s own _ _ => Op.execute s own
  | batch statements _ => Op.batch statements

/-- what a step does to frames, by how it ended -/
def mirror : NestingStep patience β → Except Error β → Frames → Frames
  | start, _, f => f.start
  | commit, _, f => f.commit
  | rollback, _, f => f.rollback
  | execute s _ _ _, .ok _, f => f.write s
  | execute _ _ _ _, .error _, f => f
  | batch statements _, .ok _, f => (statements.foldl Frames.write f.start).commit
  -- the frame is dropped with all that was written to it
  | batch _ _, .error _, f => f

end NestingStep

/-- a transaction ends as its work ended -/
def Frames.settle {α : Type} (f : Frames) : Except Error α → Frames
  | .ok _ => f.commit
  | .error _ => f.rollback

/-- work under way together with frames: either it has come to a result, or it stands between two operations. Behind an
abort nothing goes on, and the frames are left as they are there -/
inductive Goes (others : World → World → Prop) {patience : Nat} :
    {α : Type} → Program (NestingStep patience) α → Connection → World → Frames →
      Option (Except Error α) → Connection → World → Frames → Prop
  | here {α : Type} (p : Program (NestingStep patience) α) (c : Connection) (w : World) (f : Frames) :
      Goes others p c w f none c w f
  | finish {α : Type} (result : Except Error α) (c : Connection) (w : World) (f : Frames) :
      Goes others (.finish result) c w f (some result) c w f
  | step {α β : Type} {s : NestingStep patience β} {next : Except Error β → Program (NestingStep patience) α}
      {c c₁ c' : Connection} {w w₁ w' : World} {f f' : Frames} {x : Except Error β} {r : Option (Except Error α)}
      (goesOn : Op.aborts x = false) (ended : Op.Ends others s.perform c w x c₁ w₁)
      (rest : Goes others (next x) c₁ w₁ (s.mirror x f) r c' w' f') : Goes others (.step s next) c w f r c' w' f'
  | stopped {α β : Type} {s : NestingStep patience β} {next : Except Error β → Program (NestingStep patience) α}
      {c c' : Connection} {w w' : World} {f : Frames} {e : Error} (abort : e.isAbort = true)
      (ended : Op.Ends others s.perform c w (.error e) c' w') :
      Goes others (.step s next) c w f (some (.error e)) c' w' (s.mirror (.error e) f)
  | unbegun {α β : Type} {inner : Program (NestingStep patience) β}
      {next : Except Error β → Program (NestingStep patience) α} {c c₁ c' : Connection} {w w₁ w' : World}
      {f f' : Frames} {e : Error} {r : Option (Except Error α)} (goesOn : e.isAbort = false)
      (ended : Op.Ends others Op.start c w (.error e) c₁ w₁) (rest : Goes others (next (.error e)) c₁ w₁ f r c' w' f') :
      Goes others (.transaction inner next) c w f r c' w' f'
  | unopened {α β : Type} {inner : Program (NestingStep patience) β}
      {next : Except Error β → Program (NestingStep patience) α} {c c' : Connection} {w w' : World} {f : Frames}
      {e : Error} (abort : e.isAbort = true) (ended : Op.Ends others Op.start c w (.error e) c' w') :
      Goes others (.transaction inner next) c w f (some (.error e)) c' w' f
  | inside {α β : Type} {inner : Program (NestingStep patience) β}
      {next : Except Error β → Program (NestingStep patience) α} {c c₁ c' : Connection} {w w₁ w' : World}
      {f f' : Frames} (begun : Op.Ends others Op.start c w (.ok ()) c₁ w₁)
      (work : Goes others inner c₁ w₁ f.start none c' w' f') :
      Goes others (.transaction inner next) c w f none c' w' f'
  | interrupted {α β : Type} {inner : Program (NestingStep patience) β}
      {next : Except Error β → Program (NestingStep patience) α} {c c₁ c' : Connection} {w w₁ w' : World}
      {f f' : Frames} {e : Error} (abort : e.isAbort = true) (begun : Op.Ends others Op.start c w (.ok ()) c₁ w₁)
      (work : Goes others inner c₁ w₁ f.start (some (.error e)) c' w' f') :
      Goes others (.transaction inner next) c w f (some (.error e)) c' w' f'
  | behind {α β : Type} {inner : Program (NestingStep patience) β}
      {next : Except Error β → Program (NestingStep patience) α} {c c₁ c₂ c₃ c' : Connection} {w w₁ w₂ w₃ w' : World}
      {f f₂ f' : Frames} {x y : Except Error β} {r : Option (Except Error α)}
      (begun : Op.Ends others Op.start c w (.ok ()) c₁ w₁) (worked : Op.aborts x = false)
      (work : Goes others inner c₁ w₁ f.start (some x) c₂ w₂ f₂) (goesOn : Op.aborts y = false)
      (settled : Op.Ends others (Op.settle x) c₂ w₂ y c₃ w₃)
      (rest : Goes others (next y) c₃ w₃ (f₂.settle x) r c' w' f') :
      Goes others (.transaction inner next) c w f r c' w' f'
  | unsettled {α β : Type} {inner : Program (NestingStep patience) β}
      {next : Except Error β → Program (NestingStep patience) α} {c c₁ c₂ c' : Connection} {w w₁ w₂ w' : World}
      {f f₂ : Frames} {x : Except Error β} {e : Error} (begun : Op.Ends others Op.start c w (.ok ()) c₁ w₁)
      (worked : Op.aborts x = false) (work : Goes others inner c₁ w₁ f.start (some x) c₂ w₂ f₂)
      (abort : e.isAbort = true) (settled : Op.Ends others (Op.settle x) c₂ w₂ (.error e) c' w') :
      Goes others (.transaction inner next) c w f (some (.error e)) c' w' (f₂.settle x)

/-- the connection and its client's database are where the frames are -/
structure Tracks (patience : Nat) (c : Connection) (w : World) (f : Frames) : Prop where
  peaceful : Peaceful patience c w
  depth : c.depth = f.stack.length
  database : Matches (w.database c.client.id) f

variable {others : World → World → Prop} {patience : Nat} {c c' c₁ : Connection} {w w' w₁ : World} {f f' : Frames}

/-! ## Frames -/

namespace Frames

theorem height_commit (f : Frames) : f.commit.stack.length = f.stack.length - 1 := by
  obtain ⟨committed, _ | ⟨frame, _ | ⟨outer, rest⟩⟩⟩ := f <;> rfl

theorem height_rollback (f : Frames) : f.rollback.stack.length = f.stack.length - 1 := List.length_tail

theorem height_write (f : Frames) (s : Statement) : (f.write s).stack.length = f.stack.length := by
  obtain ⟨committed, _ | ⟨frame, rest⟩⟩ := f <;> rfl

/-- an empty frame is merged without a trace -/
theorem commit_start (f : Frames) : f.start.commit = f := by
  obtain ⟨committed, _ | ⟨frame, rest⟩⟩ := f <;> simp [start, commit]

theorem foldl_write_start (f : Frames) (statements : List Statement) :
    statements.foldl write f.start = ⟨f.committed, statements :: f.stack⟩ := by
  have hwrite : ∀ frame, statements.foldl write ⟨f.committed, frame :: f.stack⟩ =
      ⟨f.committed, (frame ++ statements) :: f.stack⟩ := by
    induction statements with
    | nil => simp
    | cons s statements ih =>
      intro frame
      rw [List.foldl_cons, write, ih, List.append_assoc]
      rfl
  exact hwrite []

/-- a frame that is dropped takes along all that was written to it -/
theorem rollback_foldl_write_start (f : Frames) (statements : List Statement) :
    (statements.foldl write f.start).rollback = f := by
  rw [foldl_write_start]
  rfl

end Frames

/-! ## Operations -/

theorem Tracks.passed {db : Database} (h : Passed patience c₁ c' w' db) (hd : c₁.depth = f.stack.length)
    (hdb : Matches db f) : Tracks patience c' w' f where
  peaceful := h.peaceful
  depth := h.depth.trans hd
  database := by rw [h.id, h.database]; exact hdb

theorem peaceful_marking {text : String} {r : Except Error Unit} (hc : Calming others patience c.client.id)
    (hp : Peaceful patience c w) (h : Op.Marking others text c w r c' w') :
    r = .ok () ∧ Passed patience c c' w' ((w.database c.client.id).perform (.ofText text)) := by
  cases h with
  | skipped w₁ hs hn => cases hn.symm.trans (hc _ _ hs).2.savepoints
  | asked w₁ x c' w' hs hq =>
    have hp₁ : Peaceful patience c w₁ := ⟨hp.sure, hp.patient, fun hf => by rw [hc.database hs]; exact hp.settled hf⟩
    obtain ⟨⟨rows, rfl⟩, hpass⟩ := Op.peaceful_query hc hp₁ (patient_none _) hq
    rw [hc.database hs] at hpass
    exact ⟨rfl, hpass⟩

theorem tracks_start {r : Except Error Unit} (hc : Calming others patience c.client.id) (h : Tracks patience c w f)
    (hs : Op.Ends others Op.start c w r c' w') :
    r = .ok () ∧ c'.client.id = c.client.id ∧ Tracks patience c' w' f.start := by
  obtain ⟨e, -, hconn⟩ | ⟨c₁, w₁, x, c₂, hconn, hsend, hx⟩ := Op.ends_start hs hc.apart
  · cases (Op.peaceful_connect hc h.peaceful hconn).1
  have hpass := (Op.peaceful_connect hc h.peaceful hconn).2
  have hdepth : c₁.depth = f.stack.length := hpass.depth.trans h.depth
  have hpeace : Peaceful patience c₁.deeper w₁ := ⟨hpass.peaceful.sure, hpass.peaceful.patient, hpass.peaceful.settled⟩
  have hc₁ : Calming others patience c₁.deeper.client.id := hpass.id.symm ▸ hc
  have hdb : w₁.database c₁.deeper.client.id = w.database c.client.id := by
    rw [← hpass.database]
    exact congrArg w₁.database hpass.id
  have hsent : x = .ok () ∧ ∃ db, Passed patience c₁.deeper c₂ w' db ∧ Matches db f.start := by
    cases hsend with
    | outermost x c' w' hfirst hq =>
      obtain ⟨⟨rows, rfl⟩, hpass'⟩ := Op.peaceful_query hc₁ hpeace (patient_none _) hq
      have hempty : f.stack = [] := List.length_eq_zero_iff.1 (by omega)
      exact ⟨rfl, _, hpass', hdb ▸ matches_begin h.database hempty⟩
    | inner x c' w' hfurther hm =>
      obtain ⟨hok, hpass'⟩ := peaceful_marking hc₁ hpeace hm
      have hopen : f.stack ≠ [] := fun hempty => hfurther (by rw [hdepth, hempty]; rfl)
      refine ⟨hok, _, hpass', ?_⟩
      rw [hdb, hdepth]
      exact matches_savepoint h.database hopen
  obtain ⟨rfl, db, hpass', hmatch⟩ := hsent
  obtain ⟨-, rfl, rfl⟩ | ⟨e, heq, -⟩ := hx
  · exact ⟨rfl, hpass'.id.trans hpass.id, .passed hpass' (congrArg (· + 1) hdepth) hmatch⟩
  · cases heq

theorem tracks_leave {r : Except Error Nat} (hc : Calming others patience c.client.id) (h : Tracks patience c w f)
    (hl : Op.Leaving others c w r c' w') :
    r = .ok f.stack.length ∧ c'.client.id = c.client.id ∧ c'.depth = f.stack.length - 1 ∧ Peaceful patience c' w' ∧
      w'.database c'.client.id = w.database c.client.id := by
  have hdepth := h.depth
  cases hl with
  | outside hz =>
    have hp := h.peaceful
    refine ⟨by rw [← hdepth, hz], rfl, ?_, ⟨hp.sure, hp.patient, hp.settled⟩, rfl⟩
    show c.depth - 1 = _
    rw [hdepth]
  | unconnected e c' w' _ hconn => cases (Op.peaceful_connect hc h.peaceful hconn).1
  | left c₁ w₁ _ hconn =>
    have hpass := (Op.peaceful_connect hc h.peaceful hconn).2
    have hp := hpass.peaceful
    refine ⟨by rw [hpass.depth, hdepth], hpass.id, ?_, ⟨hp.sure, hp.patient, hp.settled⟩, ?_⟩
    · show c₁.depth - 1 = _
      rw [hpass.depth, hdepth]
    · rw [← hpass.database]
      exact congrArg w'.database hpass.id

theorem tracks_commit {r : Except Error Unit} (hc : Calming others patience c.client.id) (h : Tracks patience c w f)
    (hr : Op.Ends others Op.commit c w r c' w') :
    r = .ok () ∧ c'.client.id = c.client.id ∧ Tracks patience c' w' f.commit := by
  cases Op.ends_commit hr hc.apart with
  | unconnected e c' w' hl => cases (tracks_leave hc h hl).1
  | counted depth c' w' hinner hl =>
    obtain ⟨heq, hid, hdepth, hp, hdb⟩ := tracks_leave hc h hl
    cases heq
    refine ⟨rfl, hid, hp, hdepth.trans f.height_commit.symm, ?_⟩
    rw [hdb]
    exact matches_merge h.database hinner
  | sent c₁ w₁ x c' w' hl hq =>
    obtain ⟨heq, hid, hdepth, hp, hdb⟩ := tracks_leave hc h hl
    obtain ⟨⟨rows, rfl⟩, hpass⟩ := Op.peaceful_query (hid.symm ▸ hc) hp (patient_none _) hq
    rw [hdb] at hpass
    refine ⟨rfl, hpass.id.trans hid, .passed hpass (hdepth.trans f.height_commit.symm) ?_⟩
    exact matches_commit h.database (Except.ok.inj heq).symm

theorem tracks_rollback {r : Except Error Unit} (hc : Calming others patience c.client.id) (h : Tracks patience c w f)
    (hr : Op.Ends others Op.rollback c w r c' w') :
    r = .ok () ∧ c'.client.id = c.client.id ∧ Tracks patience c' w' f.rollback := by
  cases Op.ends_rollback hr hc.apart with
  | unconnected e c' w' hl => cases (tracks_leave hc h hl).1
  | outside c' w' hl =>
    obtain ⟨heq, hid, hdepth, hp, hdb⟩ := tracks_leave hc h hl
    have hempty : f.stack = [] := List.length_eq_zero_iff.1 (Except.ok.inj heq).symm
    have hsame : f.rollback = f := by
      rw [Frames.rollback, hempty, List.tail_nil, ← hempty]
    refine ⟨rfl, hid, hp, hdepth.trans f.height_rollback.symm, ?_⟩
    rw [hdb, hsame]
    exact h.database
  | outermost c₁ w₁ x c' w' hl hq =>
    obtain ⟨heq, hid, hdepth, hp, hdb⟩ := tracks_leave hc h hl
    obtain ⟨⟨rows, rfl⟩, hpass⟩ := Op.peaceful_query (hid.symm ▸ hc) hp (patient_none _) hq
    rw [hdb] at hpass
    refine ⟨rfl, hpass.id.trans hid, .passed hpass (hdepth.trans f.height_rollback.symm) ?_⟩
    exact matches_rollback h.database (Except.ok.inj heq).symm
  | inner depth c₁ w₁ r c' w' hfurther hl hm =>
    obtain ⟨heq, hid, hdepth, hp, hdb⟩ := tracks_leave hc h hl
    cases heq
    obtain ⟨hok, hpass⟩ := peaceful_marking (hid.symm ▸ hc) hp hm
    rw [hdb] at hpass
    refine ⟨hok, hpass.id.trans hid, .passed hpass (hdepth.trans f.height_rollback.symm) ?_⟩
    exact matches_back h.database hfurther

theorem tracks_settle {α : Type} {x y : Except Error α} (hc : Calming others patience c.client.id)
    (h : Tracks patience c w f) (hs : Op.Ends others (Op.settle x) c w y c' w') :
    y = x ∧ c'.client.id = c.client.id ∧ Tracks patience c' w' (f.settle x) := by
  obtain ⟨a, rfl, z, hcommit, rfl⟩ | ⟨e, z, rfl, rfl, hrollback⟩ := Op.ends_settle hs
  · obtain ⟨rfl, hid, htracks⟩ := tracks_commit hc h hcommit
    exact ⟨rfl, hid, htracks⟩
  · obtain ⟨rfl, hid, htracks⟩ := tracks_rollback hc h hrollback
    exact ⟨rfl, hid, htracks⟩

theorem tracks_execute {s : Statement} {own : Option Duration} {r : Except Error Reply}
    (hc : Calming others patience c.client.id) (h : Tracks patience c w f) (hs : IsPlain s.text)
    (ho : Patient patience own) (hr : Op.Ends others (Op.execute s own) c w r c' w') :
    c'.client.id = c.client.id ∧
      ((∃ reply, r = .ok reply ∧ Tracks patience c' w' (f.write s)) ∨
        ∃ e, r = .error e ∧ e.isAbort = false ∧ Tracks patience c' w' f) := by
  obtain ⟨reply, rfl, hpass⟩ | ⟨e, rfl, hgoes, hpass⟩ := Op.peaceful_execute hc h.peaceful ho hr
  · have hdepth : c.depth = (f.write s).stack.length := h.depth.trans (f.height_write s).symm
    exact ⟨hpass.id, .inl ⟨reply, rfl, .passed hpass hdepth (matches_write h.database hs)⟩⟩
  · exact ⟨hpass.id, .inr ⟨e, rfl, hgoes, .passed hpass h.depth h.database⟩⟩

/-- statements in order are written up to the first that fails -/
theorem tracks_executeAll {statements : List Statement} {r : Except Error Nat}
    (hc : Calming others patience c.client.id) (h : Tracks patience c w f) (hs : ∀ s ∈ statements, IsPlain s.text)
    (hr : Op.Ends others (Op.executeAll statements) c w r c' w') :
    c'.client.id = c.client.id ∧
      ((∃ n, r = .ok n ∧ Tracks patience c' w' (statements.foldl Frames.write f)) ∨
        ∃ e, ∃ done : List Statement, r = .error e ∧ e.isAbort = false ∧
          Tracks patience c' w' (done.foldl Frames.write f)) := by
  induction statements generalizing c w f r with
  | nil =>
    obtain ⟨rfl, rfl, rfl⟩ := Op.ends_pure.1 hr
    exact ⟨rfl, .inl ⟨0, rfl, h⟩⟩
  | cons s statements ih =>
    have hplain : ∀ s ∈ statements, IsPlain s.text := fun s hm => hs s (List.mem_cons_of_mem _ hm)
    rcases Op.ends_bind.1 hr with ⟨e, he, rfl⟩ | ⟨reply, c₁, w₁, he, hr⟩
    · obtain ⟨hid, ⟨_, heq, -⟩ | ⟨_, heq, hgoes, htracks⟩⟩ :=
        tracks_execute hc h (hs s List.mem_cons_self) (patient_none _) he
      · cases heq
      · cases heq
        exact ⟨hid, .inr ⟨e, [], rfl, hgoes, htracks⟩⟩
    · obtain ⟨hid, ⟨_, -, htracks⟩ | ⟨_, heq, -⟩⟩ :=
        tracks_execute hc h (hs s List.mem_cons_self) (patient_none _) he
      swap
      · cases heq
      rcases Op.ends_bind.1 hr with ⟨e, ha, rfl⟩ | ⟨n, c₂, w₂, ha, hr⟩
      · obtain ⟨hid', ⟨_, heq, -⟩ | ⟨_, done, heq, hgoes, htracks'⟩⟩ := ih (hid.symm ▸ hc) htracks hplain ha
        · cases heq
        · cases heq
          exact ⟨hid'.trans hid, .inr ⟨e, s :: done, rfl, hgoes, htracks'⟩⟩
      · obtain ⟨rfl, rfl, rfl⟩ := Op.ends_pure.1 hr
        obtain ⟨hid', ⟨_, -, htracks'⟩ | ⟨_, _, heq, -⟩⟩ := ih (hid.symm ▸ hc) htracks hplain ha
        · exact ⟨hid'.trans hid, .inl ⟨_, rfl, htracks'⟩⟩
        · cases heq

theorem tracks_batch {statements : List Statement} {r : Except Error Nat}
    (hc : Calming others patience c.client.id) (h : Tracks patience c w f) (hs : ∀ s ∈ statements, IsPlain s.text)
    (hr : Op.Ends others (Op.batch statements) c w r c' w') :
    c'.client.id = c.client.id ∧
      Tracks patience c' w' ((.batch statements hs : NestingStep patience Nat).mirror r f) := by
  unfold Op.batch at hr
  split at hr
  · next hempty =>
    obtain ⟨rfl, rfl, rfl⟩ := Op.ends_pure.1 hr
    refine ⟨rfl, ?_⟩
    rw [NestingStep.mirror, List.isEmpty_iff.1 hempty, List.foldl_nil, f.commit_start]
    exact h
  · obtain ⟨e, hstart, -⟩ | ⟨c₁, w₁, hstart, hworked⟩ := Op.ends_transaction hr
    · cases (tracks_start hc h hstart).1
    obtain ⟨-, hid, htracks⟩ := tracks_start hc h hstart
    obtain ⟨e, habort, hwork, -⟩ | ⟨x, c₂, w₂, -, hwork, hsettle⟩ := hworked
    · obtain ⟨-, ⟨_, heq, -⟩ | ⟨_, _, heq, hgoes, -⟩⟩ := tracks_executeAll (hid.symm ▸ hc) htracks hs hwork
      · cases heq
      · cases heq
        cases habort.symm.trans hgoes
    obtain ⟨hid', hwritten⟩ := tracks_executeAll (hid.symm ▸ hc) htracks hs hwork
    have hid₂ : c₂.client.id = c.client.id := hid'.trans hid
    obtain ⟨n, rfl, htracks'⟩ | ⟨e, done, rfl, -, htracks'⟩ := hwritten
    · obtain ⟨rfl, hid'', hsettled⟩ := tracks_settle (hid₂.symm ▸ hc) htracks' hsettle
      exact ⟨hid''.trans hid₂, hsettled⟩
    · obtain ⟨rfl, hid'', hsettled⟩ := tracks_settle (hid₂.symm ▸ hc) htracks' hsettle
      rw [Frames.settle, Frames.rollback_foldl_write_start] at hsettled
      exact ⟨hid''.trans hid₂, hsettled⟩

/-! ## Work -/

theorem tracks_step {β : Type} {s : NestingStep patience β} {x : Except Error β}
    (hc : Calming others patience c.client.id) (h : Tracks patience c w f)
    (hs : Op.Ends others s.perform c w x c' w') :
    c'.client.id = c.client.id ∧ Tracks patience c' w' (s.mirror x f) := by
  cases s with
  | start => exact (tracks_start hc h hs).2
  | commit => exact (tracks_commit hc h hs).2
  | rollback => exact (tracks_rollback hc h hs).2
  | execute s own plain patient =>
    obtain ⟨hid, ⟨reply, rfl, htracks⟩ | ⟨e, rfl, -, htracks⟩⟩ := tracks_execute hc h plain patient hs
    · exact ⟨hid, htracks⟩
    · exact ⟨hid, htracks⟩
  | batch statements plain => exact tracks_batch hc h plain hs

/-- **Work keeps track.** By induction on the way that the work goes. -/
theorem tracks_goes {α : Type} {p : Program (NestingStep patience) α} {r : Option (Except Error α)}
    (hg : Goes others p c w f r c' w' f') (hc : Calming others patience c.client.id) (h : Tracks patience c w f) :
    c'.client.id = c.client.id ∧ Tracks patience c' w' f' := by
  induction hg with
  | here p c w f => exact ⟨rfl, h⟩
  | finish result c w f => exact ⟨rfl, h⟩
  | step _ ended rest ih =>
    obtain ⟨hid, htracks⟩ := tracks_step hc h ended
    obtain ⟨hid', htracks'⟩ := ih (hid.symm ▸ hc) htracks
    exact ⟨hid'.trans hid, htracks'⟩
  | stopped _ ended => exact tracks_step hc h ended
  | unbegun _ ended rest ih => cases (tracks_start hc h ended).1
  | unopened _ ended => cases (tracks_start hc h ended).1
  | inside begun work ih =>
    obtain ⟨-, hid, htracks⟩ := tracks_start hc h begun
    obtain ⟨hid', htracks'⟩ := ih (hid.symm ▸ hc) htracks
    exact ⟨hid'.trans hid, htracks'⟩
  | interrupted _ begun work ih =>
    obtain ⟨-, hid, htracks⟩ := tracks_start hc h begun
    obtain ⟨hid', htracks'⟩ := ih (hid.symm ▸ hc) htracks
    exact ⟨hid'.trans hid, htracks'⟩
  | behind begun _ work _ settled rest ihw ihr =>
    obtain ⟨-, hid, htracks⟩ := tracks_start hc h begun
    obtain ⟨hid₂, htracks₂⟩ := ihw (hid.symm ▸ hc) htracks
    have hc₂ := hid₂.symm ▸ hid.symm ▸ hc
    obtain ⟨-, hid₃, htracks₃⟩ := tracks_settle hc₂ htracks₂ settled
    obtain ⟨hid₄, htracks₄⟩ := ihr (hid₃.symm ▸ hc₂) htracks₃
    exact ⟨hid₄.trans (hid₃.trans (hid₂.trans hid)), htracks₄⟩
  | unsettled begun _ work _ settled ihw =>
    obtain ⟨-, hid, htracks⟩ := tracks_start hc h begun
    obtain ⟨hid₂, htracks₂⟩ := ihw (hid.symm ▸ hc) htracks
    obtain ⟨-, hid₃, htracks₃⟩ := tracks_settle (hid₂.symm ▸ hid.symm ▸ hc) htracks₂ settled
    exact ⟨hid₃.trans (hid₂.trans hid), htracks₃⟩

/-- whatever work does, frames go with it -/
theorem goes_of_ends {α : Type} (p : Program (NestingStep patience) α) {r : Except Error α} (f : Frames)
    (h : Op.Ends others (p.op NestingStep.perform) c w r c' w') : ∃ f', Goes others p c w f (some r) c' w' f' := by
  induction p generalizing c w f c' w' with
  | finish result =>
    obtain ⟨rfl, rfl, rfl⟩ := Program.ends_finish h
    exact ⟨f, .finish _ _ _ _⟩
  | step s next ih =>
    obtain ⟨e, habort, hs, rfl⟩ | ⟨x, c₁, w₁, hgoes, hs, hnext⟩ := Program.ends_step h
    · exact ⟨_, .stopped habort hs⟩
    obtain ⟨f', hg⟩ := ih x (s.mirror x f) hnext
    exact ⟨f', .step hgoes hs hg⟩
  | transaction inner next ihi ihn =>
    obtain ⟨e, habort, ht, rfl⟩ | ⟨y, c₃, w₃, hgoes, ht, hnext⟩ := Program.ends_transaction h
    · obtain ⟨e, hstart, ⟨⟩⟩ | ⟨c₁, w₁, hstart, hworked⟩ := Op.ends_transaction ht
      · exact ⟨f, .unopened habort hstart⟩
      obtain ⟨e, -, hwork, ⟨⟩⟩ | ⟨x, c₂, w₂, hx, hwork, hsettle⟩ := hworked
      · obtain ⟨f', hw⟩ := ihi f.start hwork
        exact ⟨f', .interrupted habort hstart hw⟩
      · obtain ⟨f₂, hw⟩ := ihi f.start hwork
        exact ⟨_, .unsettled hstart hx hw habort hsettle⟩
    · obtain ⟨e, hstart, rfl⟩ | ⟨c₁, w₁, hstart, hworked⟩ := Op.ends_transaction ht
      · obtain ⟨f', hg⟩ := ihn _ f hnext
        exact ⟨f', .unbegun hgoes hstart hg⟩
      obtain ⟨e, habort, -, rfl⟩ | ⟨x, c₂, w₂, hx, hwork, hsettle⟩ := hworked
      · cases habort.symm.trans hgoes
      · obtain ⟨f₂, hw⟩ := ihi f.start hwork
        obtain ⟨f', hg⟩ := ihn _ (f₂.settle x) hnext
        exact ⟨f', .behind hstart hx hw hgoes hsettle hg⟩

namespace Program

/-- **Nested transactions are frames.** Begun outside any transaction, work in transactions and the frames that go with
it agree wherever the work stands: in what is committed, and in how many transactions are open; and no savepoint was
asked for that was not there. Frames go with all that the work can do. -/
theorem refines_frames {α : Type} (p : Program (NestingStep patience) α) (hc : Calming others patience c.client.id)
    (hp : c.config.Patient patience) (hs : c.needsReconnect = false) (hd : c.depth = 0)
    (hn : (w.database c.client.id).pending = none) (hu : (w.database c.client.id).unknown = []) :
    (∀ r c' w', Op.Ends others (p.op NestingStep.perform) c w r c' w' →
        ∃ f, Goes others p c w ⟨(w.database c.client.id).committed, []⟩ (some r) c' w' f) ∧
      ∀ r c' w' f, Goes others p c w ⟨(w.database c.client.id).committed, []⟩ r c' w' f →
        (w'.database c.client.id).committed = f.committed ∧ c'.depth = f.stack.length ∧
          (w'.database c.client.id).unknown = [] := by
  refine ⟨fun r c' w' h => goes_of_ends p _ h, fun r c' w' f hg => ?_⟩
  have hbegin : Tracks patience c w ⟨(w.database c.client.id).committed, []⟩ :=
    ⟨⟨hs, hp, fun _ => hn⟩, hd, rfl, hu, hn ▸ .settled⟩
  obtain ⟨hid, htracks⟩ := tracks_goes hg hc hbegin
  have hmatch := htracks.database
  rw [hid] at hmatch
  exact ⟨hmatch.committed, htracks.depth, hmatch.unknown⟩

/-- a transaction that goes on after another one inside it has failed -/
def interrupted : Program (NestingStep 0) Unit :=
  .step .start fun _ =>
  .step (.execute (.ofText "DELETE FROM a") none (by decide) (patient_none 0)) fun _ =>
  .transaction (.step (.execute (.ofText "DELETE FROM b") none (by decide) (patient_none 0)) fun _ =>
    .finish (.error (.other "no"))) fun (_ : Except Error Unit) =>
  .step (.execute (.ofText "DELETE FROM c") none (by decide) (patient_none 0)) fun _ =>
  .step .commit .finish

/-- alone on a fresh connection: what was done inside is gone, and the rest is committed -/
theorem refines_frames_interrupted :
    ∃ c w f, Goes (Undisturbed 0 0) interrupted (.new (.new 0) .standard .empty) .fresh ⟨[], []⟩ (some (.ok ())) c w f ∧
      f.committed.map Statement.text = ["DELETE FROM a", "DELETE FROM c"] ∧ f.stack.length = 0 := by
  generalize hrun : ((interrupted.op NestingStep.perform) (.new (.new 0) .standard .empty)).run 0 .fresh = run
  have hok : run.1.1 = .ok () := by rw [← hrun]; decide +kernel
  have hdepth : run.1.2.depth = 0 := by rw [← hrun]; decide +kernel
  have htexts : (run.2.2.database 0).committed.map Statement.text = ["DELETE FROM a", "DELETE FROM c"] := by
    rw [← hrun]
    decide +kernel
  have hends := @Op.ends_undisturbed 0 _ _ _ 0 _ _ _ hrun (by decide +kernel)
  rw [hok] at hends
  have hpatient : Config.standard.Patient 0 := ⟨⟨_, rfl, fun d _ => Nat.zero_le _⟩, _, rfl, fun d _ => Nat.zero_le _⟩
  obtain ⟨hgoes, hagree⟩ := refines_frames (c := .new (.new 0) .standard .empty) (w := .fresh) interrupted
    (calming_undisturbed 0 0) hpatient rfl rfl rfl rfl
  obtain ⟨f, hg⟩ := hgoes _ _ _ hends
  obtain ⟨hcommitted, hheight, -⟩ := hagree _ _ _ _ hg
  exact ⟨_, _, f, hg, hcommitted ▸ htexts, hheight ▸ hdepth⟩

end Program

end SqlSession
