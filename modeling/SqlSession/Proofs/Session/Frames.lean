/-
Transactions as a stack of frames.

`Frames` says what nested transactions mean, without a word about savepoints: each open transaction is a frame with the
statements done in it. To commit one merges its frame into the one around it, to roll it back drops the frame. A
database `Matches` such frames if it has the same committed statements and, while frames are there, an open transaction
with the statements of all of them, and for each inner frame a savepoint where the frame begins. What is left of other
savepoints does not matter: none of them has the name of a frame that is older than itself (`Marked`).

Each theorem tells what one statement does to a database that matches.
-/
import SqlSession.Proofs.Session.Database

namespace SqlSession

structure Frames where
  committed : List Statement
  /-- statements by the transactions they were done in, the innermost first -/
  stack : List (List Statement)
  deriving Repr

namespace Frames

def start (f : Frames) : Frames :=
  { f with stack := [] :: f.stack }

def commit (f : Frames) : Frames :=
  match f.stack with
  | [] => f
  | [frame] => ⟨f.committed ++ frame, []⟩
  | frame :: outer :: rest => { f with stack := (outer ++ frame) :: rest }

def rollback (f : Frames) : Frames :=
  { f with stack := f.stack.tail }

def write (f : Frames) (s : Statement) : Frames :=
  match f.stack with
  | [] => { f with committed := f.committed ++ [s] }
  | frame :: rest => { f with stack := (frame ++ [s]) :: rest }

end Frames

/-- all statements of the frames, in order -/
def contents (stack : List (List Statement)) : List Statement := stack.reverse.flatten

theorem contents_cons (frame : List Statement) (outer : List (List Statement)) :
    contents (frame :: outer) = contents outer ++ frame := by
  simp [contents]

/-- the savepoint at the beginning of the frame inside these -/
def boundary (outer : List (List Statement)) : Savepoint :=
  ⟨Op.savepointName (outer.length + 1), (contents outer).length⟩

/-- the savepoint bears the name of no frame at this depth or above it -/
def Stale (depth : Nat) (s : Savepoint) : Prop := ∀ n ≤ depth, s.name ≠ Op.savepointName n

/-- among the savepoints there is one for each frame inside the `outer` ones, behind those of the frames inside it -/
inductive Marked : List (List Statement) → List Savepoint → Prop
  | bottom (savepoints : List Savepoint) : Marked [] savepoints
  | inner (frame : List Statement) (outer : List (List Statement)) (newer older : List Savepoint)
      (stale : ∀ s ∈ newer, Stale (outer.length + 2) s) (marked : Marked outer older) :
      Marked (frame :: outer) (newer ++ boundary (frame :: outer) :: older)

/-- the open transaction has done what the frames hold -/
inductive Carries : List (List Statement) → Option Pending → Prop
  | settled : Carries [] none
  | pending (frame : List Statement) (outer : List (List Statement)) (savepoints : List Savepoint)
      (marked : Marked outer savepoints) : Carries (frame :: outer) (some ⟨contents (frame :: outer), savepoints⟩)

structure Matches (db : Database) (f : Frames) : Prop where
  committed : db.committed = f.committed
  unknown : db.unknown = []
  pending : Carries f.stack db.pending

variable {db : Database} {f : Frames} {outer : List (List Statement)} {savepoints newer : List Savepoint}

/-! ## Savepoints -/

theorem Stale.mono {m n : Nat} {s : Savepoint} (h : Stale n s) (hmn : m ≤ n) : Stale m s :=
  fun k hk => h k (hk.trans hmn)

theorem stale_boundary (outer : List (List Statement)) : Stale outer.length (boundary outer) := by
  intro n hn heq
  have hname : outer.length + 1 = n := Op.savepointName_inj heq
  omega

/-- newer savepoints do no harm that are stale -/
theorem Marked.stale (h : Marked outer savepoints) (hs : ∀ s ∈ newer, Stale (outer.length + 1) s) :
    Marked outer (newer ++ savepoints) := by
  cases h with
  | bottom => exact .bottom _
  | inner frame outer front older hfront marked =>
    rw [← List.append_assoc]
    refine .inner frame outer _ older (fun s hm => ?_) marked
    exact (List.mem_append.1 hm).elim (hs s) (hfront s)

/-- a savepoint may go that belongs to none of the frames -/
theorem Marked.filter {name : String} (h : Marked outer savepoints)
    (hname : ∀ n ≤ outer.length + 1, Op.savepointName n ≠ name) :
    Marked outer (savepoints.filter fun s => s.name != name) := by
  induction h with
  | bottom => exact .bottom _
  | inner frame outer front older hfront marked ih =>
    have hkept : (boundary (frame :: outer)).name ≠ name := hname _ (le_refl _)
    rw [List.filter_append, List.filter_cons_of_pos (by simpa using hkept)]
    refine .inner frame outer _ _ (fun s hm => hfront s (List.mem_filter.1 hm).1) (ih fun n hn => ?_)
    exact hname n (hn.trans (Nat.le_succ _))

/-- the savepoint of the innermost frame is found, past newer ones -/
theorem Marked.upTo {frame : List Statement} (h : Marked (frame :: outer) savepoints) (log : List Statement) :
    ∃ older, Marked outer older ∧
      Pending.upTo ⟨log, savepoints⟩ (Op.savepointName (outer.length + 2)) = boundary (frame :: outer) :: older := by
  cases h with
  | inner _ _ newer older hs marked =>
    refine ⟨older, marked, ?_⟩
    rw [Pending.upTo, List.dropWhile_append_of_pos]
    · exact List.dropWhile_cons_of_neg (by simp [boundary])
    · exact fun s hm => bne_iff_ne.2 (hs s hm _ (le_refl _))

/-! ## Statements -/

theorem matches_begin (h : Matches db f) (hf : f.stack = []) : Matches (db.perform (.ofText "BEGIN")) f.start := by
  obtain ⟨hc, hu, hp⟩ := h
  rw [hf] at hp
  rw [Database.perform_of_control (s := .ofText "BEGIN") Control.ofText_begin]
  generalize hq : db.pending = pending at hp
  cases hp with
  | settled =>
    refine ⟨?_, ?_, ?_⟩
    · simp [Database.control, Database.commit, hq, hc, Frames.start]
    · simp [Database.control, Database.commit, hq, hu]
    · rw [Frames.start, hf]
      exact .pending [] [] [] (.bottom [])

/-- a frame more has a savepoint of its own, where it begins -/
theorem matches_savepoint (h : Matches db f) (hf : f.stack ≠ []) :
    Matches (db.perform (.ofText ("SAVEPOINT " ++ Op.savepointName (f.stack.length + 1)))) f.start := by
  obtain ⟨hc, hu, hp⟩ := h
  rw [Database.perform_of_control (s := .ofText _) (Control.ofText_savepoint _)]
  refine ⟨hc, hu, ?_⟩
  rw [Frames.start]
  dsimp only [Database.control]
  generalize db.pending = pending at hp
  generalize f.stack = stack at hp hf
  cases hp with
  | settled => exact absurd rfl hf
  | pending frame outer savepoints marked =>
    have hfresh : Marked outer (savepoints.filter fun s => s.name != Op.savepointName (outer.length + 2)) := by
      refine marked.filter fun n hn heq => ?_
      have := Op.savepointName_inj heq
      omega
    have hlog : contents ([] :: frame :: outer) = contents (frame :: outer) := by simp [contents]
    have hcarries := Carries.pending [] (frame :: outer) _ (.inner frame outer [] _ (by simp) hfresh)
    rw [hlog] at hcarries
    exact hcarries

theorem matches_commit (h : Matches db f) (hf : f.stack.length = 1) :
    Matches (db.perform (.ofText "COMMIT")) f.commit := by
  obtain ⟨hc, hu, hp⟩ := h
  obtain ⟨frame, hf⟩ := List.length_eq_one_iff.1 hf
  rw [hf] at hp
  rw [Database.perform_of_control (s := .ofText "COMMIT") Control.ofText_commit]
  generalize hq : db.pending = pending at hp
  cases hp with
  | pending _ _ savepoints _ =>
    refine ⟨?_, ?_, ?_⟩
    · simp [Database.control, Database.commit, hq, Frames.commit, hf, hc, contents]
    · simp [Database.control, Database.commit, hq, hu]
    · simpa [Database.control, Database.commit, hq, Frames.commit, hf] using Carries.settled

/-- to merge a frame into the one around it takes no statement: its savepoint is stale from now on -/
theorem matches_merge (h : Matches db f) (hf : f.stack.length ≠ 1) : Matches db f.commit := by
  obtain ⟨hc, hu, hp⟩ := h
  obtain ⟨committed, stack⟩ := f
  generalize hq : db.pending = pending at hp
  cases hp with
  | settled => exact ⟨hc, hu, hq ▸ .settled⟩
  | pending frame outer savepoints marked =>
    cases marked with
    | bottom => exact absurd rfl hf
    | inner outermost outer newer older hs marked =>
      have hmarked : Marked outer (newer ++ [boundary (outermost :: outer)] ++ older) := by
        refine marked.stale fun s hm => ?_
        rcases List.mem_append.1 hm with hm | hm
        · exact (hs s hm).mono (Nat.le_succ _)
        · rw [List.mem_singleton.1 hm]
          exact stale_boundary (outermost :: outer)
      have hlog : contents (frame :: outermost :: outer) = contents ((outermost ++ frame) :: outer) := by
        simp [contents]
      refine ⟨hc, hu, ?_⟩
      rw [hq, hlog, List.append_cons]
      exact .pending (outermost ++ frame) outer _ hmarked

theorem matches_rollback (h : Matches db f) (hf : f.stack.length = 1) :
    Matches (db.perform (.ofText "ROLLBACK")) f.rollback := by
  obtain ⟨hc, hu, -⟩ := h
  obtain ⟨frame, hf⟩ := List.length_eq_one_iff.1 hf
  rw [Database.perform_of_control (s := .ofText "ROLLBACK") Control.ofText_rollback]
  refine ⟨hc, hu, ?_⟩
  rw [Frames.rollback, hf]
  exact .settled

/-- to go back to the savepoint of the innermost frame drops that frame -/
theorem matches_back (h : Matches db f) (hf : 1 < f.stack.length) :
    Matches (db.perform (.ofText ("ROLLBACK TO SAVEPOINT " ++ Op.savepointName f.stack.length))) f.rollback := by
  obtain ⟨hc, hu, hp⟩ := h
  obtain ⟨committed, stack⟩ := f
  rw [Database.perform_of_control (s := .ofText _) (Control.ofText_rollbackTo _)]
  generalize hq : db.pending = pending at hp
  cases hp with
  | settled => exact absurd hf (by simp)
  | pending frame outer savepoints marked =>
    cases outer with
    | nil => exact absurd hf (by simp)
    | cons outermost outer =>
      obtain ⟨older, hmarked, hupTo⟩ := marked.upTo (contents (frame :: outermost :: outer))
      have hback : Pending.back ⟨contents (frame :: outermost :: outer), savepoints⟩
          (Op.savepointName (outer.length + 2)) =
            some ⟨contents (outermost :: outer), boundary (outermost :: outer) :: older⟩ := by
        rw [Pending.back, hupTo, contents_cons frame]
        simp [boundary]
      have hstale : Marked outer ([boundary (outermost :: outer)] ++ older) := by
        refine hmarked.stale fun s hm => ?_
        rw [List.mem_singleton.1 hm]
        exact stale_boundary (outermost :: outer)
      have hdb : db.control (.rollbackTo (Op.savepointName (outer.length + 2))) =
          { db with pending := some ⟨contents (outermost :: outer), boundary (outermost :: outer) :: older⟩ } := by
        rw [Database.control, Database.ask, hq, Option.bind_some, hback]
      exact hdb ▸ ⟨hc, hu, .pending outermost outer _ hstale⟩

/-- any other statement goes to the innermost frame -/
theorem matches_write {s : Statement} (h : Matches db f) (hs : Control.ofText s.text = none) :
    Matches (db.perform s) (f.write s) := by
  obtain ⟨hc, hu, hp⟩ := h
  obtain ⟨committed, stack⟩ := f
  rw [Database.perform_of_plain hs]
  generalize hq : db.pending = pending at hp
  cases hp with
  | settled =>
    refine ⟨?_, ?_, ?_⟩
    · simp only [Database.write, hq, Frames.write, hc]
    · simpa only [Database.write, hq] using hu
    · simpa only [Database.write, hq, Frames.write] using Carries.settled
  | pending frame outer savepoints marked =>
    refine ⟨?_, ?_, ?_⟩
    · simpa only [Database.write, hq, Frames.write] using hc
    · simpa only [Database.write, hq] using hu
    · have hlog : contents (frame :: outer) ++ [s] = contents ((frame ++ [s]) :: outer) := by simp [contents]
      simpa only [Database.write, hq, Frames.write, hlog] using Carries.pending (frame ++ [s]) outer savepoints marked

end SqlSession
