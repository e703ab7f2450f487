/-
Sessions that are lost while a transaction is open in them.

As long as callers never ask for another session themselves, a connection that counts a transaction and relies on its
session has that session (`Covered`). From this follows what each act owes its caller (`Faithful`), and with it:
- a session that was reported lost, or in which time ran out, is asked for nothing more;
- the call that opens another session in its place tells that the transaction is lost, once, and does nothing else;
- whatever is asked for in a transaction is asked for in the session that ran its BEGIN (`Underway`).
`no_silent_loss` says so of all programs of such callers.
-/
import SqlSession.Proofs.Session.Ways

namespace SqlSession

open Connection (Alike)

/-- nothing is asked for before a session is opened -/
def HeldBack : List Entry → Prop
  | [] => True
  | e :: rest => e.isOpening = true ∨ e.request? = none ∧ HeldBack rest

theorem HeldBack.append {a b : List Entry} (ha : HeldBack a) (hb : (∀ e ∈ a, e.isOpening = false) → HeldBack b) :
    HeldBack (a ++ b) := by
  induction a with
  | nil => exact hb (by simp)
  | cons e a ih =>
    rcases ha with ho | ⟨hn, ha⟩
    · exact .inl ho
    · by_cases ho : e.isOpening = true
      · exact .inl ho
      · refine .inr ⟨hn, ih ha fun hall => hb fun e' he' => ?_⟩
        rcases List.mem_cons.1 he' with rfl | he'
        · exact eq_false_of_ne_true ho
        · exact hall e' he'

variable {others : World → World → Prop} {T : String → Prop} {c c' c₀ c₁ : Connection} {w w' w₀ w₁ : World}

namespace Op

variable {β : Type} {after : Except Error β → Nat → Nat} {r : Except Error β}

/-- a transaction is begun outside any other one, in this session -/
structure Outset (others : World → World → Prop) (s : SessionId) (c : Connection) (w : World) (c' : Connection)
    (w' : World) : Prop where
  outside : c.depth = 0
  started : Ends others start c w (.ok ()) c' w'
  deep : c'.depth = 1
  session : c'.client.session = s
  own : ∃ front limit, (∀ e ∈ front, e.request? = none) ∧ w'.own s.client = w.own s.client ++ front ++
    [.received s (.query "BEGIN") limit, .succeeded s (.query "BEGIN")]

end Op

/-! ## Ways -/

/-- the way of callers who never ask for another session -/
abbrev Tacit (others : World → World → Prop) : Connection → World → Connection → World → Prop :=
  Way others AnyText false fun _ => True

/-- the transaction that is counted was begun in the session that is there, and nothing else has been asked since -/
def Underway (others : World → World → Prop) (c₀ : Connection) (w₀ : World) (c : Connection) (w : World) : Prop :=
  ∃ c₁ w₁ c₂ w₂ news, Tacit others c₀ w₀ c₁ w₁ ∧ Op.Outset others c.client.session c₁ w₁ c₂ w₂ ∧
    Way others AnyText false (fun c => 0 < c.depth) c₂ w₂ c w ∧
    w.own c.client.id = w₂.own c.client.id ++ news ∧ Stays c.client.session news

/-- a transaction is counted that was not begun: no span holds the configured seconds, so that the call to open it was
aborted before its BEGIN was sent -/
def Unbegun (others : World → World → Prop) (c₀ : Connection) (w₀ : World) (c : Connection) (w : World) : Prop :=
  ∃ c₁ w₁ c₂ w₂ e, Tacit others c₀ w₀ c₁ w₁ ∧ c₁.depth = 0 ∧ c₀.config.executeLimit = .error e ∧
    Op.Ends others Op.start c₁ w₁ (.error e) c₂ w₂ ∧ Way others AnyText false (fun c => 0 < c.depth) c₂ w₂ c w

/-- a transaction goes on with the way, as long as its session does -/
theorem Underway.on (h : Underway others c₀ w₀ c w) (hsession : c'.client.session = c.client.session)
    {more : List Entry} (hown : w'.own c.client.id = w.own c.client.id ++ more) (hmore : Stays c.client.session more)
    (hway : ∀ c₂ w₂, Way others AnyText false (fun c => 0 < c.depth) c₂ w₂ c w →
      Way others AnyText false (fun c => 0 < c.depth) c₂ w₂ c' w') : Underway others c₀ w₀ c' w' := by
  obtain ⟨c₁, w₁, c₂, w₂, news, hbefore, houtset, hsince, hnews, hstays⟩ := h
  have hid : c'.client.id = c.client.id := congrArg SessionId.client hsession
  rw [hnews, List.append_assoc] at hown
  rw [Underway, hsession, hid]
  exact ⟨c₁, w₁, c₂, w₂, news ++ more, hbefore, houtset, hway c₂ w₂ hsince, hown, hstays.append hmore⟩

theorem Unbegun.on (h : Unbegun others c₀ w₀ c w)
    (hway : ∀ c₂ w₂, Way others AnyText false (fun c => 0 < c.depth) c₂ w₂ c w →
      Way others AnyText false (fun c => 0 < c.depth) c₂ w₂ c' w') : Unbegun others c₀ w₀ c' w' := by
  obtain ⟨c₁, w₁, c₂, w₂, e, hbefore, hzero, hlimit, hstart, hsince⟩ := h
  exact ⟨c₁, w₁, c₂, w₂, e, hbefore, hzero, hlimit, hstart, hway c₂ w₂ hsince⟩

end SqlSession
