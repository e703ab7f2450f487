/-
What is done with a connection, as a way of acts.

Whatever an operation is put together from, and whatever it makes of what comes of that: what happens to its connection
is a sequence of acts (`Way`), with changes in between that leave session, depth and settings alone, and with others who
leave alone what the client has done. So a property that every act keeps holds behind every operation:
- `rules_made`: acts have the rules by which operations are put together;
- `made_program`: so programs of operations, which decide by what came of each, are ways of acts.
-/
import SqlSession.Proofs.Session.Acts
import SqlSession.Proofs.Session.Rules

namespace SqlSession

open Connection (Alike)
open Query (Clause Command Draft)

/-- a way from one state of a connection to another: acts, each begun where the connection is as it has to be -/
inductive Way (others : World → World → Prop) (T : String → Prop) (forced : Bool) (P : Connection → Prop)
    (c₀ : Connection) (w₀ : World) : Connection → World → Prop
  | here : Way others T forced P c₀ w₀ c₀ w₀
  | edited (c c' : Connection) (w : World) (way : Way others T forced P c₀ w₀ c w) (alike : Alike c c') :
      Way others T forced P c₀ w₀ c' w
  | shared (c : Connection) (w w' : World) (way : Way others T forced P c₀ w₀ c w)
      (own : w'.own c.client.id = w.own c.client.id) : Way others T forced P c₀ w₀ c w'
  | act {β : Type} (c : Connection) (w : World) (a : Act β) (r : Except Error β) (c' : Connection) (w' : World)
      (way : Way others T forced P c₀ w₀ c w) (holds : P c) (allowed : a.Allowed T forced c)
      (ends : Op.Ends others a.perform c w r c' w') : Way others T forced P c₀ w₀ c' w'

namespace Way

variable {others : World → World → Prop} {T : String → Prop} {forced : Bool} {P : Connection → Prop}
  {c c' c₀ : Connection} {w w' w₀ : World}

theorem trans (h : Way others T forced P c₀ w₀ c w) (h' : Way others T forced P c w c' w') :
    Way others T forced P c₀ w₀ c' w' := by
  induction h' with
  | here => exact h
  | edited c c' w _ halike ih => exact .edited c c' w ih halike
  | shared c w w' _ hown ih => exact .shared c w w' ih hown
  | act c w a r c' w' _ holds hallowed hends ih => exact .act c w a r c' w' ih holds hallowed hends

theorem id (h : Way others T forced P c₀ w₀ c w) (ha : Apart others c₀.client.id) : c.client.id = c₀.client.id := by
  induction h with
  | here => rfl
  | edited c c' w _ halike ih => rw [halike.client, ih]
  | shared c w w' _ _ ih => exact ih
  | act c w a r c' w' _ _ hallowed hends ih => exact (Op.act_id hends (ih ▸ ha) hallowed).trans ih

theorem apart (h : Way others T forced P c₀ w₀ c w) (ha : Apart others c₀.client.id) : Apart others c.client.id :=
  h.id ha ▸ ha

theorem config (h : Way others T forced P c₀ w₀ c w) (ha : Apart others c₀.client.id) : c.config = c₀.config := by
  induction h with
  | here => rfl
  | edited c c' w _ halike ih => exact halike.config.trans ih
  | shared c w w' _ _ ih => exact ih
  | act c w a r c' w' hway _ hallowed hends ih => exact (Op.act_config hends (hway.apart ha) hallowed).trans ih

end Way

/-- wherever it ends, the operation went a way of acts -/
def Made (T : String → Prop) (forced : Bool) {α : Type} (op : Op α) : Prop :=
  ∀ (others : World → World → Prop) (c : Connection) (w : World) (r : Except Error α) (c' : Connection) (w' : World),
    Apart others c.client.id → Op.Ends others op c w r c' w' → Way others T forced (fun _ => True) c w c' w'

namespace Op

variable {α β : Type} {T : String → Prop} {forced : Bool}

/-! ## Ways of putting operations together -/

theorem made_pure (x : α) : Made T forced (pure x : Op α) := by
  intro others c w r c' w' _ h
  obtain ⟨-, rfl, rfl⟩ := ends_pure.1 h
  exact .here

theorem made_throw (e : Error) : Made T forced (throw e : Op α) := by
  intro others c w r c' w' _ h
  obtain ⟨-, rfl, rfl⟩ := ends_throw.1 h
  exact .here

theorem made_modify {f : Connection → Connection} (hf : ∀ c, Alike c (f c)) : Made T forced (modify f : Op Unit) := by
  intro others c w r c' w' _ h
  obtain ⟨-, rfl, rfl⟩ := ends_modify.1 h
  exact .edited c _ _ .here (hf c)

theorem made_bind {op : Op α} {f : α → Op β} (h : Made T forced op) (hf : ∀ x, Made T forced (f x)) :
    Made T forced (op >>= f) := by
  intro others c w r c' w' ha hends
  rcases ends_bind.1 hends with ⟨e, hop, -⟩ | ⟨x, c₁, w₁, hop, hends⟩
  · exact h others c w _ c' w' ha hop
  · have hway := h others c w _ c₁ w₁ ha hop
    exact hway.trans (hf x others c₁ w₁ r c' w' (hway.apart ha) hends)

theorem made_get_bind {f : Connection → Op β} (hf : ∀ c, Made T forced (f c)) : Made T forced (get >>= f) := by
  intro others c w r c' w' ha h
  exact hf c others c w r c' w' ha (ends_get_bind.1 h)

theorem made_attempt {op : Op α} (h : Made T forced op) : Made T forced (attempt op) := by
  intro others c w r c' w' ha hends
  obtain ⟨x, -, hends⟩ := ends_attempt.1 hends
  exact h others c w x c' w' ha hends

/-- the world may be looked at, and changed anywhere but in its ledger -/
theorem made_shared {t : Timed World α}
    (ht : ∀ (others : World → World → Prop) (id : Nat) (w : World) (x : α) (w' : World), Apart others id →
      Timed.Ends others t w x w' → w'.own id = w.own id) : Made T forced (shared t) := by
  intro others c w r c' w' ha h
  obtain ⟨x, -, rfl, hends⟩ := ends_shared.1 h
  exact .shared c' w w' .here (ht others c'.client.id w x w' ha hends)

theorem made_look (f : World → α) : Made T forced (shared (.look f)) := by
  refine made_shared fun others id w x w' ha h => ?_
  obtain ⟨w₁, hs, h⟩ := Timed.ends_act.1 h
  obtain ⟨-, rfl⟩ := Timed.ends_done.1 h
  exact ha _ _ hs

theorem made_shared_change {f : World → World} (hf : ∀ w, (f w).server.ledger = w.server.ledger) :
    Made T forced (shared (.change f)) := by
  refine made_shared fun others id w x w' ha h => ?_
  obtain ⟨w₁, hs, h⟩ := Timed.ends_act.1 h
  obtain ⟨-, rfl⟩ := Timed.ends_done.1 h
  rw [← ha _ _ hs, World.own, hf, World.own]

theorem made_sleep (millis : Nat) : Made T forced (shared (.pause millis)) := by
  refine made_shared fun others id w x w' ha h => ?_
  obtain ⟨-, rfl⟩ := Timed.ends_done.1 (Timed.ends_wait.1 h)
  rfl

theorem made_act {a : Act α} (ha : ∀ c, a.Allowed T forced c) : Made T forced a.perform := by
  intro others c w r c' w' _ h
  exact .act c w a r c' w' .here trivial (ha c) h

theorem made_primitive (p : Primitive α) (hp : p.Writes T) (hf : ∀ c, p.Fits c) : Made T forced p.perform :=
  made_act (a := .primitive p) fun c => ⟨hp, hf c⟩

/-! ## Operations -/

theorem made_prepare {s : Statement} {own : Option Duration} (ht : T s.text) : Made T forced (prepare s own) :=
  made_primitive (.prepare s own) ht fun _ => trivial

theorem made_execute {s : Statement} {own : Option Duration} (ht : T s.text) : Made T forced (execute s own) :=
  made_primitive (.execute s own) ht fun _ => trivial

theorem made_drafted (f : Connection → Except Error α × Draft) :
    Made T forced fun c => pure ((f c).1, { c with draft := (f c).2 }) := by
  intro others c w r c' w' _ h
  obtain ⟨heq, rfl⟩ := Timed.ends_done.1 h
  obtain ⟨-, rfl⟩ := Prod.mk.inj heq
  exact .edited c _ _ .here ⟨rfl, rfl, rfl, rfl⟩

/-- a SELECT, and the count behind it if it succeeded -/
theorem made_counted {s : Statement} {own : Option Duration} {f : Reply → α} (ht : T s.text) :
    Made T forced (do
      let reply ← execute s own
      fetchTotalCount
      pure (f reply)) := by
  intro others c w r c' w' ha h
  rcases ends_bind.1 h with ⟨e, hex, -⟩ | ⟨reply, c₁, w₁, hex, h⟩
  · exact made_execute ht others c w _ c' w' ha hex
  have hready : c₁.Ready := (stated_execute (T := T) hex ha ht).ready
  have hway : Way others T forced (fun _ => True) c w c₁ w₁ := made_execute ht others c w _ c₁ w₁ ha hex
  rcases ends_bind.1 h with ⟨e, hcount, -⟩ | ⟨_, c₂, w₂, hcount, h⟩
  · exact .act c₁ w₁ (.primitive .totalCount) _ c' w' hway trivial ⟨trivial, hready⟩ hcount
  · obtain ⟨-, rfl, rfl⟩ := ends_pure.1 h
    exact .act c₁ w₁ (.primitive .totalCount) _ c' w' hway trivial ⟨trivial, hready⟩ hcount

theorem rules_made (T : String → Prop) (forced : Bool) : Rules T forced fun _ op => Made T forced op where
  pure := made_pure
  throw := made_throw
  bind := made_bind
  get_bind := made_get_bind
  attempt := made_attempt
  look := made_look
  pause := made_sleep
  keep _ _ := made_shared_change fun _ => rfl
  arrange _ hledger := made_shared_change fun w => hledger w.server
  drafted := made_drafted
  fieldCase _ := made_modify fun _ => ⟨rfl, rfl, rfl, rfl⟩
  lockMethod _ := made_modify fun _ => ⟨rfl, rfl, rfl, rfl⟩
  explained _ := made_modify fun _ => ⟨rfl, rfl, rfl, rfl⟩
  clearedLog := made_modify fun _ => ⟨rfl, rfl, rfl, rfl⟩
  connect := made_primitive .connect trivial fun _ => trivial
  reconnect hforced := made_act (a := .reconnect) fun _ => hforced
  disconnect hforced := made_act (a := .disconnect) fun _ => hforced
  beforeUse := made_act (a := .beforeUse) fun _ => trivial
  start := made_primitive .start trivial fun _ => trivial
  commit := made_primitive .commit trivial fun _ => trivial
  rollback := made_primitive .rollback trivial fun _ => trivial
  prepare _ _ ht := made_prepare ht
  execute _ _ ht := made_execute ht
  executePrepared p own := made_primitive (.executePrepared p own) trivial fun _ => trivial
  query text own ht := made_primitive (.query text own) ht fun _ => trivial
  counted _ _ _ ht := made_counted ht

end Op

/-- **Programs are ways of acts.** -/
theorem made_program {T : String → Prop} {forced : Bool} (hplain : ∀ text, IsPlain text → T text) {α : Type}
    (work : Program (Use T forced) α) : Made T forced (work.op Use.perform) :=
  (Op.rules_made T forced).program hplain work

end SqlSession
