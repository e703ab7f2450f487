/-
Two programs side by side.

`Timed.Alike S R t t'`: two programs, each alone with a state of its own, keep their states related by `S` and end with
results related by `R`. Mostly they take the same turns; what one of them does besides must not be seen by `S`.
- `alike_run`, `alike_ends`: what such programs come to, alone and among others;
- `Alike.bind`, `alike_of_leads`: how they are put together;
- `Facing`: two worlds in which a holder each has begun, with servers that are going to answer alike, where both holders
  have asked for the same and their listeners have heard the same since;
- `facing_meanwhile`: whatever others do in one of them, others may have done in the other;
- `Client.Mirrors`: their clients, whose numbers for prepared statements differ by where they began;
- `alike_opening`, `alike_preparing`, `alike_querying`, `alike_executing`: calls of such clients go alike;
- `leads_opening`: where everybody is let in in time, a session that is opened on one side only is not seen.
-/
import SqlSession.Proofs.Session.Traffic

namespace SqlSession

namespace Timed

variable {σ α α' β β' : Type} {S : σ → σ → Prop} {R : α → α' → Prop} {P : α → Prop} {P' : α' → Prop}
  {t : Timed σ α} {t' : Timed σ α'}

/-- two programs that go alike, turn by turn or with turns of one of them that are not seen -/
inductive Alike (S : σ → σ → Prop) (R : α → α' → Prop) : Timed σ α → Timed σ α' → Prop
  | done {x : α} {x' : α'} (ends : R x x') : Alike S R (done x) (done x')
  | act {change change' : σ → σ} {rest : σ → Timed σ α} {rest' : σ → Timed σ α'}
      (kept : ∀ s s', S s s' → S (change s) (change' s'))
      (step : ∀ s s', S s s' → Alike S R (rest s) (rest' s')) : Alike S R (act change rest) (act change' rest')
  | lead {change : σ → σ} {rest : σ → Timed σ α} {t' : Timed σ α'} (kept : ∀ s s', S s s' → S (change s) s')
      (step : ∀ s s', S s s' → Alike S R (rest s) t') : Alike S R (act change rest) t'
  | follow {change' : σ → σ} {t : Timed σ α} {rest' : σ → Timed σ α'} (kept : ∀ s s', S s s' → S s (change' s'))
      (step : ∀ s s', S s s' → Alike S R t (rest' s')) : Alike S R t (act change' rest')
  | leadWait (millis : Nat) {rest : Timed σ α} {t' : Timed σ α'} (step : Alike S R rest t') :
      Alike S R (wait millis rest) t'
  | followWait (millis : Nat) {t : Timed σ α} {rest' : Timed σ α'} (step : Alike S R t rest') :
      Alike S R t (wait millis rest')

/-- **Programs that go alike end alike**, whenever they are begun. -/
theorem alike_run (h : Alike S R t t') (now now' : Nat) {s s' : σ} (hs : S s s') :
    R (t.run now s).1 (t'.run now' s').1 ∧ S (t.run now s).2.2 (t'.run now' s').2.2 := by
  induction h generalizing now now' s s' with
  | done ends => exact ⟨ends, hs⟩
  | act kept _ ih => exact ih s s' hs now now' (kept s s' hs)
  | lead kept _ ih => exact ih s s' hs now now' (kept s s' hs)
  | follow kept _ ih => exact ih s s' hs now now' (kept s s' hs)
  | leadWait millis _ ih => exact ih (now + millis) now' hs
  | followWait millis _ ih => exact ih now (now' + millis) hs

/-- **.. and so they do among others**, if what others do on one side can be done on the other. Where the second program
ends, others may have to go on to catch up. -/
theorem alike_ends {others others' : σ → σ → Prop} (hrefl : ∀ s, others' s s)
    (htrans : ∀ s s₁ s₂, others' s s₁ → others' s₁ s₂ → others' s s₂)
    (hmatch : ∀ s s' s₁, S s s' → others s s₁ → ∃ s₁', others' s' s₁' ∧ S s₁ s₁') (h : Alike S R t t')
    {s s' s₁ p : σ} {x : α} (hs : S s s') (hp : others' p s') (he : Ends others t s x s₁) :
    ∃ x' s₁' s₂', Ends others' t' p x' s₁' ∧ others' s₁' s₂' ∧ R x x' ∧ S s₁ s₂' := by
  -- `p` is where the second program has come to, `s'` where it will be when others have caught up
  induction h generalizing s s' s₁ p with
  | done ends =>
    obtain ⟨rfl, rfl⟩ := ends_done.1 he
    exact ⟨_, _, s', .done _ p, hp, ends, hs⟩
  | act kept _ ih =>
    obtain ⟨s₂, hothers, hrest⟩ := ends_act.1 he
    obtain ⟨s₂', hothers', hs₂⟩ := hmatch s s' s₂ hs hothers
    obtain ⟨x', s₃', s₄', hends, hlater, hR, hS⟩ := ih s₂ s₂' hs₂ (kept s₂ s₂' hs₂) (hrefl _) hrest
    exact ⟨x', s₃', s₄', ends_act.2 ⟨s₂', htrans _ _ _ hp hothers', hends⟩, hlater, hR, hS⟩
  | lead kept _ ih =>
    obtain ⟨s₂, hothers, hrest⟩ := ends_act.1 he
    obtain ⟨s₂', hothers', hs₂⟩ := hmatch s s' s₂ hs hothers
    exact ih s₂ s₂' hs₂ (kept s₂ s₂' hs₂) (htrans _ _ _ hp hothers') hrest
  | follow kept _ ih =>
    obtain ⟨x', s₃', s₄', hends, hlater, hR, hS⟩ := ih s s' hs (kept s s' hs) (hrefl _) he
    exact ⟨x', s₃', s₄', ends_act.2 ⟨s', hp, hends⟩, hlater, hR, hS⟩
  | leadWait millis _ ih => exact ih hs hp (ends_wait.1 he)
  | followWait millis _ ih =>
    obtain ⟨x', s₃', s₄', hends, hlater, hR, hS⟩ := ih hs hp he
    exact ⟨x', s₃', s₄', ends_wait.2 hends, hlater, hR, hS⟩

theorem Alike.mono {R' : α → α' → Prop} (h : Alike S R t t') (hR : ∀ x x', R x x' → R' x x') : Alike S R' t t' := by
  induction h with
  | done ends => exact .done (hR _ _ ends)
  | act kept _ ih => exact .act kept ih
  | lead kept _ ih => exact .lead kept ih
  | follow kept _ ih => exact .follow kept ih
  | leadWait millis _ ih => exact .leadWait millis ih
  | followWait millis _ ih => exact .followWait millis ih

theorem Alike.bind {R' : β → β' → Prop} {f : α → Timed σ β} {f' : α' → Timed σ β'} (h : Alike S R t t')
    (hf : ∀ x x', R x x' → Alike S R' (f x) (f' x')) : Alike S R' (t.bind f) (t'.bind f') := by
  induction h with
  | done ends => exact hf _ _ ends
  | act kept _ ih => exact .act kept ih
  | lead kept _ ih => exact .lead kept ih
  | follow kept _ ih => exact .follow kept ih
  | leadWait millis _ ih => exact .leadWait millis ih
  | followWait millis _ ih => exact .followWait millis ih

theorem alike_wait (millis : Nat) (h : Alike S R t t') : Alike S R (wait millis t) (wait millis t') :=
  .leadWait millis (.followWait millis h)

/-- a wait under a limit: either both programs come too late, or the limit does not matter -/
theorem alike_within_wait (limit : Option Duration) {late : Duration → α} {late' : Duration → α'} {millis : Nat}
    (hp : t.Prompt) (hp' : t'.Prompt) (h : Alike S R t t') (hlate : ∀ d, R (late d) (late' d)) :
    Alike S R ((wait millis t).within limit late) ((wait millis t').within limit late') := by
  cases limit with
  | none => exact alike_wait millis h
  | some d =>
    simp only [within, withinTicks]
    split_ifs
    · rw [withinTicks_prompt hp, withinTicks_prompt hp']
      exact alike_wait millis h
    · exact alike_wait _ (.done (hlate d))

/-- a program whose turns are not seen from the other side -/
inductive Leads (S : σ → σ → Prop) (P : α → Prop) : Timed σ α → Prop
  | done {x : α} (ends : P x) : Leads S P (done x)
  | act {change : σ → σ} {rest : σ → Timed σ α} (kept : ∀ s s', S s s' → S (change s) s')
      (step : ∀ s s', S s s' → Leads S P (rest s)) : Leads S P (act change rest)
  | wait (millis : Nat) {rest : Timed σ α} (step : Leads S P rest) : Leads S P (wait millis rest)

theorem Leads.bind {Q : β → Prop} {f : α → Timed σ β} (h : Leads S P t) (hf : ∀ x, P x → Leads S Q (f x)) :
    Leads S Q (t.bind f) := by
  induction h with
  | done ends => exact hf _ ends
  | act kept _ ih => exact .act kept ih
  | wait millis _ ih => exact .wait millis ih

/-- a wait that ends in time -/
theorem leads_within_wait {limit : Option Duration} {late : Duration → α} {millis : Nat} (hp : t.Prompt)
    (h : Leads S P t) (hintime : ∀ d, limit = some d → millis ≤ d.ticks) :
    Leads S P ((wait millis t).within limit late) := by
  cases limit with
  | none => exact .wait _ h
  | some d =>
    simp only [within, withinTicks, if_pos (hintime d rfl)]
    rw [withinTicks_prompt hp]
    exact .wait _ h

/-- programs that do not see each other's turns go alike if their results are related -/
theorem alike_of_leads (h : Leads S P t) (h' : Leads (fun s s' => S s' s) P' t') (hR : ∀ x x', P x → P' x' → R x x') :
    Alike S R t t' := by
  induction h with
  | done ends =>
    induction h' with
    | done ends' => exact .done (hR _ _ ends ends')
    | act kept _ ih => exact .follow (fun s s' hs => kept s' s hs) fun s s' hs => ih s' s hs
    | wait millis _ ih => exact .followWait millis ih
  | act kept _ ih => exact .lead kept fun s s' hs => ih s s' hs
  | wait millis _ ih => exact .leadWait millis ih

end Timed

/-! ## Two worlds -/

namespace Server

/-- what a server is going to answer, whatever has happened to it -/
def outlook (s : Server) : Server := { s with ledger := [], forgotten := 0, clients := 0 }

/-- what is read off a server's outlook is the same for servers of the same outlook -/
theorem eq_of_outlook {β : Type} (f : Server → β) {s s' : Server} (h : s.outlook = s'.outlook)
    (hf : ∀ s, f s.outlook = f s) : f s = f s' := by
  rw [← hf s, h, hf s']

/-- everybody is let in, and in time -/
structure Welcomes (config : Config) (s : Server) : Prop where
  refusals : s.refusals = 0
  limit : ∀ d, config.connectLimit = .ok (some d) → s.delays.connect ≤ d.ticks

theorem Welcomes.of_outlook {config : Config} {s s' : Server} (h : s.Welcomes config)
    (heq : s.outlook = s'.outlook) : s'.Welcomes config where
  refusals := (eq_of_outlook Server.refusals heq fun _ => rfl).symm.trans h.refusals
  limit := by
    have hdelays : s.delays = s'.delays := eq_of_outlook Server.delays heq fun _ => rfl
    exact hdelays ▸ h.limit

end Server

/-- what was asked for, and under which limit -/
def Entry.asked? : Entry → Option (Request × Option Duration)
  | .received _ request limit => some (request, limit)
  | _ => none

/-- where a holder begins: with this client, when it and the listeners have come to this, and with this number for the
next statement that is prepared -/
structure Onset where
  client : Nat
  own : List Entry
  heard : List Heard
  handle : Nat

/-- two holders who begin under the same settings -/
structure Stage where
  config : Config
  left : Onset
  right : Onset
  /-- a session may have to be opened on one side only, since everybody is let in -/
  free : Prop
  limited : free → ∃ limit, config.connectLimit = .ok limit

/-- the holders the other way round -/
def Stage.flip (g : Stage) : Stage := { g with left := g.right, right := g.left }

/-- the same statement of the holder, by its number on either side -/
def Stage.Paired (g : Stage) (handle handle' : Nat) : Prop :=
  ∃ n, handle = g.left.handle + n ∧ handle' = g.right.handle + n

/-- a prepared statement on either side -/
structure Prepared.Mirrors (g : Stage) (p p' : Prepared) : Prop where
  statement : p.statement = p'.statement
  handle : g.Paired p.handle p'.handle

/-- two worlds in which the holders have done the same so far -/
structure Facing (g : Stage) (w w' : World) : Prop where
  server : w.server.outlook = w'.server.outlook
  welcome : g.free → w.server.Welcomes g.config
  asked : ∃ news news', w.own g.left.client = g.left.own ++ news ∧ w'.own g.right.client = g.right.own ++ news' ∧
    news.filterMap Entry.asked? = news'.filterMap Entry.asked?
  heard : ∃ news, w.heard = g.left.heard ++ news ∧ w'.heard = g.right.heard ++ news
  named : List.Forall₂ (fun e e' => e.1 = e'.1 ∧ e.2.Mirrors g e'.2) w.named w'.named

section

variable {g : Stage} {w w' : World}

theorem Stage.Paired.flip {handle handle' : Nat} (h : g.Paired handle handle') : g.flip.Paired handle' handle := by
  obtain ⟨n, hn, hn'⟩ := h
  exact ⟨n, hn', hn⟩

theorem Prepared.Mirrors.flip {p p' : Prepared} (h : p.Mirrors g p') : p'.Mirrors g.flip p :=
  ⟨h.statement.symm, h.handle.flip⟩

theorem Facing.flip (h : Facing g w w') : Facing g.flip w' w where
  server := h.server.symm
  welcome hfree := (h.welcome hfree).of_outlook h.server
  asked := by
    obtain ⟨news, news', hown, hown', heq⟩ := h.asked
    exact ⟨news', news, hown', hown, heq.symm⟩
  heard := by
    obtain ⟨news, hheard, hheard'⟩ := h.heard
    exact ⟨news, hheard', hheard⟩
  named := (h.named.imp fun _ _ he => ⟨he.1.symm, he.2.flip⟩).flip

theorem facing_flip (g : Stage) : Facing g.flip = fun w w' => Facing g w' w :=
  funext₂ fun _ _ => propext ⟨Facing.flip, Facing.flip⟩

/-- two programs, each of them not seen from the other side -/
theorem alike_of_both {α α' : Type} {P : α → Prop} {P' : α' → Prop} {R : α → α' → Prop} {t : Timed World α}
    {t' : Timed World α'} (h : t.Leads (Facing g) P) (h' : t'.Leads (Facing g.flip) P')
    (hR : ∀ x x', P x → P' x' → R x x') : Timed.Alike (Facing g) R t t' :=
  Timed.alike_of_leads h (facing_flip g ▸ h') hR

/-- both holders make an entry, and ask for the same with it -/
theorem facing_note {e e' : Entry} (h : Facing g w w') (he : e.client = g.left.client)
    (he' : e'.client = g.right.client) (hasked : e.asked? = e'.asked?) : Facing g (w.note e) (w'.note e') where
  server := h.server
  welcome hfree := (h.welcome hfree).of_outlook rfl
  asked := by
    obtain ⟨news, news', hown, hown', heq⟩ := h.asked
    refine ⟨news ++ [e], news' ++ [e'], ?_, ?_, ?_⟩
    · rw [own_note hown he, List.append_assoc]
    · rw [own_note hown' he', List.append_assoc]
    · rw [List.filterMap_append, List.filterMap_append, heq]
      simp only [List.filterMap_cons, List.filterMap_nil, hasked]
  heard := h.heard
  named := h.named

/-- one holder makes an entry and asks for nothing -/
theorem facing_note_left {e : Entry} (h : Facing g w w') (he : e.client = g.left.client) (hasked : e.asked? = none) :
    Facing g (w.note e) w' where
  server := h.server
  welcome hfree := (h.welcome hfree).of_outlook rfl
  asked := by
    obtain ⟨news, news', hown, hown', heq⟩ := h.asked
    refine ⟨news ++ [e], news', ?_, hown', ?_⟩
    · rw [own_note hown he, List.append_assoc]
    · rw [List.filterMap_append, heq]
      simp only [List.filterMap_cons, List.filterMap_nil, hasked, List.append_nil]
  heard := h.heard
  named := h.named

/-- both servers change in what they are going to answer -/
theorem facing_arrange {f f' : Server → Server} (h : Facing g w w') (hledger : (f w.server).ledger = w.server.ledger)
    (hledger' : (f' w'.server).ledger = w'.server.ledger)
    (houtlook : (f w.server).outlook = (f' w'.server).outlook)
    (hwelcome : g.free → w.server.Welcomes g.config → (f w.server).Welcomes g.config) :
    Facing g (w.arrange f) (w'.arrange f') where
  server := houtlook
  welcome hfree := hwelcome hfree (h.welcome hfree)
  asked := by
    have hown : (w.arrange f).own g.left.client = w.own g.left.client := by
      rw [World.own, World.own, World.arrange, hledger]
    have hown' : (w'.arrange f').own g.right.client = w'.own g.right.client := by
      rw [World.own, World.own, World.arrange, hledger']
    rw [hown, hown']
    exact h.asked
  heard := h.heard
  named := h.named

/-- both sides' listeners hear the same -/
theorem facing_tell {news : List Heard} (h : Facing g w w') :
    Facing g { w with heard := w.heard ++ news } { w' with heard := w'.heard ++ news } where
  server := h.server
  welcome := h.welcome
  asked := h.asked
  heard := by
    obtain ⟨before, hheard, hheard'⟩ := h.heard
    exact ⟨before ++ news, by rw [hheard, List.append_assoc], by rw [hheard', List.append_assoc]⟩
  named := h.named

/-- both holders keep a statement under a name -/
theorem facing_keep {p p' : Prepared} (h : Facing g w w') (name : String) (hp : p.Mirrors g p') :
    Facing g (w.keep name p) (w'.keep name p') where
  server := h.server
  welcome := h.welcome
  asked := h.asked
  heard := h.heard
  named := .cons ⟨rfl, hp⟩ h.named

/-- what both holders find under a name -/
theorem facing_named (h : Facing g w w') (name : String) :
    Option.Rel (Prepared.Mirrors g) (w.named.lookup name) (w'.named.lookup name) := by
  have hnamed := h.named
  generalize w.named = entries at hnamed
  generalize w'.named = entries' at hnamed
  induction hnamed with
  | nil => exact .none
  | @cons e e' rest rest' he _ ih =>
    rw [List.lookup_cons, List.lookup_cons, he.1]
    cases name == e'.1 with
    | true => exact .some he.2
    | false => exact ih

/-! ## Others in the meantime -/

/-- others have gone on: what the client has done, what was heard so far and the names are as they were, and with `free`
everybody is still let in in time -/
structure Meanwhile (config : Config) (free : Prop) (id : Nat) (w w' : World) : Prop where
  own : w'.own id = w.own id
  heard : w.heard <+: w'.heard
  named : w'.named = w.named
  welcome : free → w.server.Welcomes config → w'.server.Welcomes config

theorem Meanwhile.refl {config : Config} {free : Prop} {id : Nat} (w : World) : Meanwhile config free id w w :=
  ⟨rfl, List.prefix_rfl, rfl, fun _ h => h⟩

theorem Meanwhile.trans {config : Config} {free : Prop} {id : Nat} {w w₁ w₂ : World}
    (h : Meanwhile config free id w w₁) (h' : Meanwhile config free id w₁ w₂) : Meanwhile config free id w w₂ where
  own := h'.own.trans h.own
  heard := h.heard.trans h'.heard
  named := h'.named.trans h.named
  welcome hfree hw := h'.welcome hfree (h.welcome hfree hw)

/-- whatever others do on one side, others may have done on the other -/
theorem facing_meanwhile {w₁ : World} (h : Facing g w w') (hothers : Meanwhile g.config g.free g.left.client w w₁) :
    ∃ w₁', Meanwhile g.config g.free g.right.client w' w₁' ∧ Facing g w₁ w₁' := by
  obtain ⟨more, hmore⟩ := hothers.heard
  have hwelcome : g.free → w₁.server.Welcomes g.config := fun hfree => hothers.welcome hfree (h.welcome hfree)
  -- a server that is going to answer like the one over there, behind what has happened here
  let server : Server := { w₁.server with ledger := w'.server.ledger }
  have houtlook : w₁.server.outlook = server.outlook := rfl
  refine ⟨⟨server, w'.heard ++ more, w'.named⟩, ⟨rfl, ⟨more, rfl⟩, rfl, ?_⟩, ?_⟩
  · exact fun hfree _ => (hwelcome hfree).of_outlook houtlook
  · obtain ⟨news, hheard, hheard'⟩ := h.heard
    exact
      { server := houtlook
        welcome := hwelcome
        asked := hothers.own ▸ h.asked
        heard := ⟨news ++ more, by rw [← hmore, hheard, List.append_assoc], by rw [hheard', List.append_assoc]⟩
        named := hothers.named ▸ h.named }

/-! ## What the servers answer -/

variable {session session' : SessionId} {text : String}

theorem facing_accept (h : Facing g w w') (hs : session.client = g.left.client)
    (hs' : session'.client = g.right.client) :
    (Server.accept session w.server).1 = (Server.accept session' w'.server).1 ∧
      Facing g (World.onServer (Server.accept session) w).2 (World.onServer (Server.accept session') w').2 := by
  have hrefusals : w.server.refusals = w'.server.refusals := Server.eq_of_outlook Server.refusals h.server fun _ => rfl
  unfold World.onServer Server.accept
  rw [hrefusals]
  cases hr : w'.server.refusals with
  | zero => exact ⟨rfl, facing_note h hs hs' rfl⟩
  | succ n =>
    have hfewer : Facing g (w.arrange fun s => { s with refusals := n })
        (w'.arrange fun s => { s with refusals := n }) :=
      facing_arrange h rfl rfl (congrArg (fun s : Server => { s with refusals := n }) h.server) fun _ hw =>
        absurd (hw.refusals.symm.trans (hrefusals.trans hr)) (Nat.succ_ne_zero n).symm
    exact ⟨rfl, facing_note hfewer hs hs' rfl⟩

theorem facing_endPrepare (h : Facing g w w') (hs : session.client = g.left.client)
    (hs' : session'.client = g.right.client) :
    (Server.endPrepare session text w.server).1 = (Server.endPrepare session' text w'.server).1 ∧
      Facing g (World.onServer (Server.endPrepare session text) w).2
        (World.onServer (Server.endPrepare session' text) w').2 := by
  have hfailures : w.server.prepareFailures = w'.server.prepareFailures :=
    Server.eq_of_outlook Server.prepareFailures h.server fun _ => rfl
  unfold World.onServer Server.endPrepare
  rw [hfailures]
  cases w'.server.prepareFailures with
  | nil => exact ⟨rfl, facing_note h hs hs' rfl⟩
  | cons cause rest =>
    have hfewer : Facing g (w.arrange fun s => { s with prepareFailures := rest })
        (w'.arrange fun s => { s with prepareFailures := rest }) :=
      facing_arrange h rfl rfl (congrArg (fun s : Server => { s with prepareFailures := rest }) h.server) fun _ hw =>
        ⟨hw.refusals, hw.limit⟩
    exact ⟨rfl, facing_note hfewer hs hs' rfl⟩

theorem facing_endRun {request : Request} (h : Facing g w w') (hs : session.client = g.left.client)
    (hs' : session'.client = g.right.client) :
    (Server.endRun session request text w.server).1 = (Server.endRun session' request text w'.server).1 ∧
      Facing g (World.onServer (Server.endRun session request text) w).2
        (World.onServer (Server.endRun session' request text) w').2 := by
  have hfailures : w.server.runFailures = w'.server.runFailures :=
    Server.eq_of_outlook Server.runFailures h.server fun _ => rfl
  have hreply : w.server.reply text = w'.server.reply text :=
    Server.eq_of_outlook (Server.reply · text) h.server fun _ => rfl
  unfold World.onServer Server.endRun
  rw [hfailures]
  cases w'.server.runFailures with
  | nil => exact ⟨congrArg Except.ok hreply, facing_note h hs hs' rfl⟩
  | cons cause rest =>
    have hfewer : Facing g (w.arrange fun s => { s with runFailures := rest })
        (w'.arrange fun s => { s with runFailures := rest }) :=
      facing_arrange h rfl rfl (congrArg (fun s : Server => { s with runFailures := rest }) h.server) fun _ hw =>
        ⟨hw.refusals, hw.limit⟩
    exact ⟨rfl, facing_note hfewer hs hs' rfl⟩

end

/-! ## Two clients -/

/-- two clients with the same statements of the holder behind its numbers -/
structure Client.Mirrors (g : Stage) (c c' : Client) : Prop where
  left : c.id = g.left.client
  right : c'.id = g.right.client
  next : g.Paired c.nextHandle c'.nextHandle
  known : ∀ handle handle', g.Paired handle handle' → c.prepared.lookup handle = c'.prepared.lookup handle'
  /-- with a session on one side only, the holder has not prepared anything yet -/
  uneven : c.connected ≠ c'.connected →
    g.free ∧ ∀ handle handle', g.Paired handle handle' → c.prepared.lookup handle = none

namespace Client.Mirrors

variable {g : Stage} {c c' : Client}

theorem flip (h : c.Mirrors g c') : c'.Mirrors g.flip c where
  left := h.right
  right := h.left
  next := h.next.flip
  known handle handle' hp := (h.known handle' handle hp.flip).symm
  uneven hne := by
    obtain ⟨hfree, hnone⟩ := h.uneven hne.symm
    exact ⟨hfree, fun handle handle' hp => (h.known handle' handle hp.flip).symm.trans (hnone handle' handle hp.flip)⟩

/-- both sides prepare a statement in a session -/
theorem withPrepared (h : c.Mirrors g c') (heven : c.connected = c'.connected) (text : String) :
    (c.withPrepared text).Mirrors g (c'.withPrepared text) where
  left := h.left
  right := h.right
  next := by
    obtain ⟨n, hn, hn'⟩ := h.next
    exact ⟨n + 1, congrArg (· + 1) hn, congrArg (· + 1) hn'⟩
  known handle handle' hp := by
    obtain ⟨n, hn, hn'⟩ := h.next
    obtain ⟨m, rfl, rfl⟩ := hp
    have hlatest : (g.left.handle + m == c.nextHandle) = (g.right.handle + m == c'.nextHandle) := by
      rw [hn, hn', Bool.eq_iff_iff, beq_iff_eq, beq_iff_eq]
      omega
    simp only [Client.withPrepared, List.lookup_cons, hlatest, h.known _ _ ⟨m, rfl, rfl⟩]
  uneven hne := absurd heven hne

/-- both sides hear of a failure -/
theorem told (h : c.Mirrors g c') (cause : NativeError) : (c.told cause).Mirrors g (c'.told cause) := by
  unfold Client.told
  split
  · exact { h with uneven := fun hne => absurd rfl hne }
  · exact h

theorem opened (h : c.Mirrors g c') : c.opened.Mirrors g c'.opened :=
  { h with uneven := fun hne => absurd rfl hne }

/-- a session is opened where there was none, and the other side has one -/
theorem opened_left (h : c.Mirrors g c') (hlive : c'.connected = true) : c.opened.Mirrors g c' :=
  { h with uneven := fun hne => absurd hlive.symm hne }

theorem shut (h : c.Mirrors g c') : c.shut.Mirrors g c'.shut := by
  refine ⟨(id_shut c).trans h.left, (id_shut c').trans h.right, ?_, fun handle handle' hp => ?_, fun hne => ?_⟩
  · rw [nextHandle_shut, nextHandle_shut]
    exact h.next
  · by_cases heven : c.connected = c'.connected
    · unfold Client.shut
      rw [heven]
      split
      · rfl
      · exact h.known handle handle' hp
    · -- only one of them forgets, and there is nothing of the holder's to forget
      have hnone := (h.uneven heven).2 handle handle' hp
      have hnone' := (h.known handle handle' hp).symm.trans hnone
      have hempty : ∀ client : Client, ∀ key, client.prepared.lookup key = none →
          client.shut.prepared.lookup key = none := by
        intro client key hkey
        unfold Client.shut
        split
        · rfl
        · exact hkey
      rw [hempty c handle hnone, hempty c' handle' hnone']
  · exact absurd ((connected_shut c).trans (connected_shut c').symm) hne

end Client.Mirrors

/-! ## Calls of two clients -/

/-- how both get a session, or both do not -/
inductive Opens (client client' : Client) : Except NativeError Unit × Client → Except NativeError Unit × Client → Prop
  | refused (cause : NativeError) : Opens client client' (.error cause, client) (.error cause, client')
  | opened : Opens client client' (.ok (), client.opened) (.ok (), client'.opened)

/-- how both prepare a statement, or both do not -/
inductive Prepares (client client' : Client) (text : String) :
    Except NativeError Nat × Client → Except NativeError Nat × Client → Prop
  | failed (cause : NativeError) : Prepares client client' text (.error cause, client) (.error cause, client')
  | prepared : Prepares client client' text (.ok client.nextHandle, client.withPrepared text)
      (.ok client'.nextHandle, client'.withPrepared text)

/-- how both run a statement -/
inductive Answers (client client' : Client) :
    Except NativeError Reply × Client → Except NativeError Reply × Client → Prop
  | unanswered (cause : NativeError) : Answers client client' (.error cause, client) (.error cause, client')
  | failed (cause : NativeError) :
      Answers client client' (.error cause, client.told cause) (.error cause, client'.told cause)
  | answered (reply : Reply) : Answers client client' (.ok reply, client) (.ok reply, client')

section

open Timed

variable {g : Stage} {client client' : Client}

theorem Facing.delays {w w' : World} (h : Facing g w w') : w.server.delays = w'.server.delays :=
  Server.eq_of_outlook Server.delays h.server fun _ => rfl

theorem alike_opening (h : client.Mirrors g client') (limit : Option Duration) :
    Alike (Facing g) (Opens client client')
      ((Call.openSession client).within limit fun d => (.error (Op.connectLate d), client))
      ((Call.openSession client').within limit fun d => (.error (Op.connectLate d), client')) := by
  have hleft : client.opened.session.client = g.left.client := h.left
  have hright : client'.opened.session.client = g.right.client := h.right
  rw [Call.openSession_eq, Call.openSession_eq, within_act, within_act]
  refine .act (fun _ _ hw => hw) fun w w' hw => ?_
  rw [hw.delays]
  refine alike_within_wait limit (fun _ => trivial) (fun _ => trivial) ?_ fun d => .refused _
  refine .act (fun _ _ hw => (facing_accept hw hleft hright).2) fun w w' hw => .done ?_
  rw [(facing_accept hw hleft hright).1]
  cases (Server.accept client'.opened.session w'.server).1 with
  | none => exact .opened
  | some cause => exact .refused cause

theorem alike_preparing (h : client.Mirrors g client') (text : String) (limit : Option Duration) :
    Alike (Facing g) (Prepares client client' text)
      ((Call.prepare text limit client).within limit fun d => (.error (Op.statementLate d), client))
      ((Call.prepare text limit client').within limit fun d => (.error (Op.statementLate d), client')) := by
  have hleft : client.session.client = g.left.client := h.left
  have hright : client'.session.client = g.right.client := h.right
  rw [Call.prepare_eq, Call.prepare_eq, within_act, within_act]
  refine .act (fun _ _ hw => hw) fun w w' hw => ?_
  rw [hw.delays]
  refine alike_within_wait limit (fun _ _ => trivial) (fun _ _ => trivial) ?_ fun d => .failed _
  refine .act (fun _ _ hw => facing_note hw h.left h.right rfl) fun _ _ _ => ?_
  refine .act (fun _ _ hw => (facing_endPrepare hw hleft hright).2) fun w w' hw => .done ?_
  rw [(facing_endPrepare hw hleft hright).1]
  cases (Server.endPrepare client'.session text w'.server).1 with
  | none => exact .prepared
  | some cause => exact .failed cause

theorem alike_finish (h : client.Mirrors g client') (request : Request) (text : String) :
    Alike (Facing g) (Answers client client') (Call.finish request text client)
      (Call.finish request text client') := by
  have hleft : client.session.client = g.left.client := h.left
  have hright : client'.session.client = g.right.client := h.right
  rw [Call.finish_eq, Call.finish_eq]
  refine .act (fun _ _ hw => (facing_endRun hw hleft hright).2) fun w w' hw => .done ?_
  rw [(facing_endRun hw hleft hright).1]
  cases (Server.endRun client'.session request text w'.server).1 with
  | ok reply => exact .answered reply
  | error cause => exact .failed cause

theorem alike_querying (h : client.Mirrors g client') (text : String) (limit : Option Duration) :
    Alike (Facing g) (Answers client client')
      ((Call.query text limit client).within limit fun d => (.error (Op.statementLate d), client))
      ((Call.query text limit client').within limit fun d => (.error (Op.statementLate d), client')) := by
  rw [Call.query_eq, Call.query_eq, within_act, within_act]
  refine .act (fun _ _ hw => hw) fun w w' hw => ?_
  rw [hw.delays]
  refine alike_within_wait limit (fun _ => Call.prompt_finish _ _ _) (fun _ => Call.prompt_finish _ _ _) ?_
    fun d => .unanswered _
  exact .act (fun _ _ hw => facing_note hw h.left h.right rfl) fun _ _ _ => alike_finish h _ _

/-- a statement of the holder's is run on both sides, or is unknown on both -/
theorem alike_executing (h : client.Mirrors g client') {handle handle' : Nat} (hp : g.Paired handle handle')
    (binds : List Datum) (limit : Option Duration) :
    Alike (Facing g) (Answers client client')
      ((Call.execute handle binds limit client).within limit fun d => (.error (Op.statementLate d), client))
      ((Call.execute handle' binds limit client').within limit fun d => (.error (Op.statementLate d), client')) := by
  have hknown := h.known handle handle' hp
  cases hl : client'.prepared.lookup handle' with
  | none =>
    rw [Call.execute_eq_none binds limit (hknown.trans hl), Call.execute_eq_none binds limit hl]
    cases limit <;> exact .done (.unanswered _)
  | some text =>
    rw [Call.execute_eq binds limit (hknown.trans hl), Call.execute_eq binds limit hl]
    simp only [within_act]
    refine .act (fun _ _ hw => facing_note hw h.left h.right rfl) fun _ _ _ => ?_
    refine .act (fun _ _ hw => hw) fun w w' hw => ?_
    rw [hw.delays]
    exact alike_within_wait limit (Call.prompt_finish _ _ _) (Call.prompt_finish _ _ _) (alike_finish h _ _)
      fun d => .unanswered _

/-- where everybody is let in in time, a session that one side opens is not seen from the other -/
theorem leads_opening (hid : client.id = g.left.client) (hfree : g.free) {limit : Option Duration}
    (hlimit : g.config.connectLimit = .ok limit) :
    Leads (Facing g) (· = (.ok (), client.opened))
      ((Call.openSession client).within limit fun d => (.error (Op.connectLate d), client)) := by
  have haccept : ∀ s : Server, s.Welcomes g.config →
      Server.accept client.opened.session s =
        ((none : Option NativeError), s.note (.opened client.opened.session)) := by
    intro s hs
    unfold Server.accept
    rw [hs.refusals]
  rw [Call.openSession_eq, within_act]
  refine .act (fun _ _ hw => hw) fun w w' hw => ?_
  refine leads_within_wait (fun _ => trivial) ?_ fun d hd => (hw.welcome hfree).limit d (hd ▸ hlimit)
  refine .act (fun w w' hw => ?_) fun w w' hw => .done ?_
  · unfold World.onServer
    rw [haccept _ (hw.welcome hfree)]
    exact facing_note_left hw hid rfl
  · rw [haccept _ (hw.welcome hfree)]

end

end SqlSession
