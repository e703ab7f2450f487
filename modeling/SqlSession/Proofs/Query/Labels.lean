/-
Names of sub-queries in conditions.

A sub-query may have a name, for where it stands for a table. In a condition a server reads no name, only the query in
parentheses. Memberships leave the name out; existences and comparisons write it behind the query, so one query is put
into a statement in two ways. Main results:
- `render_sub`: what a condition with a sub-query renders to, by the kind of its operator;
- `Draft.bare`: the draft with no names of sub-queries in its conditions, so what statements should be compiled from;
- `grown_chain`, `grown_joins`, `grown_compile`: a name makes a text longer and changes neither the values nor what a
  draft is refused for;
- `labels_in_conditions`: so a statement is right if and only if each sub-query of its conditions stands in a membership
  or has no name.
-/
import SqlSession.Proofs.Query.Alignment
import SqlSession.Proofs.Query.Validity

namespace SqlSession

/-- both fail for the same reason, or both succeed with related results -/
inductive Together {α β : Type} (R : α → β → Prop) : Except Error α → Except Error β → Prop where
  | failed (e : Error) : Together R (.error e) (.error e)
  | succeeded {a : α} {b : β} (related : R a b) : Together R (.ok a) (.ok b)

namespace Together

variable {α β γ δ : Type} {R : α → β → Prop} {S : γ → δ → Prop}

theorem refl {R : α → α → Prop} (h : ∀ a, R a a) (x : Except Error α) : Together R x x := by
  cases x with
  | error e => exact .failed e
  | ok a => exact .succeeded (h a)

theorem bind {x : Except Error α} {y : Except Error β} {f : α → Except Error γ} {g : β → Except Error δ}
    (h : Together R x y) (hnext : ∀ {a b}, R a b → Together S (f a) (g b)) : Together S (x >>= f) (y >>= g) := by
  cases h with
  | failed e => exact .failed e
  | succeeded related => exact hnext related

theorem error_iff {x : Except Error α} {y : Except Error β} (h : Together R x y) (e : Error) :
    y = .error e ↔ x = .error e := by
  cases h with
  | failed e => simp
  | succeeded related => simp

theorem ok {x : Except Error α} {b : β} (h : Together R x (.ok b)) : ∃ a, x = .ok a ∧ R a b := by
  cases h with
  | succeeded related => exact ⟨_, rfl, related⟩

end Together

namespace Query

/-! ## Texts that have grown -/

theorem isEmpty_eq_false_of_pos {text : String} (h : 0 < text.length) : text.isEmpty = false := by
  simpa [Nat.pos_iff_ne_zero] using h

/-- the second statement is the first if something holds, and has a longer text otherwise -/
inductive Grown (p : Prop) (s t : Statement) : Prop where
  | same (holds : p) (eq : t = s)
  | longer (fails : ¬p) (binds : t.binds = s.binds) (filled : 0 < s.text.length) (length : s.text.length < t.text.length)

namespace Section

def ofStatements (ss : List Statement) : Section := ⟨ss.map Statement.text, ss.flatMap Statement.binds⟩

/-- the length of the parts, with a space behind each -/
def weight (s : Section) : Nat := (s.parts.map fun part => part.length + 1).sum

/-- the second section is the first if something holds, and has longer parts otherwise -/
inductive Grown (p : Prop) (a b : Section) : Prop where
  | same (holds : p) (eq : b = a)
  | longer (fails : ¬p) (binds : b.binds = a.binds) (filled : 1 < a.weight) (weight : a.weight < b.weight)

theorem weight_append (a b : Section) : (a ++ b).weight = a.weight + b.weight := by
  simp [weight]

theorem weight_ofStatement (s : Statement) : (ofStatement s).weight = s.text.length + 1 := by
  simp [weight, ofStatement]

theorem weight_statement {s : Section} (h : 0 < s.weight) : s.statement.text.length + 1 = s.weight := by
  obtain ⟨parts, binds⟩ := s
  simp only [statement, weight] at h ⊢
  induction parts with
  | nil => simp at h
  | cons part rest ih =>
    cases rest with
    | nil => simp [Text.joinWith]
    | cons next rest =>
      have hrest := ih (by simp)
      simp only [Text.joinWith, String.length_append, List.map_cons, List.sum_cons] at hrest ⊢
      have hspace : " ".length = 1 := rfl
      omega

end Section

section

variable {p q : Prop} {s t u : Statement} {a a' b b' : Section}

namespace Section.Grown

theorem refl (a : Section) : Grown True a a := .same trivial rfl

theorem congr (h : Grown p a b) (hp : p ↔ q) : Grown q a b := by
  cases h with
  | same holds eq => exact .same (hp.1 holds) eq
  | longer fails binds filled weight => exact .longer (fun hq => fails (hp.2 hq)) binds filled weight

theorem append (h : Grown p a b) (h' : Grown q a' b') : Grown (p ∧ q) (a ++ a') (b ++ b') := by
  cases h with
  | same hp heq =>
    subst heq
    cases h' with
    | same hq heq => exact .same ⟨hp, hq⟩ (by rw [heq])
    | longer hq hbinds hfilled hweight =>
      refine .longer (fun h => hq h.2) (by rw [binds_append, binds_append, hbinds]) ?_ ?_
      all_goals simp only [weight_append]; omega
  | longer hp hbinds hfilled hweight =>
    have hmore : a'.weight ≤ b'.weight ∧ b'.binds = a'.binds := by
      cases h' with
      | same _ heq => exact ⟨heq ▸ le_rfl, by rw [heq]⟩
      | longer _ hbinds' _ hweight' => exact ⟨hweight'.le, hbinds'⟩
    refine .longer (fun h => hp h.1) (by rw [binds_append, binds_append, hbinds, hmore.2]) ?_ ?_
    all_goals simp only [weight_append]; omega

theorem statement (h : Grown p a b) : Query.Grown p a.statement b.statement := by
  cases h with
  | same hp heq => exact .same hp (by rw [heq])
  | longer hp hbinds hfilled hweight =>
    have ha := weight_statement (s := a) (by omega)
    have hb := weight_statement (s := b) (by omega)
    exact .longer hp hbinds (by omega) (by omega)

end Section.Grown

namespace Grown

theorem congr (h : Grown p s t) (hp : p ↔ q) : Grown q s t := by
  cases h with
  | same holds eq => exact .same (hp.1 holds) eq
  | longer fails binds filled length => exact .longer (fun hq => fails (hp.2 hq)) binds filled length

theorem behind (h : Grown p s t) : Grown p (u ++ s) (u ++ t) := by
  cases h with
  | same hp heq => exact .same hp (by rw [heq])
  | longer hp hbinds hfilled hlength =>
    refine .longer hp (by simp [hbinds]) ?_ ?_
    all_goals simp only [Statement.text_append, String.length_append]; omega

/-- as a part of a section -/
theorem part (h : Grown p s t) : Section.Grown p (.ofStatement s) (.ofStatement t) := by
  cases h with
  | same hp heq => exact .same hp (by rw [heq])
  | longer hp hbinds hfilled hlength =>
    refine .longer hp hbinds ?_ ?_
    all_goals simp only [Section.weight_ofStatement]; omega

theorem body (h : Grown p s t) : Section.Grown p (.ofBody s) (.ofBody t) := by
  cases h with
  | same hp heq => exact .same hp (by rw [heq])
  | longer hp hbinds hfilled hlength =>
    have hpart : ∀ {r : Statement}, 0 < r.text.length → Section.ofBody r = .ofStatement r := by
      intro r hr
      simp [Section.ofBody, Section.ofStatement, isEmpty_eq_false_of_pos hr]
    rw [hpart hfilled, hpart (by omega)]
    exact (longer hp hbinds hfilled hlength : Grown p s t).part

theorem binds_eq (h : Grown p s t) : t.binds = s.binds := by
  cases h with
  | same _ heq => rw [heq]
  | longer _ hbinds => exact hbinds

theorem text_eq_iff (h : Grown p s t) : t.text = s.text ↔ p := by
  cases h with
  | same hp heq => exact iff_of_true (by rw [heq]) hp
  | longer hp _ _ hlength => exact iff_of_false (fun heq => hlength.ne (congrArg String.length heq.symm)) hp

end Grown

end

/-! ## Sub-queries without names -/

namespace SubQuery

def IsNamed (q : SubQuery) : Prop := q.label.getD "" ≠ ""

/-- the query without its name -/
def bare (q : SubQuery) : SubQuery := { q with label := none }

theorem labelText_eq_empty {q : SubQuery} : q.labelText = "" ↔ ¬q.IsNamed := by
  unfold labelText IsNamed
  cases q.label with
  | none => simp
  | some label => by_cases h : label = "" <;> simp [h]

theorem render_unnamed {q : SubQuery} (h : ¬q.IsNamed) : q.render = q.enclosed := by
  rw [render_eq, labelText_eq_empty.2 h]
  apply Statement.ext
  · exact String.append_empty
  · exact List.append_nil _

theorem grown_render (q : SubQuery) : Grown (¬q.IsNamed) q.enclosed q.render := by
  by_cases h : q.IsNamed
  · have hlabel : 0 < q.labelText.length :=
      Nat.pos_of_ne_zero fun hzero => labelText_eq_empty.1 (String.length_eq_zero_iff.1 hzero) h
    have hopen : 0 < q.enclosed.text.length := by
      simp only [enclosed, String.length_append]
      exact Nat.add_pos_left (Nat.add_pos_left (by decide) _) _
    rw [render_eq]
    refine .longer (not_not.2 h) (List.append_nil _) hopen ?_
    simp only [Statement.text_append, Statement.text_ofText, String.length_append]
    omega
  · exact .same h (render_unnamed h)

end SubQuery

/-- the right side without the name of its sub-query -/
def Comparand.bare : Comparand → Comparand
  | operand (.sub q) => .operand (.sub q.bare)
  | comparand => comparand

namespace Condition

def bare (c : Condition) : Condition := { c with comparand := c.comparand.bare }

/-- the condition shows no name of a sub-query -/
def IsBare (c : Condition) : Prop :=
  ∀ q, c.comparand = .operand (.sub q) → Spells c.operator "in" ∨ ¬q.IsNamed

/-- the field and the operator in front of a right side -/
def around (c : Condition) (side : Statement) : Statement :=
  .join " " (c.fieldParts ++ [.ofText c.trimmedOperator, side])

theorem binds_around (c : Condition) (side : Statement) : (c.around side).binds = side.binds := by
  have hfield : c.fieldParts.flatMap Statement.binds = [] := by
    unfold fieldParts
    split <;> rfl
  simp [around, Statement.join, hfield]

/-- how a condition shows a sub-query: in a membership alone, else as though it stood for a table -/
def side (c : Condition) (q : SubQuery) : Statement :=
  if Spells c.operator "in" then q.enclosed else q.render

section

variable {c : Condition} {q : SubQuery}

/-- only a range cannot have a sub-query -/
theorem render_sub (h : c.comparand = .operand (.sub q)) :
    c.render =
      if Spells c.operator "between" then
        .error (.invalidArgument (c.trimmedOperator ++ " for `" ++ c.field ++ "` needs exactly two values"))
      else .ok (c.around (c.side q)) := by
  unfold render side
  simp only [← kind_eq_range, ← kind_eq_membership]
  cases c.kind with
  | membership => rw [membershipParts, h]; rfl
  | range => rw [rangeParts, h]; rfl
  | existence => rw [existenceParts, h]; rfl
  | other => rw [otherParts, h]; rfl

theorem comparand_bare (h : c.comparand = .operand (.sub q)) : c.bare.comparand = .operand (.sub q.bare) := by
  rw [bare, h]
  rfl

theorem side_bare (c : Condition) (q : SubQuery) : c.bare.side q.bare = q.enclosed := by
  have henclosed : q.bare.render = q.enclosed := SubQuery.render_unnamed (by simp [SubQuery.IsNamed, SubQuery.bare])
  unfold side
  rw [henclosed]
  exact ite_self _

theorem isBare_iff (h : c.comparand = .operand (.sub q)) : c.IsBare ↔ Spells c.operator "in" ∨ ¬q.IsNamed := by
  constructor
  · exact fun hb => hb q h
  · rintro hb _ heq
    cases h.symm.trans heq
    exact hb

theorem grown_side (h : c.comparand = .operand (.sub q)) : Grown c.IsBare q.enclosed (c.side q) := by
  unfold side
  split
  · next hin => exact .same ((isBare_iff h).2 (.inl hin)) rfl
  · next hin => exact q.grown_render.congr ((isBare_iff h).trans (or_iff_right hin)).symm

theorem grown_around {p : Prop} {s t : Statement} (c : Condition) (h : Grown p s t) :
    Grown p (c.around s) (c.around t) := by
  have hsplit : ∀ side, c.around side =
      (Section.ofStatements (c.fieldParts ++ [.ofText c.trimmedOperator]) ++ .ofStatement side).statement := by
    intro side
    apply Statement.ext <;> simp [around, Statement.join, Section.statement, Section.ofStatements, Section.ofStatement]
  rw [hsplit, hsplit]
  exact (((Section.Grown.refl _).append h.part).congr (.of_eq (true_and _))).statement

/-- **One condition.** -/
theorem grown_render (c : Condition) : Together (Grown c.IsBare) c.bare.render c.render := by
  by_cases hsub : ∃ q, c.comparand = .operand (.sub q)
  · obtain ⟨q, hq⟩ := hsub
    rw [render_sub (comparand_bare hq), render_sub hq, side_bare]
    by_cases hrange : Spells c.operator "between"
    · rw [if_pos hrange, if_pos (show Spells c.bare.operator "between" from hrange)]
      exact .failed _
    · rw [if_neg hrange, if_neg (show ¬Spells c.bare.operator "between" from hrange)]
      exact .succeeded (c.grown_around (grown_side hq))
  · -- without a sub-query there is no name to leave out
    have hsame : c.bare = c := by
      unfold bare
      cases hc : c.comparand with
      | operand value =>
        cases value with
        | sub q => exact absurd ⟨q, hc⟩ hsub
        | _ => simp only [Comparand.bare, ← hc]
      | _ => simp only [Comparand.bare, ← hc]
    rw [hsame]
    exact .refl (fun s => .same (fun q hq => absurd ⟨q, hq⟩ hsub) rfl) _

end

theorem isUnset_bare (c : Condition) : c.bare.isUnset = c.isUnset := by
  unfold isUnset bare
  cases c.comparand with
  | operand value => cases value <;> rfl
  | _ => rfl

/-- **Rows of conditions.** -/
theorem grown_renderAll (keep : Bool) (cs : List Condition) :
    Together (fun ss ts => Section.Grown (∀ c ∈ cs, c.IsBare) (.ofStatements ss) (.ofStatements ts))
      (renderAll keep (cs.map bare)) (renderAll keep cs) := by
  induction cs generalizing keep with
  | nil => exact .succeeded (.same (by simp) rfl)
  | cons c rest ih =>
    rw [List.map_cons, renderAll, renderAll, isUnset_bare]
    cases hu : c.isUnset with
    | true =>
      have hbare : c.IsBare := by
        intro q hq
        rw [isUnset, hq] at hu
        cases hu
      simpa [hbare] using ih keep
    | false =>
      refine c.grown_render.bind fun {s t} hst => (ih true).bind fun {ss ts} hrest => .succeeded ?_
      have hfirst : Grown c.IsBare (if keep then c.bare.link s else s) (if keep then c.link t else t) := by
        split
        · exact hst.behind
        · exact hst
      exact (hfirst.part.append hrest).congr List.forall_mem_cons.symm

theorem grown_chain (keep : Bool) (cs : List Condition) :
    Together (Grown (∀ c ∈ cs, c.IsBare)) (chain keep (cs.map bare)) (chain keep cs) :=
  (grown_renderAll keep cs).bind fun h => .succeeded h.statement

end Condition

/-! ## Drafts -/

namespace Draft

/-- the draft without names of sub-queries in its conditions; tables that are sub-queries keep theirs -/
def bare (d : Draft) : Draft :=
  { d with
    wheres := d.wheres.map Condition.bare
    havings := d.havings.map Condition.bare
    joinConditions := d.joinConditions.map fun entry => (entry.1, entry.2.bare) }

/-- all conditions that are recorded -/
def conditions (d : Draft) : List Condition :=
  d.wheres ++ d.havings ++ d.joinConditions.map Prod.snd

/-- the conditions of WHERE and HAVING, and those of joins that are shown -/
def shownConditions (d : Draft) : List Condition :=
  d.wheres ++ d.havings ++ d.joins.flatMap fun join => conditionsOf d.joinConditions join.target.render.text

theorem grown_conditions (keyword : String) (cs : List Condition) :
    Together (Section.Grown (∀ c ∈ cs, c.IsBare)) (conditionSection keyword (cs.map Condition.bare))
      (conditionSection keyword cs) := by
  refine (Condition.grown_chain false cs).bind fun {s t} h => .succeeded ?_
  have hkeyword : Grown (∀ c ∈ cs, c.IsBare) (if s.text.isEmpty then s else .ofText (keyword ++ " ") ++ s)
      (if t.text.isEmpty then t else .ofText (keyword ++ " ") ++ t) := by
    cases h with
    | same hp heq => exact .same hp (by rw [heq])
    | longer hp hbinds hfilled hlength =>
      -- neither text is empty, so both have the keyword in front
      have hfilled' : 0 < t.text.length := by omega
      rw [isEmpty_eq_false_of_pos hfilled, isEmpty_eq_false_of_pos hfilled']
      exact (Grown.longer hp hbinds hfilled hlength).behind
  exact hkeyword.body

theorem conditionsOf_bare (conditions : List (String × Condition)) (table : String) :
    conditionsOf (conditions.map fun entry => (entry.1, entry.2.bare)) table =
      (conditionsOf conditions table).map Condition.bare := by
  simp only [conditionsOf, List.filter_map, List.map_map]
  rfl

theorem grown_join (conditions : List (String × Condition)) (join : Join) :
    Together (Section.Grown (∀ c ∈ conditionsOf conditions join.target.render.text, c.IsBare))
      (joinSection (conditions.map fun entry => (entry.1, entry.2.bare)) join) (joinSection conditions join) := by
  simp only [joinSection, conditionsOf_bare]
  refine (Condition.grown_chain true _).bind fun h => .succeeded ?_
  exact ((Section.Grown.refl _).append h.body).congr (.of_eq (true_and _))

theorem grown_joins (conditions : List (String × Condition)) (joins : List Join) :
    Together (Section.Grown (∀ c ∈ joins.flatMap fun join => conditionsOf conditions join.target.render.text, c.IsBare))
      (joinSections (conditions.map fun entry => (entry.1, entry.2.bare)) joins) (joinSections conditions joins) := by
  induction joins with
  | nil => exact .succeeded (.same (by simp) rfl)
  | cons join rest ih =>
    refine (grown_join conditions join).bind fun hfirst => ih.bind fun hrest => .succeeded ?_
    refine (hfirst.append hrest).congr ?_
    rw [List.flatMap_cons, List.forall_mem_append]

theorem grown_assemble (d : Draft) (head : List String) (data : Data) :
    Together (Grown (∀ c ∈ d.shownConditions, c.IsBare)) (d.bare.assemble head data) (d.assemble head data) := by
  refine (grown_joins d.joinConditions d.joins).bind fun hjoins => ?_
  refine (grown_conditions "WHERE" d.wheres).bind fun hwheres => ?_
  refine (grown_conditions "HAVING" d.havings).bind fun hhavings => ?_
  refine (Together.refl Eq.refl (d.duplicateSectionOf data)).bind fun {duplicate _} heq => .succeeded ?_
  subst heq
  have hall := ((((Section.Grown.refl (.ofParts head)).append hjoins).append (.refl (dataSection data))).append
    hwheres).append (.refl (groupSection d.groups)) |>.append hhavings |>.append (.refl (orderSection d.orders))
    |>.append (.refl (limitSection d.limit)) |>.append (.refl duplicate) |>.append (.refl (lockSection d.lock))
  refine (hall.congr ?_).statement
  simp only [shownConditions, List.forall_mem_append, true_and, and_true]
  tauto

theorem grown_compile (d : Draft) (command : Command) :
    Together (Grown (∀ c ∈ d.shownConditions, c.IsBare)) (d.bare.compile command) (d.compile command) := by
  have hguard : d.bare.hasEffectiveWhere = d.hasEffectiveWhere := by
    show (d.wheres.map Condition.bare).any _ = _
    simp only [hasEffectiveWhere, List.any_map, Function.comp_def, Condition.isUnset_bare]
  have hcheck : command.check d.bare = command.check d := by
    cases command <;> simp only [Command.check, hguard]
  have hhead : ∀ table, command.head d.bare table = command.head d table := fun table => by cases command <;> rfl
  rw [compile_eq, compile_eq, hcheck]
  refine (Together.refl Eq.refl _).bind fun _ => (Together.refl Eq.refl d.target).bind fun {table _} heq => ?_
  subst heq
  rw [hhead]
  exact d.grown_assemble _ _

/-- **Sub-queries in conditions.** A condition with a sub-query shows its text in parentheses and its values once, behind
field and operator; only a range is refused. Behind the parentheses there is nothing in a membership, and the name of the
sub-query in every other condition. So a draft is refused for the same reasons as it would be without these names, and
compiles to the same values, but to the same text if and only if no sub-query with a name stands in a condition that is
shown and is no membership. -/
theorem labels_in_conditions (d : Draft) (command : Command) :
    (∀ c ∈ d.conditions, ∀ q, c.comparand = .operand (.sub q) →
      (Spells c.operator "between" → ∃ reason, c.render = .error (.invalidArgument reason)) ∧
      (¬Spells c.operator "between" →
        c.bare.render = .ok (c.around q.enclosed) ∧
        c.render = .ok (c.around (if Spells c.operator "in" then q.enclosed else q.enclosed ++ .ofText q.labelText)) ∧
        ∀ s, c.render = .ok s → s.binds = q.statement.binds)) ∧
    (∀ e, d.compile command = .error e ↔ d.bare.compile command = .error e) ∧
    ∀ s, d.compile command = .ok s → ∃ t, d.bare.compile command = .ok t ∧ s.binds = t.binds ∧
      (s.text = t.text ↔ ∀ c ∈ d.shownConditions, c.IsBare) := by
  refine ⟨fun c _ q hq => ⟨fun hrange => ?_, fun hrange => ?_⟩, (grown_compile d command).error_iff, fun s hs => ?_⟩
  · rw [Condition.render_sub hq, if_pos hrange]
    exact ⟨_, rfl⟩
  · have hrender : c.render = .ok (c.around (c.side q)) := by rw [Condition.render_sub hq, if_neg hrange]
    refine ⟨?_, ?_, fun s hs => ?_⟩
    · rw [Condition.render_sub (Condition.comparand_bare hq), if_neg (show ¬Spells c.bare.operator _ from hrange),
        Condition.side_bare]
      rfl
    · rw [hrender, Condition.side, SubQuery.render_eq]
    · obtain rfl := Except.ok.inj (hrender.symm.trans hs)
      rw [Condition.binds_around, (Condition.grown_side hq).binds_eq]
      rfl
  · obtain ⟨t, ht, hgrown⟩ := (hs ▸ grown_compile d command).ok
    exact ⟨t, ht, hgrown.binds_eq, hgrown.text_eq_iff⟩

def namedQuery : SubQuery := ⟨⟨"SELECT b FROM v WHERE c = ?", [.int 1]⟩, some "x"⟩

def existing : Condition := ⟨.or, "", "EXISTS", .operand (.sub namedQuery)⟩

/-- a sub-query with a name, joined and in conditions of all kinds -/
def named : Draft :=
  { fresh "" with
    table := some "t"
    joins := [⟨.plain, .sub namedQuery, "x.b = t.b"⟩]
    wheres := [⟨.and, "b", "Not  In", .operand (.sub namedQuery)⟩, existing]
    havings := [⟨.and, "b", ">", .operand (.sub namedQuery)⟩] }

/-- the name is right behind the joined query alone, but the last two conditions show it as well -/
theorem labels_in_conditions_named :
    (named.compile .select).map Statement.text =
        .ok ("SELECT * FROM t JOIN (SELECT b FROM v WHERE c = ?) x on x.b = t.b "
          ++ "WHERE b Not  In (SELECT b FROM v WHERE c = ?) OR EXISTS (SELECT b FROM v WHERE c = ?) x "
          ++ "HAVING b > (SELECT b FROM v WHERE c = ?) x") ∧
      (named.bare.compile .select).map Statement.text =
        .ok ("SELECT * FROM t JOIN (SELECT b FROM v WHERE c = ?) x on x.b = t.b "
          ++ "WHERE b Not  In (SELECT b FROM v WHERE c = ?) OR EXISTS (SELECT b FROM v WHERE c = ?) "
          ++ "HAVING b > (SELECT b FROM v WHERE c = ?)") ∧
      existing.render = .ok (existing.around (namedQuery.enclosed ++ .ofText " x")) ∧
      ∃ s t, named.compile .select = .ok s ∧ named.bare.compile .select = .ok t ∧ s.binds = t.binds ∧
        s.text ≠ t.text := by
  obtain ⟨hconditions, -, hstatement⟩ := labels_in_conditions named .select
  obtain ⟨-, hexists⟩ := hconditions existing (by simp [conditions, named]) namedQuery rfl
  obtain ⟨-, hrender, -⟩ := hexists (by decide)
  obtain ⟨s, hs⟩ : ∃ s, named.compile .select = .ok s := ⟨_, rfl⟩
  obtain ⟨t, ht, hbinds, htext⟩ := hstatement s hs
  refine ⟨by decide +kernel, by decide +kernel, hrender, s, t, hs, ht, hbinds, fun heq => ?_⟩
  rcases htext.1 heq existing (by simp [shownConditions, named]) namedQuery rfl with hin | hunnamed
  · exact absurd hin (by decide)
  · exact hunnamed (by simp [SubQuery.IsNamed, namedQuery])

end Draft

end Query

end SqlSession
