/-
Unset conditions leave no trace.

A condition without a comparand is recorded like any other and then passed over: by the guard against changing a whole
table, by the rows of WHERE, HAVING and joins, and by the check of what an operator compares with.
- `Padded`: a list with further elements of some kind put in anywhere;
- `chain_padded`, `hasEffectiveWhere_padded`, `compile_padded`: what unset conditions do not change;
- `renderAll_inRow`: a row of conditions is those that are not unset, with the connective of the later one between
  neighbours;
- `unset_invisible`: both for whole drafts.
-/
import SqlSession.Proofs.Query.JoinConditions
import SqlSession.Proofs.Scan.Layout

namespace SqlSession.Query

/-! ## Lists with elements put in -/

section

variable {α β : Type} {p : α → Bool} {l l' : List α}

/-- the second list is the first with elements of a kind put in at any positions -/
inductive Padded (p : α → Bool) : List α → List α → Prop where
  | nil : Padded p [] []
  | keep (a : α) {l l' : List α} (rest : Padded p l l') : Padded p (a :: l) (a :: l')
  | insert {a : α} (kind : p a = true) {l l' : List α} (rest : Padded p l l') : Padded p l (a :: l')

namespace Padded

theorem filter_eq (h : Padded p l l') : l'.filter (fun a => !p a) = l.filter (fun a => !p a) := by
  induction h with
  | nil => rfl
  | keep a rest ih => simp only [List.filter_cons, ih]
  | insert kind rest ih => simp only [List.filter_cons, kind, ih, Bool.not_true, Bool.false_eq_true, if_false]

/-- what is picked from the longer list is what is picked from the shorter one, and elements put in -/
theorem filter (q : α → Bool) (h : Padded p l l') : Padded p (l.filter q) (l'.filter q) := by
  induction h with
  | nil => exact .nil
  | keep a rest ih =>
    by_cases hq : q a
    · simp only [List.filter_cons, hq, if_true]
      exact .keep a ih
    · simpa [List.filter_cons, hq] using ih
  | @insert a kind _ _ rest ih =>
    by_cases hq : q a
    · simp only [List.filter_cons, hq, if_true]
      exact .insert kind ih
    · simpa [List.filter_cons, hq] using ih

theorem map {f : α → β} {q : β → Bool} (hf : ∀ a, p a = true → q (f a) = true) (h : Padded p l l') :
    Padded q (l.map f) (l'.map f) := by
  induction h with
  | nil => exact .nil
  | keep a rest ih => exact .keep (f a) ih
  | insert kind rest ih => exact .insert (hf _ kind) ih

end Padded

end

/-! ## Rows of conditions -/

namespace Condition

variable {conditions conditions' : List Condition}

theorem visible_padded (h : Padded isUnset conditions conditions') : visible conditions' = visible conditions :=
  h.filter_eq

theorem chain_padded (h : Padded isUnset conditions conditions') (keep : Bool) :
    chain keep conditions' = chain keep conditions := by
  have hall : renderAll keep conditions' = renderAll keep conditions := by
    rw [renderAll_visible, visible_padded h, ← renderAll_visible]
  rw [chain, chain, hall]

/-- statements in a row, each but the first behind its connective -/
def inRow : List (Connective × Statement) → Statement
  | [] => .ofText ""
  | [entry] => entry.2
  | first :: second :: rest => first.2 ++ .ofText (" " ++ second.1.text ++ " ") ++ inRow (second :: rest)

/-- what the conditions that are not unset render to, one by one -/
def Shown (conditions : List Condition) (shown : List (Connective × Statement)) : Prop :=
  List.Forall₂ (fun c entry => entry.1 = c.connective ∧ c.render = .ok entry.2) (visible conditions) shown

/-- conditions behind their connectives, with the first of them bare, are in a row -/
theorem join_linked (first : Connective × Statement) (rest : List (Connective × Statement)) :
    Statement.join " " (first.2 :: rest.map fun entry => .ofText (entry.1.text ++ " ") ++ entry.2) =
      inRow (first :: rest) := by
  induction rest generalizing first with
  | nil => exact Statement.ext rfl (List.append_nil _)
  | cons second rest ih =>
    have hfirst : ∀ (t s : Statement) (others : List Statement),
        Statement.join " " ((t ++ s) :: others) = t ++ Statement.join " " (s :: others) := by
      intro t s others
      cases others <;> apply Statement.ext <;> simp [Statement.join, Text.joinWith, String.append_assoc]
    rw [List.map_cons, Statement.join_cons, hfirst, ih, inRow]
    apply Statement.ext <;> simp [String.append_assoc]

theorem renderAll_shown {parts : List Statement} (h : renderAll true conditions = .ok parts) :
    ∃ shown, Shown conditions shown ∧ parts = shown.map fun entry => .ofText (entry.1.text ++ " ") ++ entry.2 := by
  have hlinked := renderAll_linked h
  unfold Shown
  generalize visible conditions = seen at hlinked
  clear h
  induction hlinked with
  | nil => exact ⟨[], .nil, rfl⟩
  | @cons c _ _ _ hfirst _ ih =>
    obtain ⟨s, hs, rfl⟩ := hfirst
    obtain ⟨shown, hshown, hothers⟩ := ih
    exact ⟨(c.connective, s) :: shown, .cons ⟨rfl, hs⟩ hshown, congrArg _ hothers⟩

/-- a row that does not keep its first connective -/
theorem renderAll_inRow {parts : List Statement} (h : renderAll false conditions = .ok parts) :
    ∃ shown, Shown conditions shown ∧ .join " " parts = inRow shown := by
  unfold Shown
  induction conditions with
  | nil =>
    obtain rfl := Except.ok.inj h
    exact ⟨[], .nil, rfl⟩
  | cons c rest ih =>
    cases hu : c.isUnset with
    | true =>
      rw [renderAll, if_pos hu] at h
      rw [visible, List.filter_cons_of_neg (by simp [hu])]
      exact ih h
    | false =>
      obtain ⟨s, others, hs, hothers, rfl⟩ := (renderAll_cons_ok hu).1 h
      obtain ⟨shown, hshown, rfl⟩ := renderAll_shown hothers
      rw [visible, List.filter_cons_of_pos (by simp [hu])]
      exact ⟨(c.connective, s) :: shown, .cons ⟨rfl, hs⟩ hshown, join_linked (c.connective, s) shown⟩

end Condition

namespace Draft

/-- the second draft is the first with unset conditions put in -/
structure PaddedTo (d d' : Draft) : Prop where
  wheres : Padded Condition.isUnset d.wheres d'.wheres
  havings : Padded Condition.isUnset d.havings d'.havings
  joinConditions : Padded (fun entry => entry.2.isUnset) d.joinConditions d'.joinConditions
  others : d' = { d with wheres := d'.wheres, havings := d'.havings, joinConditions := d'.joinConditions }

variable {d d' : Draft}

theorem hasEffectiveWhere_padded (h : d.PaddedTo d') : d'.hasEffectiveWhere = d.hasEffectiveWhere := by
  have hvisible : ∀ e : Draft, e.hasEffectiveWhere = (Condition.visible e.wheres).any fun c => !c.isUnset := by
    intro e
    simp only [hasEffectiveWhere, Condition.visible, List.any_filter, Bool.and_self]
  rw [hvisible, hvisible, Condition.visible_padded h.wheres]

theorem conditionsOf_padded {conditions conditions' : List (String × Condition)}
    (h : Padded (fun entry => entry.2.isUnset) conditions conditions') (table : String) :
    Padded Condition.isUnset (conditionsOf conditions table) (conditionsOf conditions' table) :=
  (h.filter _).map fun _ hu => hu

theorem joinSections_padded {conditions conditions' : List (String × Condition)}
    (h : Padded (fun entry => entry.2.isUnset) conditions conditions') (joins : List Join) :
    joinSections conditions' joins = joinSections conditions joins := by
  induction joins with
  | nil => rfl
  | cons join rest ih =>
    have hjoin : joinSection conditions' join = joinSection conditions join := by
      simp only [joinSection, Condition.chain_padded (conditionsOf_padded h _)]
    rw [joinSections, joinSections, hjoin, ih]

theorem compile_padded (h : d.PaddedTo d') (command : Command) : d'.compile command = d.compile command := by
  have hcheck : command.check d' = command.check d := by
    cases command <;> simp only [Command.check, hasEffectiveWhere_padded h]
  have hwheres : conditionSection "WHERE" d'.wheres = conditionSection "WHERE" d.wheres := by
    rw [conditionSection, conditionSection, Condition.chain_padded h.wheres]
  have hhavings : conditionSection "HAVING" d'.havings = conditionSection "HAVING" d.havings := by
    rw [conditionSection, conditionSection, Condition.chain_padded h.havings]
  rw [compile_eq, compile_eq, hcheck]
  simp only [assemble, hwheres, hhavings, joinSections_padded h.joinConditions]
  rw [h.others]
  cases command <;> rfl

/-- a section shows these conditions behind its keyword; with an empty text it is left out -/
def ShownUnder (keyword : String) (conditions : List Condition) (s : Section) : Prop :=
  ∃ shown, Condition.Shown conditions shown ∧
    s = .ofBody (if (Condition.inRow shown).text.isEmpty then Condition.inRow shown
      else .ofText (keyword ++ " ") ++ Condition.inRow shown)

theorem shownUnder_conditionSection {keyword : String} {conditions : List Condition} {s : Section}
    (h : conditionSection keyword conditions = .ok s) : ShownUnder keyword conditions s := by
  obtain ⟨body, hbody, h⟩ := except_bind_ok.1 h
  obtain ⟨parts, hparts, hjoin⟩ := except_bind_ok.1 hbody
  obtain ⟨shown, hshown, hrow⟩ := Condition.renderAll_inRow hparts
  obtain rfl := Except.ok.inj h
  obtain rfl := Except.ok.inj hjoin
  exact ⟨shown, hshown, by rw [hrow]⟩

/-- **Unset conditions are invisible.** Unset conditions that are put in anywhere change nothing: no command compiles to
another statement or fails in another way, and the guard of changes answers as before. WHERE and HAVING show the
conditions that are not unset, in order and with the connective of the later one between neighbours. -/
theorem unset_invisible (d : Draft) :
    (∀ d', d.PaddedTo d' →
      (∀ command, d'.compile command = d.compile command) ∧ d'.hasEffectiveWhere = d.hasEffectiveWhere) ∧
    ∀ command s, d.compile command = .ok s →
      ∃ table, d.target = .ok table ∧ ∃ r : Rendered d command.data, s = r.statement (command.head d table) ∧
        ShownUnder "WHERE" d.wheres r.wheres ∧ ShownUnder "HAVING" d.havings r.havings := by
  constructor
  · intro d' h
    exact ⟨compile_padded h, hasEffectiveWhere_padded h⟩
  · intro command s h
    obtain ⟨-, table, htable, h⟩ := compile_eq_ok.1 h
    obtain ⟨r, rfl⟩ := assemble_eq_ok.1 h
    exact ⟨table, htable, r, rfl, shownUnder_conditionSection r.wheres_ok, shownUnder_conditionSection r.havings_ok⟩

/-- accounts of a user that may be left alone -/
def watched : Draft :=
  { fresh "p_" with
    table := some "accounts"
    joins := [⟨.left, .table "p_users u", "u.id = user"⟩]
    joinConditions := [("p_users u", ⟨.and, "u.active", "=", .operand (.bind (.int 1))⟩)]
    wheres := [⟨.or, "state", "in", .list [.int 1, .int 2]⟩, ⟨.or, "kept", "is", .null⟩] }

/-- the same with unset conditions of all kinds -/
def watchedPadded : Draft :=
  { watched with
    joinConditions := [("p_users u", ⟨.or, "u.age", "between", .unset⟩),
      ("p_users u", ⟨.and, "u.active", "=", .operand (.bind (.int 1))⟩)]
    wheres := [⟨.and, "a", "not in", .unset⟩, ⟨.or, "state", "in", .list [.int 1, .int 2]⟩,
      ⟨.and, "", "exists", .unset⟩, ⟨.or, "kept", "is", .null⟩, ⟨.and, "b", "=", .unset⟩]
    havings := [⟨.or, "cnt", "between", .unset⟩] }

theorem padded_watched : watched.PaddedTo watchedPadded where
  wheres := .insert rfl (.keep _ (.insert rfl (.keep _ (.insert rfl .nil))))
  havings := .insert rfl .nil
  joinConditions := .insert rfl (.keep _ .nil)
  others := rfl

/-- a deletion that the unset conditions neither guard nor widen -/
theorem unset_invisible_watched :
    watched.PaddedTo watchedPadded ∧
      watchedPadded.compile (.delete false) = watched.compile (.delete false) ∧
      watchedPadded.hasEffectiveWhere = watched.hasEffectiveWhere ∧
      ∃ s, watchedPadded.compile (.delete false) = .ok s ∧
        s.text = "DELETE p_accounts FROM p_accounts LEFT JOIN p_users u on u.id = user AND u.active = ? "
          ++ "WHERE state in ( ?, ? ) OR kept is NULL" ∧
        ∃ r : Rendered watchedPadded .none, ShownUnder "WHERE" watchedPadded.wheres r.wheres := by
  obtain ⟨hcompile, hguard⟩ := (unset_invisible watched).1 watchedPadded padded_watched
  obtain ⟨-, -, r, -, hwheres, -⟩ := (unset_invisible watchedPadded).2 (.delete false) _ rfl
  exact ⟨padded_watched, hcompile _, hguard, _, rfl, by decide +kernel, r, hwheres⟩

end Draft

end SqlSession.Query
