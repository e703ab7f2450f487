/-
Conditions of joins: where they are shown, and how often.

A condition that is recorded for a joined table is kept under the table's name with the prefix of that moment. It is shown
behind every join whose target reads exactly like this name, and nothing is said if there is none. So a name without the
alias that the join has, a sub-query under a prefix, or a table that is joined twice makes a condition go missing or
appear again (`join_conditions_shown`).
- `joinConditions_record`, `joinConditions_afterAll`: conditions are kept in the order in which they are recorded;
- `joinSections_shown`, `compiled_joins`: every join with its own condition and the ones behind it;
- `count_shown`: how often each recorded condition is shown.
-/
import SqlSession.Proofs.Query.Upkeep

namespace SqlSession.Query

/-! ## What is recorded -/

namespace Draft

/-- the condition that a clause records for a join, under the name that the draft gives the table -/
def joinFilter? (d : Draft) : Clause → Option (String × Condition)
  | .joinFilter table condition => some (d.prefixed table, condition)
  | _ => none

/-- a clause records its own condition behind the others, if it has one -/
theorem joinConditions_record {d d' : Draft} {clause : Clause} (h : d.record clause = .ok d') :
    d'.joinConditions = d.joinConditions ++ (d.joinFilter? clause).toList := by
  by_cases hf : clause.family? = some .joinConditions
  · cases clause with
    | joinFilter table condition =>
      obtain rfl := Except.ok.inj h
      rfl
    | option name => simp only [Clause.family?] at hf; split at hf <;> cases hf
    | _ => cases hf
  · have hnone : d.joinFilter? clause = none := by
      cases clause with
      | joinFilter table condition => exact absurd rfl hf
      | _ => rfl
    have hsame : (d'.only .joinConditions).joinConditions = (d.only .joinConditions).joinConditions := by
      rw [record_other h hf]
    rw [hnone, Option.toList_none, List.append_nil]
    exact hsame

/-- what has been recorded stays as it is until the draft is cleared -/
theorem joinConditions_afterAll (d : Draft) {calls : List Call} (hadds : ∀ call ∈ calls, call.adds) :
    d.joinConditions <+: (d.afterAll calls).joinConditions :=
  afterAll_follows (R := fun d d' => d.joinConditions <+: d'.joinConditions) (fun _ => List.prefix_rfl)
    (fun h h' => h.trans h') (fun h => joinConditions_record h ▸ List.prefix_append _ _) d hadds

end Draft

/-! ## What is shown -/

/-- the conditions shown behind a target, each with its place among all that are recorded: those kept under its text
that are not unset -/
def shownFor (conditions : List (String × Condition)) (target : String) : List ((String × Condition) × Nat) :=
  conditions.zipIdx.filter fun e => e.1.1 == target && !e.1.2.isUnset

section

variable {conditions : List (String × Condition)} {target : String}

theorem visible_conditionsOf (conditions : List (String × Condition)) (target : String) :
    Condition.visible (Draft.conditionsOf conditions target) = (shownFor conditions target).map fun e => e.1.2 := by
  have hall : conditions = conditions.zipIdx.map Prod.fst := (List.zipIdx_map_fst 0 conditions).symm
  unfold Condition.visible Draft.conditionsOf shownFor
  nth_rewrite 1 [hall]
  rw [List.filter_map, List.filter_map, List.filter_map, List.filter_filter, List.map_map]
  congr 2
  funext e
  exact Bool.and_comm _ _

/-- in the order in which they are recorded -/
theorem shownFor_ordered (conditions : List (String × Condition)) (target : String) :
    ((shownFor conditions target).map Prod.snd).Pairwise (· < ·) := by
  have hall : (conditions.zipIdx.map Prod.snd).Pairwise (· < ·) := by
    rw [List.zipIdx_map_snd]
    exact List.pairwise_lt_range'
  exact hall.sublist (List.filter_sublist.map Prod.snd)

theorem mem_shownFor {i : Nat} {table : String} {condition : Condition} (hi : conditions[i]? = some (table, condition)) :
    i ∈ (shownFor conditions target).map Prod.snd ↔ table = target ∧ condition.isUnset = false := by
  simp only [shownFor, List.mem_map, List.mem_filter, List.mem_zipIdx_iff_getElem?]
  constructor
  · rintro ⟨⟨entry, j⟩, ⟨hj, hshown⟩, rfl⟩
    obtain rfl : entry = (table, condition) := Option.some.inj (hj.symm.trans hi)
    simpa using hshown
  · rintro ⟨rfl, hset⟩
    exact ⟨((table, condition), i), ⟨hi, by simp [hset]⟩, rfl⟩

/-- conditions in a row are shown one by one, each behind its connective -/
theorem renderAll_linked {cs : List Condition} {shown : List Statement} (h : Condition.renderAll true cs = .ok shown) :
    List.Forall₂ (fun c s => ∃ rendered, c.render = .ok rendered ∧ s = c.link rendered) (Condition.visible cs) shown := by
  induction cs generalizing shown with
  | nil =>
    obtain rfl := Except.ok.inj h
    exact .nil
  | cons c rest ih =>
    cases hu : c.isUnset with
    | true =>
      have hskip : Condition.renderAll true (c :: rest) = Condition.renderAll true rest := by
        simp [Condition.renderAll, hu]
      have hhidden : Condition.visible (c :: rest) = Condition.visible rest := by simp [Condition.visible, hu]
      rw [hhidden]
      exact ih (hskip.symm.trans h)
    | false =>
      have hseen : Condition.visible (c :: rest) = c :: Condition.visible rest := by simp [Condition.visible, hu]
      obtain ⟨rendered, others, hr, ho, rfl⟩ := (Condition.renderAll_cons_ok hu).1 h
      rw [hseen]
      exact .cons ⟨rendered, hr, rfl⟩ (ih ho)

/-- how often a recorded condition is shown behind these joins: once for each that reads like the name it is kept under,
unless it is unset -/
theorem count_shown {i : Nat} {table : String} {condition : Condition} (hi : conditions[i]? = some (table, condition))
    (joins : List Join) :
    ((joins.flatMap fun join => shownFor conditions join.target.render.text).map Prod.snd).count i =
      if condition.isUnset then 0 else joins.countP fun join => join.target.render.text == table := by
  induction joins with
  | nil => simp
  | cons join rest ih =>
    have hone : ((shownFor conditions join.target.render.text).map Prod.snd).count i =
        if table = join.target.render.text ∧ condition.isUnset = false then 1 else 0 := by
      have hnodup : ((shownFor conditions join.target.render.text).map Prod.snd).Nodup :=
        (shownFor_ordered conditions _).imp fun h => Nat.ne_of_lt h
      simp only [hnodup.count, mem_shownFor hi]
    rw [List.flatMap_cons, List.map_append, List.count_append, hone, ih, List.countP_cons]
    by_cases hu : condition.isUnset
    · simp [hu]
    · by_cases ht : table = join.target.render.text
      · simp [hu, ht, Nat.add_comm]
      · simp [hu, ht, Ne.symm ht]

end

/-! ## Texts of joins -/

/-- parts that are one text already may as well stand for themselves -/
theorem joinWith_nested (separator : String) {l : List String} (hl : l ≠ []) (a b : List String) :
    Text.joinWith separator (a ++ Text.joinWith separator l :: b) = Text.joinWith separator (a ++ (l ++ b)) := by
  induction a with
  | nil =>
    cases b with
    | nil => rw [List.append_nil]; rfl
    | cons t rest =>
      rw [List.nil_append, List.nil_append, joinWith_append hl (by simp)]
      rfl
  | cons s a ih =>
    have hcons : ∀ {more : List String}, more ≠ [] →
        Text.joinWith separator (s :: more) = s ++ separator ++ Text.joinWith separator more := by
      intro more hmore
      exact joinWith_append (a := [s]) (by simp) hmore
    rw [List.cons_append, List.cons_append, hcons (by simp), hcons (by simp [hl]), ih]

namespace Draft

/-- a join shows these conditions: each that is kept for its target, behind its connective -/
def Shows (conditions : List (String × Condition)) (join : Join) (shown : List Statement) : Prop :=
  List.Forall₂ (fun entry s => ∃ rendered, entry.1.2.render = .ok rendered ∧ s = entry.1.2.link rendered)
    (shownFor conditions join.target.render.text) shown

/-- the words of a join, its target, its own condition, and those that are shown behind it -/
def joinedParts (joined : Join × List Statement) : List String :=
  [joinWords joined.1.kind, joined.1.target.render.text] ++ onParts joined.1.condition ++ joined.2.map Statement.text

def joinedBinds (joined : Join × List Statement) : List Datum :=
  joined.1.target.render.binds ++ joined.2.flatMap Statement.binds

theorem shows_of_renderAll {conditions : List (String × Condition)} {join : Join} {shown : List Statement}
    (h : Condition.renderAll true (conditionsOf conditions join.target.render.text) = .ok shown) :
    Shows conditions join shown := by
  have hlinked := renderAll_linked h
  rw [visible_conditionsOf, List.forall₂_map_left_iff] at hlinked
  exact hlinked

/-- conditions behind their connectives have a text, unless there are none -/
theorem parts_ofBody_shown {conditions : List (String × Condition)} {join : Join} {shown : List Statement}
    (h : Shows conditions join shown) :
    (Section.ofBody (.join " " shown)).parts =
      if shown.isEmpty then [] else [Text.joinWith " " (shown.map Statement.text)] := by
  unfold Shows at h
  generalize shownFor conditions join.target.render.text = entries at h
  cases h with
  | nil => rfl
  | @cons entry s _ rest hfirst _ =>
    obtain ⟨rendered, -, rfl⟩ := hfirst
    have hfilled : (Statement.join " " (entry.1.2.link rendered :: rest)).text ≠ "" := by
      have hlink : (entry.1.2.link rendered).text ≠ "" := by
        show entry.1.2.connective.text ++ " " ++ rendered.text ≠ ""
        cases entry.1.2.connective <;> simp [Connective.text]
      cases rest with
      | nil => exact hlink
      | cons t rest => simp [Statement.join, Text.joinWith]
    exact if_neg (by simpa using hfilled)

theorem joinSection_shown {conditions : List (String × Condition)} {join : Join} {s : Section}
    (h : joinSection conditions join = .ok s) :
    ∃ shown, Shows conditions join shown ∧ s.binds = joinedBinds (join, shown) ∧
      ∀ a b, Text.joinWith " " (a ++ (s.parts ++ b)) = Text.joinWith " " (a ++ (joinedParts (join, shown) ++ b)) := by
  obtain ⟨chain, hchain, h⟩ := except_bind_ok.1 h
  obtain ⟨shown, hshown, hjoin⟩ := except_bind_ok.1 hchain
  obtain rfl := Except.ok.inj h
  obtain rfl := Except.ok.inj hjoin
  have hshows := shows_of_renderAll hshown
  refine ⟨shown, hshows, rfl, fun a b => ?_⟩
  rw [Section.parts_append, parts_ofBody_shown hshows]
  by_cases hnone : shown = []
  · simp [joinedParts, hnone]
  · have hnested := joinWith_nested " " (l := shown.map Statement.text) (by simpa using hnone)
      (a ++ ([joinWords join.kind, join.target.render.text] ++ onParts join.condition)) b
    simpa [joinedParts, hnone] using hnested

theorem joinSections_shown {conditions : List (String × Condition)} {joins : List Join} {s : Section}
    (h : joinSections conditions joins = .ok s) :
    ∃ shown, List.Forall₂ (Shows conditions) joins shown ∧ s.binds = (joins.zip shown).flatMap joinedBinds ∧
      ∀ a b, Text.joinWith " " (a ++ (s.parts ++ b)) =
        Text.joinWith " " (a ++ ((joins.zip shown).flatMap joinedParts ++ b)) := by
  induction joins generalizing s with
  | nil =>
    obtain rfl := Except.ok.inj h
    exact ⟨[], .nil, rfl, fun a b => rfl⟩
  | cons join rest ih =>
    obtain ⟨first, hfirst, h⟩ := except_bind_ok.1 h
    obtain ⟨others, hothers, h⟩ := except_bind_ok.1 h
    obtain rfl := Except.ok.inj h
    obtain ⟨shown, hshown, hbinds, htext⟩ := joinSection_shown hfirst
    obtain ⟨more, hmore, hbinds', htext'⟩ := ih hothers
    refine ⟨shown :: more, .cons hshown hmore, ?_, fun a b => ?_⟩
    · rw [Section.binds_append, hbinds, hbinds']
      rfl
    · calc Text.joinWith " " (a ++ (first.parts ++ others.parts ++ b))
        _ = Text.joinWith " " (a ++ (first.parts ++ (others.parts ++ b))) := by rw [List.append_assoc]
        _ = Text.joinWith " " (a ++ joinedParts (join, shown) ++ (others.parts ++ b)) := by
          rw [htext, List.append_assoc]
        _ = Text.joinWith " " (a ++ joinedParts (join, shown) ++ ((rest.zip more).flatMap joinedParts ++ b)) :=
          htext' _ b
        _ = _ := by simp

/-- joins in a statement that compiles -/
theorem compiled_joins {d : Draft} {command : Command} {s : Statement} (h : d.compile command = .ok s) :
    ∃ table, d.target = .ok table ∧ ∃ (r : Rendered d command.data) (shown : List (List Statement)),
      List.Forall₂ (Shows d.joinConditions) d.joins shown ∧
      s.text = Text.joinWith " " (command.head d table ++ ((d.joins.zip shown).flatMap joinedParts
        ++ (dataSection command.data ++ r.wheres ++ r.back).parts)) ∧
      s.binds = (d.joins.zip shown).flatMap joinedBinds ++ (dataSection command.data ++ r.wheres ++ r.back).binds := by
  obtain ⟨-, table, htable, h⟩ := compile_eq_ok.1 h
  obtain ⟨r, rfl⟩ := assemble_eq_ok.1 h
  obtain ⟨shown, hshown, hbinds, htext⟩ := joinSections_shown r.joins_ok
  refine ⟨table, htable, r, shown, hshown, ?_, ?_⟩
  · rw [← htext]
    simp [Rendered.statement, Rendered.front, Section.statement, Section.ofParts]
  · simp [Rendered.statement, Rendered.front, Section.statement, Section.ofParts, hbinds]

/-- **Conditions of joins.** What is recorded for a join is kept behind what was recorded before. In a statement that
compiles every join is followed, behind its own condition, by each condition kept under the text of its target that is
not unset, in the order in which they were recorded and with their connectives. So a condition is shown as often as there
are joins that read like the name it is kept under: if there is none it is left out, and nobody is told. -/
theorem join_conditions_shown (d : Draft) :
    (∀ clause d', d.record clause = .ok d' →
      d'.joinConditions = d.joinConditions ++ (d.joinFilter? clause).toList) ∧
    (∀ calls : List Call, (∀ call ∈ calls, call.adds) →
      d.joinConditions <+: (d.afterAll calls).joinConditions) ∧
    ∀ command s, d.compile command = .ok s →
      (∃ table, d.target = .ok table ∧ ∃ (r : Rendered d command.data) (shown : List (List Statement)),
        List.Forall₂ (Shows d.joinConditions) d.joins shown ∧
        s.text = Text.joinWith " " (command.head d table ++ ((d.joins.zip shown).flatMap joinedParts
          ++ (dataSection command.data ++ r.wheres ++ r.back).parts)) ∧
        s.binds = (d.joins.zip shown).flatMap joinedBinds ++ (dataSection command.data ++ r.wheres ++ r.back).binds) ∧
      (∀ join ∈ d.joins, ((shownFor d.joinConditions join.target.render.text).map Prod.snd).Pairwise (· < ·)) ∧
      ∀ i table condition, d.joinConditions[i]? = some (table, condition) →
        ((d.joins.flatMap fun join => shownFor d.joinConditions join.target.render.text).map Prod.snd).count i =
          if condition.isUnset then 0 else d.joins.countP fun join => join.target.render.text == table := by
  refine ⟨fun clause d' h => joinConditions_record h, fun calls hadds => joinConditions_afterAll d hadds,
    fun command s h => ⟨compiled_joins h, fun join _ => shownFor_ordered _ _,
      fun i table condition hi => count_shown hi d.joins⟩⟩

/-- a condition for a table that is joined under another name -/
def unmatched : Draft :=
  (fresh "p_").afterAll
    [.clause none (.table "orders"), .clause none (.join (.table "users u") "u.id = p_orders.user_id" "left"),
     .clause none (.joinFilter "users" ⟨.and, "u.active", "=", .operand (.bind (.int 1))⟩),
     .clause none (.filter ⟨.and, "old", "=", .operand (.bind (.int 1))⟩)]

/-- the condition is recorded and not shown, so rows are deleted that it was to spare -/
theorem join_conditions_shown_unmatched :
    (unmatched.compile (.delete false)).map Statement.text =
        .ok "DELETE p_orders FROM p_orders LEFT JOIN p_users u on u.id = p_orders.user_id WHERE old = ?" ∧
      unmatched.joinConditions = [("p_users", ⟨.and, "u.active", "=", .operand (.bind (.int 1))⟩)] ∧
      ((unmatched.joins.flatMap fun join => shownFor unmatched.joinConditions join.target.render.text).map
        Prod.snd).count 0 = 0 := by
  have hcompile : (unmatched.compile (.delete false)).map Statement.text =
      .ok "DELETE p_orders FROM p_orders LEFT JOIN p_users u on u.id = p_orders.user_id WHERE old = ?" := by
    decide +kernel
  have hrecorded : unmatched.joinConditions = [("p_users", ⟨.and, "u.active", "=", .operand (.bind (.int 1))⟩)] := rfl
  have hmatching : unmatched.joins.countP (fun join => join.target.render.text == "p_users") = 0 := by decide +kernel
  obtain ⟨s, hs⟩ : ∃ s, unmatched.compile (.delete false) = .ok s := by
    cases h : unmatched.compile (.delete false) with
    | ok s => exact ⟨s, rfl⟩
    | error e =>
      rw [h] at hcompile
      cases hcompile
  obtain ⟨-, -, hshown⟩ := join_conditions_shown unmatched
  obtain ⟨-, -, hcount⟩ := hshown _ s hs
  refine ⟨hcompile, hrecorded, (hcount 0 _ _ (by rw [hrecorded]; rfl)).trans ?_⟩
  rw [hmatching, ite_self]

end Draft

end SqlSession.Query
