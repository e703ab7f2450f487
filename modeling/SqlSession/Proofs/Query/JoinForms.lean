/-
How joins are written.

A join is its words and its target, then `on` and its condition, or a condition alone that begins with the word USING, and
behind a condition further ones (`Formed`). But USING is searched for anywhere in the condition, inside of other words too,
and further conditions are shown whether there is a condition or not. So there are two kinds of joins that a statement
compiles with although no server reads them (`joins_formed`): a condition that only mentions USING loses its `on`, and
further conditions stand directly behind the target if there is none in front of them.
- `namesUsing_iff`: USING is found wherever its letters stand in a row, in any case;
- `onParts_cases`: what stands between a target and its further conditions;
- `formed_iff`: the joins that are well formed.
-/
import SqlSession.Proofs.Query.JoinConditions
import SqlSession.Proofs.Text.Occurrence

namespace SqlSession.Query.Draft

/-! ## Conditions that bring their keyword -/

/-- a character that a name goes on with -/
def isNameChar (c : Char) : Bool :=
  c.isAlphanum || c == '_' || c == '$' || decide (0x80 ≤ c.toNat)

/-- the condition begins, behind blanks, with the whole word USING in some case -/
def beginsUsing (condition : String) : Bool :=
  let cs := Text.trimStartChars condition.toList
  (cs.take 5).map Char.toLower == "using".toList && !(cs.drop 5).head?.any isNameChar

/-- the letters of USING stand somewhere in the condition, in some case -/
def MentionsUsing (condition : String) : Prop :=
  ∃ before letters after, condition.toList = before ++ letters ++ after ∧ letters.map Char.toLower = "using".toList

theorem namesUsing_iff {condition : String} : namesUsing condition = true ↔ MentionsUsing condition := by
  have hlower : (Text.asciiLower condition).toList = condition.toList.map Char.toLower := by
    rw [Text.asciiLower, String.toList_ofList]
  rw [namesUsing, Text.contains_lower (by decide), Text.contains_iff, hlower]
  constructor
  · rintro ⟨front, back, hwhole⟩
    obtain ⟨start, after, hsplit, hstart, -⟩ := List.map_eq_append_iff.1 hwhole.symm
    obtain ⟨before, letters, rfl, -, hletters⟩ := List.map_eq_append_iff.1 hstart
    exact ⟨before, letters, after, hsplit, hletters⟩
  · rintro ⟨before, letters, after, hsplit, hletters⟩
    rw [hsplit, List.map_append, List.map_append, hletters]
    exact ⟨_, _, rfl⟩

theorem mentionsUsing_of_begins {condition : String} (h : beginsUsing condition = true) : MentionsUsing condition := by
  rw [beginsUsing, Bool.and_eq_true, beq_iff_eq] at h
  refine ⟨condition.toList.takeWhile Text.isBlank, _, (Text.trimStartChars condition.toList).drop 5, ?_, h.1⟩
  rw [List.append_assoc, List.take_append_drop, Text.trimStartChars, List.takeWhile_append_dropWhile]

theorem MentionsUsing.ne_empty {condition : String} (h : MentionsUsing condition) : condition ≠ "" := by
  rintro rfl
  rw [← namesUsing_iff] at h
  revert h
  decide

/-- what stands behind the target: nothing, or the condition, with `on` in front unless it mentions USING -/
theorem onParts_cases (condition : String) :
    (condition = "" ∧ onParts condition = []) ∨
      (MentionsUsing condition ∧ onParts condition = [condition]) ∨
      (condition ≠ "" ∧ ¬MentionsUsing condition ∧ onParts condition = ["on", condition]) := by
  by_cases hempty : condition = ""
  · subst hempty
    exact .inl ⟨rfl, rfl⟩
  have hfilled : condition.isEmpty = false := by simpa using hempty
  rw [← namesUsing_iff]
  unfold onParts
  rw [hfilled]
  cases namesUsing condition with
  | true => exact .inr (.inl ⟨rfl, rfl⟩)
  | false => exact .inr (.inr ⟨hempty, by decide, rfl⟩)

/-! ## Well-formed joins -/

/-- the parts that a join and its further conditions may be written in -/
inductive Formed (join : Join) (further : List Statement) : List String → Prop where
  | bare (condition : join.condition = "") (alone : further = []) :
    Formed join further [joinWords join.kind, join.target.render.text]
  | joinedUsing (condition : beginsUsing join.condition = true) :
    Formed join further ([joinWords join.kind, join.target.render.text, join.condition] ++ further.map Statement.text)
  | joinedOn (filled : join.condition ≠ "") (condition : beginsUsing join.condition = false) :
    Formed join further
      ([joinWords join.kind, join.target.render.text, "on", join.condition] ++ further.map Statement.text)

theorem formed_iff {join : Join} {further : List Statement} :
    Formed join further (joinedParts (join, further)) ↔
      (MentionsUsing join.condition → beginsUsing join.condition = true) ∧ (join.condition = "" → further = []) := by
  have hparts : joinedParts (join, further) =
      [joinWords join.kind, join.target.render.text] ++ onParts join.condition ++ further.map Statement.text := rfl
  constructor
  · intro h
    generalize heq : joinedParts (join, further) = parts at h
    -- all forms end in the same conditions, so one that is not the join's own has another length
    have hcount : parts.length = 2 + (onParts join.condition).length + further.length := by
      rw [← heq, hparts]
      simp
      omega
    rcases onParts_cases join.condition with ⟨hempty, hon⟩ | ⟨hmentions, hon⟩ | ⟨hfilled, hbare, hon⟩
    · refine ⟨fun hm => absurd hempty hm.ne_empty, fun _ => ?_⟩
      cases h with
      | bare _ halone => exact halone
      | joinedUsing hbegins => exact absurd hempty (mentionsUsing_of_begins hbegins).ne_empty
      | joinedOn hne _ => exact absurd hempty hne
    · refine ⟨fun _ => ?_, fun hempty => absurd hempty hmentions.ne_empty⟩
      cases h with
      | bare hempty _ => exact absurd hempty hmentions.ne_empty
      | joinedUsing hbegins => exact hbegins
      | joinedOn => simp [hon] at hcount; omega
    · exact ⟨fun hm => absurd hm hbare, fun hempty => absurd hempty hfilled⟩
  · rintro ⟨hbegins, halone⟩
    rcases onParts_cases join.condition with ⟨hempty, hon⟩ | ⟨hmentions, hon⟩ | ⟨hfilled, hbare, hon⟩
    · rw [hparts, hon, halone hempty]
      exact .bare hempty rfl
    · rw [hparts, hon]
      exact .joinedUsing (hbegins hmentions)
    · rw [hparts, hon]
      exact .joinedOn hfilled (Bool.eq_false_iff.2 fun hb => hbare (mentionsUsing_of_begins hb))

theorem shownFor_eq_nil {conditions : List (String × Condition)} {target : String} :
    shownFor conditions target = [] ↔ ∀ entry ∈ conditions, entry.1 = target → entry.2.isUnset = true := by
  rw [shownFor, List.filter_eq_nil_iff]
  constructor
  · intro h entry hentry htarget
    obtain ⟨i, hi⟩ := List.mem_iff_getElem?.1 hentry
    simpa [htarget] using h (entry, i) (List.mem_zipIdx_iff_getElem?.2 hi)
  · rintro h ⟨entry, i⟩ hmem
    have hentry := List.mem_of_getElem? (List.mem_zipIdx_iff_getElem?.1 hmem)
    simpa using h entry hentry

theorem Shows.eq_nil_iff {conditions : List (String × Condition)} {join : Join} {shown : List Statement}
    (h : Shows conditions join shown) :
    shown = [] ↔ ∀ entry ∈ conditions, entry.1 = join.target.render.text → entry.2.isUnset = true := by
  rw [← shownFor_eq_nil, ← List.length_eq_zero_iff, ← List.length_eq_zero_iff, h.length_eq]

/-- **Joins.** A statement that compiles shows every join of its draft in order, between its head and its data, with the
further conditions that are kept for it. A join is well formed if and only if its condition begins with USING as soon as
it mentions it, and nothing is shown for a join without a condition. -/
theorem joins_formed {d : Draft} {command : Command} {s : Statement} (h : d.compile command = .ok s) :
    ∃ table, d.target = .ok table ∧ ∃ (r : Rendered d command.data) (shown : List (List Statement)),
      List.Forall₂ (Shows d.joinConditions) d.joins shown ∧
      s.text = Text.joinWith " " (command.head d table ++ ((d.joins.zip shown).flatMap joinedParts
        ++ (dataSection command.data ++ r.wheres ++ r.back).parts)) ∧
      ∀ joined ∈ d.joins.zip shown, Formed joined.1 joined.2 (joinedParts joined) ↔
        (MentionsUsing joined.1.condition → beginsUsing joined.1.condition = true) ∧
          (joined.1.condition = "" →
            ∀ entry ∈ d.joinConditions, entry.1 = joined.1.target.render.text → entry.2.isUnset = true) := by
  obtain ⟨table, htable, r, shown, hshown, htext, -⟩ := compiled_joins h
  refine ⟨table, htable, r, shown, hshown, htext, fun joined hjoined => ?_⟩
  have hshows : Shows d.joinConditions joined.1 joined.2 := (List.forall₂_iff_zip.1 hshown).2 hjoined
  rw [← hshows.eq_nil_iff]
  exact formed_iff

/-- a join by a name that USING is part of, one without a condition, and one by its columns -/
def housed : Draft :=
  (fresh "").afterAll
    [.clause none (.table "t"), .clause none (.join (.table "housing") "housing.id = t.housing_id" "left"),
     .clause none (.join (.table "u") "" "natural"),
     .clause none (.joinFilter "u" ⟨.or, "u.age", ">", .operand (.bind (.int 17))⟩),
     .clause none (.join (.table "v") " Using(id)" "")]

/-- the first of the three goes without `on`, and the condition for the second stands directly behind its target -/
theorem joins_formed_housed :
    (housed.compile .select).map Statement.text =
        .ok "SELECT * FROM t LEFT JOIN housing housing.id = t.housing_id NATURAL JOIN u OR u.age > ? JOIN v  Using(id)" ∧
      ∃ shown, List.Forall₂ (Shows housed.joinConditions) housed.joins shown ∧
        ∀ joined ∈ housed.joins.zip shown,
          Formed joined.1 joined.2 (joinedParts joined) ↔ joined.1.condition = " Using(id)" := by
  have hcompile : (housed.compile .select).map Statement.text =
      .ok "SELECT * FROM t LEFT JOIN housing housing.id = t.housing_id NATURAL JOIN u OR u.age > ? JOIN v  Using(id)" := by
    decide +kernel
  have hjoins : ∀ join ∈ housed.joins,
      ((namesUsing join.condition = true → beginsUsing join.condition = true) ∧ (join.condition = "" →
        ∀ entry ∈ housed.joinConditions, entry.1 = join.target.render.text → entry.2.isUnset = true)) ↔
          join.condition = " Using(id)" := by
    decide +kernel
  obtain ⟨s, hs⟩ : ∃ s, housed.compile .select = .ok s := ⟨_, rfl⟩
  obtain ⟨_, -, _, shown, hshown, -, hformed⟩ := joins_formed hs
  refine ⟨hcompile, shown, hshown, fun joined hjoined => ?_⟩
  rw [hformed joined hjoined, ← namesUsing_iff]
  exact hjoins joined.1 (List.of_mem_zip hjoined).1

end SqlSession.Query.Draft
