/-
Which drafts compile, and what the others are refused for.

`Draft.WellFormed` says in terms of the clauses what a draft needs for a command. `Draft.complaints` lists all that is wrong
with a draft, in the order in which a statement is put together.
- `kind_eq_membership`, `kind_eq_range`, `kind_eq_existence`: operators of a special kind by their words;
- `blames_render`, .., `blames_compile`: what fails, fails for the first complaint;
- `complaints_eq_nil`: a draft is well formed if and only if there is nothing to complain of;
- `compiles_iff_wellFormed`: so it compiles exactly if it is well formed, and the error is the first complaint otherwise.
-/
import SqlSession.Proofs.Query.Families
import SqlSession.Proofs.Text.Words

namespace SqlSession.Query

/-! ## Operators -/

/-- the operator is this word or its negation, in any case and spacing -/
def Spells (operator keyword : String) : Prop :=
  (Text.words operator).map Text.asciiLower = [keyword] ∨ (Text.words operator).map Text.asciiLower = ["not", keyword]

instance (operator keyword : String) : Decidable (Spells operator keyword) :=
  inferInstanceAs (Decidable (_ ∨ _))

theorem spells_iff {keyword : String} (hword : Text.IsWord keyword)
    (hplain : Text.Native keyword) (operator : String) :
    Spells operator keyword ↔
      Text.lower (Text.singleSpaced (Text.trimmed operator)) = keyword ∨
        Text.lower (Text.singleSpaced (Text.trimmed operator)) = "not " ++ keyword := by
  have hwords : ∀ w ∈ ["not", keyword], Text.IsWord w := by
    have hnot : Text.IsWord "not" := by decide
    simpa [hword] using hnot
  have hnegated : Text.Native (Text.joinWith " " ["not", keyword]) :=
    .append (show Text.Native ("not" ++ " ") by decide) hplain
  have hbare : ∀ w ∈ [keyword], Text.IsWord w := by simpa using hword
  have hone := Text.lower_singleSpaced_eq_iff hbare hplain (Text.trimmed operator)
  have htwo := Text.lower_singleSpaced_eq_iff hwords hnegated (Text.trimmed operator)
  rw [Text.words_trimmed] at hone htwo
  exact or_congr hone.symm htwo.symm

namespace Condition

theorem kind_eq_membership {c : Condition} : c.kind = .membership ↔ Spells c.operator "in" := by
  rw [spells_iff (by decide) (by decide), kind, trimmedOperator, OperatorKind.ofText]
  generalize Text.lower (Text.singleSpaced (Text.trimmed c.operator)) = words
  split_ifs with hin hbetween hexists
  · simpa using hin
  · simpa using hin
  · simpa using hin
  · simpa using hin

theorem kind_eq_range {c : Condition} : c.kind = .range ↔ Spells c.operator "between" := by
  rw [spells_iff (by decide) (by decide), kind, trimmedOperator, OperatorKind.ofText]
  generalize Text.lower (Text.singleSpaced (Text.trimmed c.operator)) = words
  split_ifs with hin hbetween hexists
  · rcases hin with rfl | rfl <;> decide
  · simpa using hbetween
  · simpa using hbetween
  · simpa using hbetween

theorem kind_eq_existence {c : Condition} : c.kind = .existence ↔ Spells c.operator "exists" := by
  rw [spells_iff (by decide) (by decide), kind, trimmedOperator, OperatorKind.ofText]
  generalize Text.lower (Text.singleSpaced (Text.trimmed c.operator)) = words
  split_ifs with hin hbetween hexists
  · rcases hin with rfl | rfl <;> decide
  · rcases hbetween with rfl | rfl <;> decide
  · simpa using hexists
  · simpa using hexists

/-! ## Conditions -/

/-- a condition that can be shown: a membership with a list that is not empty or with an operand, a range with two
values, an existence with a sub-query, and everything else -/
structure Valid (c : Condition) : Prop where
  membership : Spells c.operator "in" →
    (∃ items, items ≠ [] ∧ c.comparand = .list items) ∨ ∃ value, c.comparand = .operand value
  range : Spells c.operator "between" → ∃ low high, c.comparand = .list [low, high]
  existence : Spells c.operator "exists" → ∃ query, c.comparand = .operand (.sub query)

def membershipComplaint? (c : Condition) : Option Error :=
  match c.comparand with
  | .list [] => some (.invalidArgument (c.trimmedOperator ++ (" list for `" ++ c.field ++ "` is empty")))
  | .null => some (.invalidArgument (c.trimmedOperator ++ (" for `" ++ c.field ++ "` needs a list or a sub-query")))
  | _ => none

def rangeComplaint? (c : Condition) : Option Error :=
  match c.comparand with
  | .list [_, _] => none
  | _ => some (.invalidArgument (c.trimmedOperator ++ " for `" ++ c.field ++ "` needs exactly two values"))

def existenceComplaint? (c : Condition) : Option Error :=
  match c.comparand with
  | .operand (.sub _) => none
  | _ => some (.invalidArgument (c.trimmedOperator ++ " needs a sub-query"))

/-- what there is to complain of in a condition; an unset one is not looked at -/
def complaint? (c : Condition) : Option Error :=
  if c.isUnset then none
  else match c.kind with
    | .membership => c.membershipComplaint?
    | .range => c.rangeComplaint?
    | .existence => c.existenceComplaint?
    | .other => none

theorem valid_iff {c : Condition} :
    c.Valid ↔
      (c.kind = .membership → (∃ items, items ≠ [] ∧ c.comparand = .list items) ∨ ∃ value, c.comparand = .operand value) ∧
        (c.kind = .range → ∃ low high, c.comparand = .list [low, high]) ∧
        (c.kind = .existence → ∃ query, c.comparand = .operand (.sub query)) := by
  rw [kind_eq_membership, kind_eq_range, kind_eq_existence]
  exact ⟨fun h => ⟨h.membership, h.range, h.existence⟩, fun h => ⟨h.1, h.2.1, h.2.2⟩⟩

theorem complaint?_of_unset {c : Condition} (hu : c.isUnset = true) : c.complaint? = none := if_pos hu

theorem complaint?_of_set {c : Condition} (hu : c.isUnset = false) :
    c.complaint? = match c.kind with
      | .membership => c.membershipComplaint?
      | .range => c.rangeComplaint?
      | .existence => c.existenceComplaint?
      | .other => none := by
  rw [complaint?, if_neg (by simp [hu])]

theorem complaint?_eq_none {c : Condition} (hu : c.isUnset = false) : c.complaint? = none ↔ c.Valid := by
  rw [valid_iff, complaint?_of_set hu]
  cases hk : c.kind with
  | membership =>
    simp only [membershipComplaint?]
    cases hc : c.comparand with
    | operand value => simp
    | list items => cases items <;> simp
    | null => simp
    | unset => simp [isUnset, hc] at hu
  | range =>
    simp only [rangeComplaint?]
    cases hc : c.comparand with
    | operand value => simp
    | list items => rcases items with _ | ⟨low, _ | ⟨high, _ | ⟨more, rest⟩⟩⟩ <;> simp
    | null => simp
    | unset => simp [isUnset, hc] at hu
  | existence =>
    simp only [existenceComplaint?]
    cases hc : c.comparand with
    | operand value => cases value <;> simp
    | list items => simp
    | null => simp
    | unset => simp [isUnset, hc] at hu
  | other => simp

end Condition

/-! ## The first complaint -/

/-- the result fails for the first of these complaints, and succeeds if there are none -/
inductive Blames {α : Type} : Except Error α → List Error → Prop where
  | content (a : α) : Blames (.ok a) []
  | first (e : Error) (others : List Error) : Blames (.error e) (e :: others)

namespace Blames

variable {α β : Type} {x : Except Error α} {es : List Error}

/-- steps one after the other: what is wrong with the first is complained of first -/
theorem bind {f : α → Except Error β} {fs : List Error} (hx : Blames x es) (hf : ∀ a, Blames (f a) fs) :
    Blames (x >>= f) (es ++ fs) := by
  cases hx with
  | content a => exact hf a
  | first e others => exact first e (others ++ fs)

theorem bind_ok (hx : Blames x es) (g : α → β) : Blames (x >>= fun a => .ok (g a)) es := by
  cases hx with
  | content a => exact content (g a)
  | first e others => exact first e others

theorem ok_iff (h : Blames x es) : (∃ a, x = .ok a) ↔ es = [] := by
  cases h with
  | content a => simp
  | first e others => simp

theorem error_iff (h : Blames x es) (e : Error) : x = .error e ↔ es.head? = some e := by
  cases h with
  | content a => simp
  | first e' others => simp

end Blames

theorem filterMap_cons_toList {α β : Type} (f : α → Option β) (a : α) (rest : List α) :
    (a :: rest).filterMap f = (f a).toList ++ rest.filterMap f := by
  cases h : f a with
  | none => rw [List.filterMap_cons_none h]; rfl
  | some b => rw [List.filterMap_cons_some h]; rfl

namespace Condition

theorem blames_membershipParts {c : Condition} (hu : c.isUnset = false) :
    Blames c.membershipParts c.membershipComplaint?.toList := by
  unfold membershipParts membershipComplaint?
  cases hc : c.comparand with
  | operand value => cases value <;> exact .content _
  | list items =>
    cases items with
    | nil => exact .first _ []
    | cons item rest => exact .content _
  | null => exact .first _ []
  | unset => simp [isUnset, hc] at hu

theorem blames_rangeParts (c : Condition) : Blames c.rangeParts c.rangeComplaint?.toList := by
  unfold rangeParts rangeComplaint?
  cases hc : c.comparand with
  | list items =>
    rcases items with _ | ⟨low, _ | ⟨high, _ | ⟨more, rest⟩⟩⟩
    · exact .first _ []
    · exact .first _ []
    · exact .content _
    · exact .first _ []
  | _ => exact .first _ []

theorem blames_existenceParts (c : Condition) : Blames c.existenceParts c.existenceComplaint?.toList := by
  unfold existenceParts existenceComplaint?
  cases hc : c.comparand with
  | operand value =>
    cases value with
    | sub query => exact .content _
    | _ => exact .first _ []
  | _ => exact .first _ []

/-- a condition is refused for what there is to complain of in it -/
theorem blames_render {c : Condition} (hu : c.isUnset = false) : Blames c.render c.complaint?.toList := by
  rw [complaint?_of_set hu]
  unfold render
  cases hk : c.kind with
  | membership => exact (blames_membershipParts hu).bind_ok _
  | range => exact c.blames_rangeParts.bind_ok _
  | existence => exact c.blames_existenceParts.bind_ok _
  | other => cases c.comparand <;> exact .content _

/-- a row of conditions is refused for the first of them that cannot be shown -/
theorem blames_renderAll (keep : Bool) (conditions : List Condition) :
    Blames (renderAll keep conditions) (conditions.filterMap complaint?) := by
  induction conditions generalizing keep with
  | nil => exact .content []
  | cons c rest ih =>
    rw [renderAll, filterMap_cons_toList]
    cases hu : c.isUnset with
    | true =>
      rw [complaint?_of_unset hu]
      exact ih keep
    | false =>
      refine (blames_render hu).bind fun shown => ?_
      exact (ih true).bind_ok _

theorem blames_chain (keep : Bool) (conditions : List Condition) :
    Blames (chain keep conditions) (conditions.filterMap complaint?) :=
  (blames_renderAll keep conditions).bind_ok _

end Condition

/-! ## Drafts -/

namespace Command

/-- the command changes rows that were there before, and is not forced to -/
def unforced : Command → Bool
  | update _ force => !force
  | delete force => !force
  | _ => false

/-- what there is to complain of before the table is looked at -/
def complaints (d : Draft) : Command → List Error
  | update row force =>
    (if !force && !d.hasEffectiveWhere then [.emptyCondition "update"] else [])
      ++ (if row.isEmpty then [.invalidArgument "update needs at least one column"] else [])
  | delete force => if !force && !d.hasEffectiveWhere then [.emptyCondition "delete"] else []
  | _ => []

theorem blames_check (d : Draft) (command : Command) : Blames (command.check d) (command.complaints d) := by
  cases command with
  | update row force =>
    simp only [check, complaints]
    split_ifs
    · exact .first _ _
    · exact .first _ _
    · exact .first _ _
    · exact .content ()
  | delete force =>
    simp only [check, complaints]
    split_ifs
    · exact .first _ _
    · exact .content ()
  | _ => exact .content ()

end Command

namespace Draft

def tableComplaints (d : Draft) : List Error :=
  match d.table.map Text.trimmed with
  | some table => if table.isEmpty then [.tableNotSet] else []
  | none => [.tableNotSet]

/-- the conditions of joins as they are shown: join by join, those kept under the text of its target -/
def joinedConditions (d : Draft) : List Condition :=
  d.joins.flatMap fun join => conditionsOf d.joinConditions join.target.render.text

/-- a column that is to take the value being inserted, and there is none -/
def duplicateComplaint? (inserted : Row) (entry : String × Option Operand) : Option Error :=
  match entry.2, inserted.lookup entry.1 with
  | none, none => some (.invalidArgument ("on duplicate column `" ++ entry.1 ++ "` has no inserted value"))
  | _, _ => none

def duplicateComplaints (d : Draft) : Command → List Error
  | .insert _ row => (d.onDuplicate.elim [] OnDuplicate.columns).filterMap (duplicateComplaint? row)
  | _ => []

/-- all that is wrong with a draft, in the order in which a statement is put together -/
def complaints (d : Draft) (command : Command) : List Error :=
  command.complaints d ++ d.tableComplaints ++ d.joinedConditions.filterMap Condition.complaint?
    ++ d.wheres.filterMap Condition.complaint? ++ d.havings.filterMap Condition.complaint?
    ++ d.duplicateComplaints command

theorem blames_target (d : Draft) : Blames d.target d.tableComplaints := by
  unfold target tableComplaints
  cases d.table.map Text.trimmed with
  | none => exact .first _ _
  | some table =>
    dsimp only
    split_ifs
    · exact .first _ _
    · exact .content _

theorem blames_joinSections (conditions : List (String × Condition)) (joins : List Join) :
    Blames (joinSections conditions joins)
      ((joins.flatMap fun join => conditionsOf conditions join.target.render.text).filterMap Condition.complaint?) := by
  induction joins with
  | nil => exact .content _
  | cons join rest ih =>
    rw [List.flatMap_cons, List.filterMap_append]
    refine ((Condition.blames_chain true _).bind_ok _).bind fun first => ?_
    exact ih.bind_ok _

theorem blames_conditionSection (keyword : String) (conditions : List Condition) :
    Blames (conditionSection keyword conditions) (conditions.filterMap Condition.complaint?) :=
  (Condition.blames_chain false conditions).bind_ok _

theorem blames_duplicateValue (inserted : Row) (entry : String × Option Operand) :
    Blames (duplicateValue inserted entry) (duplicateComplaint? inserted entry).toList := by
  unfold duplicateValue duplicateComplaint?
  cases entry.2 with
  | some value => cases inserted.lookup entry.1 <;> exact .content _
  | none =>
    cases inserted.lookup entry.1 with
    | some value => exact .content _
    | none => exact .first _ _

theorem blames_duplicateValues (inserted : Row) (columns : List (String × Option Operand)) :
    Blames (columns.mapM (duplicateValue inserted)) (columns.filterMap (duplicateComplaint? inserted)) := by
  induction columns with
  | nil => exact .content []
  | cons entry rest ih =>
    rw [List.mapM_cons, filterMap_cons_toList]
    refine (blames_duplicateValue inserted entry).bind fun first => ?_
    exact ih.bind_ok _

theorem blames_duplicateSectionOf (d : Draft) (command : Command) :
    Blames (d.duplicateSectionOf command.data) (d.duplicateComplaints command) := by
  cases command with
  | insert verb row =>
    show Blames (duplicateSection row d.onDuplicate) ((d.onDuplicate.elim [] OnDuplicate.columns).filterMap _)
    cases d.onDuplicate with
    | none => exact .content _
    | some dup =>
      obtain ⟨pieces, hpieces⟩ := duplicateSection_some row dup
      rw [hpieces]
      exact (blames_duplicateValues row dup.columns).bind_ok _
  | _ => exact .content _

theorem blames_compile (d : Draft) (command : Command) : Blames (d.compile command) (d.complaints command) := by
  rw [compile_eq]
  unfold complaints assemble
  simp only [List.append_assoc]
  refine (command.blames_check d).bind fun _ => d.blames_target.bind fun table => ?_
  refine (blames_joinSections d.joinConditions d.joins).bind fun joins => ?_
  refine (blames_conditionSection "WHERE" d.wheres).bind fun wheres => ?_
  refine (blames_conditionSection "HAVING" d.havings).bind fun havings => ?_
  exact (d.blames_duplicateSectionOf command).bind_ok _

/-! ## Well-formed drafts -/

/-- what a draft needs for a command -/
structure WellFormed (d : Draft) (command : Command) : Prop where
  /-- a change of rows that are there is forced, or it is told which -/
  asked : command.unforced = true → ∃ c ∈ d.wheres, c.isUnset = false
  /-- an update assigns something -/
  filled : ∀ row force, command = .update row force → row ≠ []
  table : ∃ name, d.table = some name ∧ Text.trimmed name ≠ ""
  /-- the conditions kept under the text of a joined target -/
  joins : ∀ join ∈ d.joins, ∀ entry ∈ d.joinConditions, entry.1 = join.target.render.text →
    entry.2.isUnset = false → entry.2.Valid
  wheres : ∀ c ∈ d.wheres, c.isUnset = false → c.Valid
  havings : ∀ c ∈ d.havings, c.isUnset = false → c.Valid
  /-- a column that takes the value being inserted is one of those inserted -/
  duplicates : ∀ verb row, command = .insert verb row → ∀ dup ∈ d.onDuplicate, ∀ column,
    (column, none) ∈ dup.columns → ∃ value, (column, value) ∈ row

theorem filterMap_complaint?_eq_nil {conditions : List Condition} :
    conditions.filterMap Condition.complaint? = [] ↔ ∀ c ∈ conditions, c.isUnset = false → c.Valid := by
  rw [List.filterMap_eq_nil_iff]
  apply forall₂_congr
  intro c _
  cases hu : c.isUnset with
  | true => simp [Condition.complaint?_of_unset hu]
  | false => simp [Condition.complaint?_eq_none hu]

theorem hasEffectiveWhere_iff {d : Draft} : d.hasEffectiveWhere = true ↔ ∃ c ∈ d.wheres, c.isUnset = false := by
  simp [hasEffectiveWhere]

theorem command_complaints_eq_nil {d : Draft} {command : Command} :
    command.complaints d = [] ↔
      (command.unforced = true → ∃ c ∈ d.wheres, c.isUnset = false) ∧
        ∀ row force, command = .update row force → row ≠ [] := by
  rw [← hasEffectiveWhere_iff]
  cases command with
  | update row force =>
    cases force <;> cases hw : d.hasEffectiveWhere <;> cases row <;> simp [Command.complaints, Command.unforced, hw]
  | delete force =>
    cases force <;> cases hw : d.hasEffectiveWhere <;> simp [Command.complaints, Command.unforced, hw]
  | _ => simp [Command.complaints, Command.unforced]

theorem tableComplaints_eq_nil {d : Draft} :
    d.tableComplaints = [] ↔ ∃ name, d.table = some name ∧ Text.trimmed name ≠ "" := by
  unfold tableComplaints
  cases d.table with
  | none => simp
  | some name => simp [String.isEmpty_iff]

theorem forall_joinedConditions {d : Draft} :
    (∀ c ∈ d.joinedConditions, c.isUnset = false → c.Valid) ↔
      ∀ join ∈ d.joins, ∀ entry ∈ d.joinConditions, entry.1 = join.target.render.text →
        entry.2.isUnset = false → entry.2.Valid := by
  simp only [joinedConditions, List.mem_flatMap, conditionsOf, List.mem_map, List.mem_filter, beq_iff_eq]
  constructor
  · intro h join hj entry he ht
    exact h entry.2 ⟨join, hj, entry, ⟨he, ht⟩, rfl⟩
  · rintro h c ⟨join, hj, entry, ⟨he, ht⟩, rfl⟩
    exact h join hj entry he ht

theorem lookup_eq_none_iff {row : Row} {column : String} :
    row.lookup column = none ↔ ¬∃ value, (column, value) ∈ row := by
  rw [List.lookup_eq_none_iff]
  constructor
  · rintro h ⟨value, hmem⟩
    simpa using h (column, value) hmem
  · rintro h ⟨name, value⟩ hmem
    have hne : column ≠ name := by
      rintro rfl
      exact h ⟨value, hmem⟩
    simpa using hne

theorem duplicateComplaints_eq_nil {d : Draft} {command : Command} :
    d.duplicateComplaints command = [] ↔
      ∀ verb row, command = .insert verb row → ∀ dup ∈ d.onDuplicate, ∀ column,
        (column, none) ∈ dup.columns → ∃ value, (column, value) ∈ row := by
  cases command with
  | insert verb row =>
    cases hd : d.onDuplicate with
    | none => simp [duplicateComplaints, hd]
    | some dup =>
      have hentry : ∀ column value, duplicateComplaint? row (column, value) = none ↔
          (value = none → ∃ inserted, (column, inserted) ∈ row) := by
        intro column value
        have hlookup : row.lookup column = none ↔ ¬∃ value, (column, value) ∈ row := lookup_eq_none_iff
        cases value with
        | some own => cases row.lookup column <;> simp [duplicateComplaint?]
        | none =>
          cases hl : row.lookup column with
          | some inserted => simpa [duplicateComplaint?, hl] using hlookup
          | none => simpa [duplicateComplaint?, hl] using hlookup
      simp only [duplicateComplaints, hd, Option.elim_some, List.filterMap_eq_nil_iff, Prod.forall, hentry]
      constructor
      · rintro h _ _ ⟨⟩ _ ⟨⟩ column hmem
        exact h column none hmem rfl
      · rintro h column _ hmem rfl
        exact h verb row rfl dup rfl column hmem
  | _ => simp [duplicateComplaints]

/-- there is nothing to complain of in well-formed drafts, and only in those -/
theorem complaints_eq_nil {d : Draft} {command : Command} : d.complaints command = [] ↔ d.WellFormed command := by
  simp only [complaints, List.append_eq_nil_iff, command_complaints_eq_nil, tableComplaints_eq_nil,
    filterMap_complaint?_eq_nil, forall_joinedConditions, duplicateComplaints_eq_nil]
  constructor
  · rintro ⟨⟨⟨⟨⟨⟨asked, filled⟩, table⟩, joins⟩, wheres⟩, havings⟩, duplicates⟩
    exact ⟨asked, filled, table, joins, wheres, havings, duplicates⟩
  · intro h
    exact ⟨⟨⟨⟨⟨⟨h.asked, h.filled⟩, h.table⟩, h.joins⟩, h.wheres⟩, h.havings⟩, h.duplicates⟩

/-- **What compiles.** A draft compiles for a command if and only if it is well formed for it. What does not compile is
refused for the first complaint: no condition where one is needed, no column to assign, no table, then the conditions in
the order in which they are shown, and last the columns of ON DUPLICATE KEY UPDATE. -/
theorem compiles_iff_wellFormed (d : Draft) (command : Command) :
    ((∃ s, d.compile command = .ok s) ↔ d.WellFormed command) ∧
      ∀ e, d.compile command = .error e ↔ (d.complaints command).head? = some e := by
  have hblames := d.blames_compile command
  constructor
  · rw [← complaints_eq_nil]
    exact hblames.ok_iff
  · exact hblames.error_iff

/-- the unset condition is passed over; only the first of these is reported -/
example :
    Draft.complaints
        { fresh "p_" with
          table := some " "
          wheres := [⟨.and, "a", " Not  IN ", .list []⟩, ⟨.or, "b", "exists", .unset⟩]
          havings := [⟨.and, "", "EXISTS", .null⟩] }
        (.update [] false) =
      [.invalidArgument "update needs at least one column", .tableNotSet,
        .invalidArgument "Not  IN list for `a` is empty", .invalidArgument "EXISTS needs a sub-query"] := by
  decide +kernel

end Draft

end SqlSession.Query
