/-
Clauses by family.

A draft has one field for each family of clauses. What is recorded in a field depends on the calls of its family alone,
in their order, and on the prefix of tables; calls of other families may come between them, refused ones too.
- `record_other`, `record_own`: what one clause does to the field of a family;
- `only_recordEach`: what a list of clauses leaves there;
- `clause_order_fixed`: so the order of calls of different families does not matter, and every statement has its
  sections in one order, each made from the calls of its own family.
-/
import SqlSession.Proofs.Query.Command

namespace SqlSession.Query

/-- what a clause is about -/
inductive Family where
  | table
  | fields
  | joins
  | joinConditions
  | wheres
  | havings
  | groups
  | orders
  | limit
  | onDuplicate
  | options
  | lock
  deriving DecidableEq, Repr

/-- the family of a clause; a scope is of none, as its clauses can be of any. An option in the words of a row lock is a
lock -/
def Clause.family? : Clause → Option Family
  | .table _ => some .table
  | .fields _ => some .fields
  | .filter _ => some .wheres
  | .having _ => some .havings
  | .join _ _ _ => some .joins
  | .joinFilter _ _ => some .joinConditions
  | .order _ _ => some .orders
  | .orderList _ _ _ => some .orders
  | .orderPattern _ _ _ => some .orders
  | .group _ => some .groups
  | .limit _ => some .limit
  | .onDuplicate _ => some .onDuplicate
  | .onDuplicateSet _ _ => some .onDuplicate
  | .onDuplicateInsertId _ => some .onDuplicate
  | .option name => if (RowLock.ofText? (Text.upper (Text.singleSpaced name))).isSome then some .lock else some .options
  | .totalCount => some .options
  | .lock _ => some .lock
  | .scope _ _ => none

/-- the clauses of a family, in their order -/
def Family.select (f : Family) (clauses : List Clause) : List Clause :=
  clauses.filter fun clause => clause.family? = some f

namespace Draft

/-- tries to record each of these clauses; those that are refused leave nothing -/
def recordEach (registry : Option Registry) (d : Draft) : List Clause → Draft × List (Except Error Unit)
  | [] => (d, [])
  | clause :: rest =>
    let (d₁, verdict) := d.recordIn registry clause
    let (d₂, verdicts) := d₁.recordEach registry rest
    (d₂, verdict :: verdicts)

/-- the draft as if only the clauses of one family had been recorded -/
def only (d : Draft) : Family → Draft
  | .table => { d.reset with table := d.table }
  | .fields => { d.reset with columns := d.columns }
  | .joins => { d.reset with joins := d.joins }
  | .joinConditions => { d.reset with joinConditions := d.joinConditions }
  | .wheres => { d.reset with wheres := d.wheres }
  | .havings => { d.reset with havings := d.havings }
  | .groups => { d.reset with groups := d.groups }
  | .orders => { d.reset with orders := d.orders }
  | .limit => { d.reset with limit := d.limit }
  | .onDuplicate => { d.reset with onDuplicate := d.onDuplicate }
  | .options => { d.reset with modifiers := d.modifiers }
  | .lock => { d.reset with lock := d.lock }

@[simp] theorem only_fresh (tablePrefix : String) (f : Family) : (fresh tablePrefix).only f = fresh tablePrefix := by
  cases f <;> rfl

@[simp] theorem tablePrefix_only (d : Draft) (f : Family) : (d.only f).tablePrefix = d.tablePrefix := by
  cases f <;> rfl

/-- the draft with each field from the part of its family -/
def ofFamilies (part : Family → Draft) : Draft where
  tablePrefix := (part .table).tablePrefix
  table := (part .table).table
  columns := (part .fields).columns
  joins := (part .joins).joins
  joinConditions := (part .joinConditions).joinConditions
  wheres := (part .wheres).wheres
  havings := (part .havings).havings
  groups := (part .groups).groups
  orders := (part .orders).orders
  limit := (part .limit).limit
  onDuplicate := (part .onDuplicate).onDuplicate
  modifiers := (part .options).modifiers
  lock := (part .lock).lock

theorem ofFamilies_only (d : Draft) : ofFamilies d.only = d := rfl

/-- a draft is what it has of each family -/
theorem eq_of_only {d d' : Draft} (h : ∀ f, d.only f = d'.only f) : d = d' := by
  have hparts : d.only = d'.only := funext h
  rw [← ofFamilies_only d, hparts, ofFamilies_only]

/-! ## One clause -/

theorem only_withOrder (d : Draft) (expression : String) (direction : Option Direction) (f : Family) :
    (d.withOrder expression direction).only f =
      if f = .orders then (d.only f).withOrder expression direction else d.only f := by
  cases f <;> rfl

theorem only_recordOrder (d : Draft) (field : String) (direction : Direction) (f : Family) :
    (d.recordOrder field direction).only f =
      if f = .orders then (d.only f).recordOrder field direction else d.only f := by
  unfold recordOrder
  simp only [tablePrefix_only]
  split <;> exact only_withOrder d _ _ f

theorem only_withModifier (d : Draft) (modifier : Modifier) (f : Family) :
    (d.withModifier modifier).only f = if f = .options then (d.only f).withModifier modifier else d.only f := by
  have hsame : (d.only .options).modifiers = d.modifiers := rfl
  unfold withModifier
  by_cases hf : f = .options
  · subst hf
    rw [if_pos rfl, hsame]
    split <;> rfl
  · rw [if_neg hf]
    split <;> cases f <;> first | rfl | exact absurd rfl hf

/-- a clause leaves what there is of other families -/
theorem record_other {d d' : Draft} {clause : Clause} {f : Family} (h : d.record clause = .ok d')
    (hf : clause.family? ≠ some f) : d'.only f = d.only f := by
  cases clause with
  | order field direction =>
    obtain ⟨way, -, h⟩ := except_bind_ok.1 h
    obtain rfl := Except.ok.inj h
    rw [only_recordOrder, if_neg fun hfam => hf (congrArg some hfam.symm)]
  | orderList field values direction =>
    obtain ⟨way, -, h⟩ := except_bind_ok.1 h
    obtain rfl := Except.ok.inj h
    rw [only_withOrder, if_neg fun hfam => hf (congrArg some hfam.symm)]
  | orderPattern field pattern direction =>
    obtain ⟨way, -, h⟩ := except_bind_ok.1 h
    obtain rfl := Except.ok.inj h
    rw [only_withOrder, if_neg fun hfam => hf (congrArg some hfam.symm)]
  | group field =>
    obtain rfl := Except.ok.inj h
    split <;> cases f <;> first | rfl | exact absurd rfl hf
  | join target condition kind =>
    simp only [record, recordJoin] at h
    split at h
    · cases h
    · obtain rfl := Except.ok.inj h
      cases f <;> first | exact absurd rfl hf | rfl
  | option name =>
    simp only [record, recordOption] at h
    split at h
    · next lock hl =>
      obtain rfl := Except.ok.inj h
      simp only [Clause.family?, hl, Option.isSome_some, ite_true] at hf
      cases f <;> first | exact absurd rfl hf | rfl
    · next modifier hl _ =>
      obtain rfl := Except.ok.inj h
      simp only [Clause.family?, hl, Option.isSome_none, Bool.false_eq_true, ite_false] at hf
      rw [only_withModifier, if_neg fun hfam => hf (congrArg some hfam.symm)]
    · cases h
  | totalCount =>
    obtain rfl := Except.ok.inj h
    rw [only_withModifier, if_neg fun hfam => hf (congrArg some hfam.symm)]
  | scope name args => cases h
  | _ =>
    obtain rfl := Except.ok.inj h
    cases f <;> first | exact absurd rfl hf | rfl

theorem map_bind_ok {ε α β γ : Type} (x : Except ε α) (f : α → β) (g : β → γ) :
    (x >>= fun a => Except.ok (f a)).map g = x >>= fun a => .ok (g (f a)) := by
  cases x <;> rfl

/-- a clause finds all that it reads in its own family -/
theorem record_own {d : Draft} {clause : Clause} {f : Family} (hf : clause.family? = some f) :
    (d.only f).record clause = (d.record clause).map fun d' => d'.only f := by
  cases clause with
  | order field direction =>
    obtain rfl := Option.some.inj hf
    simp only [record, map_bind_ok, only_recordOrder, ite_true]
  | orderList field values direction =>
    obtain rfl := Option.some.inj hf
    simp only [record, map_bind_ok, only_withOrder, ite_true]
    rfl
  | orderPattern field pattern direction =>
    obtain rfl := Option.some.inj hf
    simp only [record, map_bind_ok, only_withOrder, ite_true]
    rfl
  | group field =>
    obtain rfl := Option.some.inj hf
    simp only [record]
    split <;> rfl
  | join target condition kind =>
    obtain rfl := Option.some.inj hf
    simp only [record, recordJoin]
    split <;> rfl
  | option name =>
    simp only [record, recordOption]
    simp only [Clause.family?] at hf
    split
    · next lock hl =>
      simp only [hl, Option.isSome_some, ite_true] at hf
      obtain rfl := Option.some.inj hf
      rfl
    · next modifier hl _ =>
      simp only [hl, Option.isSome_none, Bool.false_eq_true, ite_false] at hf
      obtain rfl := Option.some.inj hf
      exact congrArg Except.ok ((only_withModifier d modifier .options).trans (if_pos rfl)).symm
    · rfl
  | totalCount =>
    obtain rfl := Option.some.inj hf
    exact congrArg Except.ok ((only_withModifier d .calcFoundRows .options).trans (if_pos rfl)).symm
  | scope name args => cases hf
  | _ =>
    obtain rfl := Option.some.inj hf
    rfl

/-! ## The prefix -/

/-- a clause leaves the prefix as it was, whatever its family is -/
theorem tablePrefix_record {d d' : Draft} {clause : Clause} (h : d.record clause = .ok d') :
    d'.tablePrefix = d.tablePrefix := by
  have hother : ∀ f, clause.family? ≠ some f → d'.tablePrefix = d.tablePrefix := by
    intro f hf
    rw [← tablePrefix_only d' f, record_other h hf, tablePrefix_only]
  by_cases hf : clause.family? = some .table
  · exact hother .fields (by simp [hf])
  · exact hother .table hf

theorem tablePrefix_recordAll (d : Draft) (clauses : List (Except Error Clause)) :
    (d.recordAll clauses).1.tablePrefix = d.tablePrefix := by
  induction clauses generalizing d with
  | nil => rfl
  | cons clause rest ih =>
    cases clause with
    | error e => rfl
    | ok clause =>
      rw [recordAll]
      cases hr : d.record clause with
      | error e => rfl
      | ok d' => exact (ih d').trans (tablePrefix_record hr)

theorem tablePrefix_recordIn (registry : Option Registry) (d : Draft) (clause : Clause) :
    (d.recordIn registry clause).1.tablePrefix = d.tablePrefix := by
  unfold recordIn
  split
  · split
    · rfl
    · exact tablePrefix_recordAll d _
  · split
    · rfl
    · next hr => exact tablePrefix_record hr

theorem tablePrefix_recordEach (registry : Option Registry) (d : Draft) (clauses : List Clause) :
    (d.recordEach registry clauses).1.tablePrefix = d.tablePrefix := by
  induction clauses generalizing d with
  | nil => rfl
  | cons clause rest ih => exact (ih _).trans (tablePrefix_recordIn registry d clause)

/-! ## Lists of clauses -/

theorem recordIn_eq {clause : Clause} {f : Family} (hf : clause.family? = some f) (registry : Option Registry)
    (d : Draft) :
    d.recordIn registry clause =
      match d.record clause with
      | .error e => (d, .error e)
      | .ok d' => (d', .ok ()) := by
  unfold recordIn
  split
  · cases hf
  · rfl

theorem recordIn_other {clause : Clause} {f g : Family} (hg : clause.family? = some g) (hne : g ≠ f)
    (registry : Option Registry) (d : Draft) : (d.recordIn registry clause).1.only f = d.only f := by
  rw [recordIn_eq hg]
  split
  · rfl
  · next d' h => exact record_other h fun hf => hne (Option.some.inj (hg.symm.trans hf))

theorem recordIn_own {clause : Clause} {f : Family} (hf : clause.family? = some f) (registry : Option Registry)
    (d : Draft) : ((d.only f).recordIn registry clause).1 = (d.recordIn registry clause).1.only f := by
  rw [recordIn_eq hf, recordIn_eq hf, record_own hf]
  cases d.record clause <;> rfl

theorem recordEach_append (registry : Option Registry) (d : Draft) (clauses more : List Clause) :
    (d.recordEach registry (clauses ++ more)).1 = ((d.recordEach registry clauses).1.recordEach registry more).1 := by
  induction clauses generalizing d with
  | nil => rfl
  | cons clause rest ih => exact ih _

/-- **Fields by their families.** What a list of clauses leaves of a family is what the clauses of the family would have
left alone. -/
theorem only_recordEach {clauses : List Clause} (hs : ∀ clause ∈ clauses, clause.family?.isSome)
    (registry : Option Registry) (d : Draft) (f : Family) :
    ((d.only f).recordEach registry (f.select clauses)).1 = (d.recordEach registry clauses).1.only f := by
  induction clauses generalizing d with
  | nil => rfl
  | cons clause rest ih =>
    obtain ⟨hclause, hrest⟩ := List.forall_mem_cons.1 hs
    obtain ⟨g, hg⟩ := Option.isSome_iff_exists.1 hclause
    have ih := ih hrest (d.recordIn registry clause).1
    by_cases hgf : g = f
    · subst hgf
      have hselect : Family.select g (clause :: rest) = clause :: Family.select g rest := by
        simp [Family.select, hg]
      rw [hselect]
      show (((d.only g).recordIn registry clause).1.recordEach registry (g.select rest)).1 = _
      rw [recordIn_own hg, ih]
      rfl
    · have hselect : Family.select f (clause :: rest) = Family.select f rest := by
        simp [Family.select, hg, hgf]
      rw [hselect, ← recordIn_other hg hgf registry d, ih]
      rfl

end Draft

/-! ## Sections in their order -/

namespace Section

/-- the text of a section; a section that is left out has none -/
def text (s : Section) : String := Text.joinWith " " s.parts

def isPresent (s : Section) : Bool := !s.parts.isEmpty

/-- the statement with a head and these sections, as far as they are there, with one space between neighbours -/
def arrange (head : List String) (sections : List Section) : Statement :=
  ⟨Text.joinWith " " (Text.joinWith " " head :: (sections.filter isPresent).map text), sections.flatMap binds⟩

/-- the section is left out or begins with its keywords -/
def Under (s : Section) (keywords : String) : Prop :=
  s.parts = [] ∨ ∃ rest, s.text = keywords ++ rest

end Section

theorem joinWith_append {separator : String} {a b : List String} (ha : a ≠ []) (hb : b ≠ []) :
    Text.joinWith separator (a ++ b) = Text.joinWith separator a ++ separator ++ Text.joinWith separator b := by
  induction a with
  | nil => exact absurd rfl ha
  | cons s rest ih =>
    obtain ⟨t, more, rfl⟩ := List.exists_cons_of_ne_nil hb
    cases rest with
    | nil => rfl
    | cons u rest =>
      have ih := ih (by simp)
      simp only [List.cons_append, Text.joinWith, String.append_assoc] at ih ⊢
      rw [ih]

theorem joinWith_pair {separator : String} (a b : String) (rest : List String) :
    Text.joinWith separator ((a ++ separator ++ b) :: rest) = Text.joinWith separator (a :: b :: rest) := by
  cases rest <;> simp [Text.joinWith, String.append_assoc]

namespace Section

/-- joining all parts is joining the sections that are there -/
theorem joinWith_parts {head : List String} (hh : head ≠ []) (sections : List Section) :
    Text.joinWith " " (head ++ sections.flatMap parts) =
      Text.joinWith " " (Text.joinWith " " head :: (sections.filter isPresent).map text) := by
  induction sections generalizing head with
  | nil => rw [List.flatMap_nil, List.append_nil]; rfl
  | cons s rest ih =>
    rw [List.flatMap_cons]
    by_cases hs : s.parts = []
    · have hp : s.isPresent = false := by simp [isPresent, hs]
      rw [hs, List.nil_append, List.filter_cons_of_neg (by simp [hp]), ih hh]
    · have hp : s.isPresent = true := by simp [isPresent, hs]
      rw [← List.append_assoc, ih (by simp [hh]), joinWith_append hh hs, joinWith_pair, List.filter_cons_of_pos hp]
      rfl

theorem statement_append {head : List String} (hh : head ≠ []) (sections : List Section) :
    (sections.foldl (· ++ ·) (ofParts head)).statement = arrange head sections := by
  have hfold : ∀ (first : Section), sections.foldl (· ++ ·) first =
      ⟨first.parts ++ sections.flatMap parts, first.binds ++ sections.flatMap binds⟩ := by
    induction sections with
    | nil => intro first; simp
    | cons s rest ih =>
      intro first
      rw [List.foldl_cons, ih]
      simp
  rw [hfold, statement, ofParts, joinWith_parts hh, List.nil_append, arrange]

/-! Each section that is there begins with its keywords. -/

theorem under_ofParts (keywords rest : String) : (ofParts [keywords ++ rest]).Under keywords := .inr ⟨rest, rfl⟩

theorem under_none (keywords : String) : Section.none.Under keywords := .inl rfl

end Section

namespace Draft

theorem under_conditionSection {keyword : String} {conditions : List Condition} {s : Section}
    (h : conditionSection keyword conditions = .ok s) : s.Under (keyword ++ " ") := by
  obtain ⟨body, -, h⟩ := except_bind_ok.1 h
  obtain rfl := Except.ok.inj h
  by_cases hb : body.text.isEmpty
  · rw [if_pos hb]
    exact .inl (if_pos hb)
  · rw [if_neg hb]
    by_cases ht : (Statement.ofText (keyword ++ " ") ++ body).text.isEmpty
    · exact .inl (if_pos ht)
    · exact .inr ⟨body.text, by rw [Section.text, Section.ofBody, if_neg ht]; rfl⟩

theorem under_groupSection (groups : List String) : (groupSection groups).Under "GROUP BY " := by
  unfold groupSection
  split
  · exact Section.under_none _
  · exact Section.under_ofParts _ _

theorem under_orderSection (orders : List (String × Option Direction)) : (orderSection orders).Under "ORDER BY " := by
  unfold orderSection
  split
  · exact Section.under_none _
  · exact Section.under_ofParts _ _

theorem under_limitSection (limit : Option Limit) : (limitSection limit).Under "LIMIT " := by
  unfold limitSection
  split
  · exact Section.under_none _
  · exact Section.under_ofParts _ _
  · rw [String.append_assoc, String.append_assoc]
    exact Section.under_ofParts _ _

/-- the pieces of ON DUPLICATE KEY UPDATE behind the keywords -/
def piecesSection (pieces : List Statement) : Section :=
  if pieces.isEmpty then .none else .ofParts ["ON DUPLICATE KEY UPDATE"] ++ .ofStatement (.join ", " pieces)

/-- only the values of the columns can be missing -/
theorem duplicateSection_some (inserted : Row) (dup : OnDuplicate) :
    ∃ pieces : Row → List Statement, duplicateSection inserted (some dup) =
      dup.columns.mapM (duplicateValue inserted) >>= fun row => .ok (piecesSection (pieces row)) := by
  let insertId := dup.insertId.toList.map fun id => Statement.ofText (id ++ "=LAST_INSERT_ID (" ++ id ++ ")")
  refine ⟨fun row => insertId ++ if row.isEmpty then [] else [row.assignments], ?_⟩
  have hpieces : ∀ pieces : List Statement, (if pieces.isEmpty then (.ok .none : Except Error Section)
      else .ok (.ofParts ["ON DUPLICATE KEY UPDATE"] ++ .ofStatement (.join ", " pieces))) =
        .ok (piecesSection pieces) := by
    intro pieces
    unfold piecesSection
    split <;> rfl
  exact bind_congr fun row => hpieces _

theorem under_duplicateSection {d : Draft} {data : Data} {s : Section} (h : d.duplicateSectionOf data = .ok s) :
    s.Under "ON DUPLICATE KEY UPDATE " := by
  have hnone : ∀ {s}, (Except.ok .none : Except Error Section) = .ok s → s.Under "ON DUPLICATE KEY UPDATE " := by
    rintro _ ⟨⟩
    exact Section.under_none _
  cases data with
  | none => exact hnone h
  | set row => exact hnone h
  | values inserted =>
    simp only [duplicateSectionOf] at h
    cases hd : d.onDuplicate with
    | none =>
      rw [hd] at h
      exact hnone h
    | some dup =>
      obtain ⟨pieces, hpieces⟩ := duplicateSection_some inserted dup
      rw [hd, hpieces] at h
      obtain ⟨row, -, h⟩ := except_bind_ok.1 h
      obtain rfl := Except.ok.inj h
      unfold piecesSection
      split
      · exact Section.under_none _
      · exact .inr ⟨_, rfl⟩

/-- each join has a run of parts that begins with the words of its kind and with its target -/
theorem runs_joinSections {conditions : List (String × Condition)} {joins : List Join} {s : Section}
    (h : joinSections conditions joins = .ok s) :
    ∃ runs : List (List String), s.parts = runs.flatten ∧
      List.Forall₂ (fun join run => [joinWords join.kind, join.target.render.text] <+: run) joins runs := by
  induction joins generalizing s with
  | nil =>
    obtain rfl := Except.ok.inj h
    exact ⟨[], rfl, .nil⟩
  | cons join rest ih =>
    obtain ⟨first, hfirst, h⟩ := except_bind_ok.1 h
    obtain ⟨others, hothers, h⟩ := except_bind_ok.1 h
    obtain rfl := Except.ok.inj h
    obtain ⟨runs, hparts, hruns⟩ := ih hothers
    obtain ⟨chain, -, hfirst⟩ := except_bind_ok.1 hfirst
    have hbegins : [joinWords join.kind, join.target.render.text] <+: first.parts := by
      rw [← Except.ok.inj hfirst, Section.parts_append, List.append_assoc]
      exact List.prefix_append _ _
    exact ⟨first.parts :: runs, by rw [Section.parts_append, hparts, List.flatten_cons], .cons hbegins hruns⟩

/-- how the section begins in which a statement carries data; an inserted row has its columns in front of its values -/
inductive DataBegins : Data → Section → Prop
  | nothing : DataBegins .none .none
  | assigned {row : Row} {s : Section} (rest : String) (text : s.text = "SET " ++ rest) : DataBegins (.set row) s
  | bare {s : Section} (rest : String) (text : s.text = "VALUES (" ++ rest) : DataBegins (.values []) s
  | listed {row : Row} {s : Section} (rest : String) (filled : row ≠ [])
      (text : s.text = "(" ++ Text.joinWith ", " (row.map fun e => quoteColumn e.1) ++ ") VALUES (" ++ rest) :
      DataBegins (.values row) s

theorem dataBegins_dataSection (data : Data) : DataBegins data (dataSection data) := by
  have hvalues : ∀ row : Row, (Statement.ofText "VALUES (" ++ row.values ++ .ofText ")").text =
      "VALUES (" ++ (row.values.text ++ ")") := fun _ => String.append_assoc
  cases data with
  | none => exact .nothing
  | set row => exact .assigned row.assignments.text rfl
  | values row =>
    cases row with
    | nil => exact .bare _ (hvalues [])
    | cons entry rest =>
      let columns := Text.joinWith ", " ((entry :: rest).map fun e => quoteColumn e.1)
      refine .listed ((Row.values (entry :: rest)).text ++ ")") (List.cons_ne_nil _ _) ?_
      show "(" ++ columns ++ ")" ++ " " ++ (Statement.ofText "VALUES (" ++ _ ++ _).text = "(" ++ columns ++ _ ++ _
      have hwords : ") VALUES (" = ")" ++ (" " ++ "VALUES (") := rfl
      simp only [hvalues, hwords, String.append_assoc]

/-- the pieces of a statement, each made from what there is of its own family -/
structure Arrangement (part : Family → Draft) (command : Command) where
  table : String
  joins : Section
  wheres : Section
  havings : Section
  duplicate : Section
  table_ok : (part .table).target = .ok table
  joins_ok : joinSections (part .joinConditions).joinConditions (part .joins).joins = .ok joins
  wheres_ok : conditionSection "WHERE" (part .wheres).wheres = .ok wheres
  havings_ok : conditionSection "HAVING" (part .havings).havings = .ok havings
  /-- made from the inserted row as well -/
  duplicate_ok : (part .onDuplicate).duplicateSectionOf command.data = .ok duplicate

namespace Arrangement

variable {part : Family → Draft} {command : Command}

def groups (_ : Arrangement part command) : Section := groupSection (part .groups).groups

def orders (_ : Arrangement part command) : Section := orderSection (part .orders).orders

def limit (_ : Arrangement part command) : Section := limitSection (part .limit).limit

def lock (_ : Arrangement part command) : Section := lockSection (part .lock).lock

/-- joins with their conditions, data, WHERE, GROUP BY, HAVING, ORDER BY, LIMIT, ON DUPLICATE KEY UPDATE, lock -/
def sections (a : Arrangement part command) : List Section :=
  [a.joins, dataSection command.data, a.wheres, a.groups, a.havings, a.orders, a.limit, a.duplicate, a.lock]

def statement (a : Arrangement part command) : Statement :=
  Section.arrange (command.head (ofFamilies part) a.table) a.sections

/-- the sections that are there begin with their keywords -/
structure Worded (a : Arrangement part command) : Prop where
  joins : ∃ runs : List (List String), a.joins.parts = runs.flatten ∧
    List.Forall₂ (fun join run => [joinWords join.kind, join.target.render.text] <+: run) (part .joins).joins runs
  data : DataBegins command.data (dataSection command.data)
  wheres : a.wheres.Under "WHERE "
  groups : a.groups.Under "GROUP BY "
  havings : a.havings.Under "HAVING "
  orders : a.orders.Under "ORDER BY "
  limit : a.limit.Under "LIMIT "
  duplicate : a.duplicate.Under "ON DUPLICATE KEY UPDATE "
  lock : ∀ lock, (part .lock).lock = some lock → a.lock.text = lock.text

theorem worded (a : Arrangement part command) : a.Worded where
  joins := runs_joinSections a.joins_ok
  data := dataBegins_dataSection _
  wheres := under_conditionSection a.wheres_ok
  groups := under_groupSection _
  havings := under_conditionSection a.havings_ok
  orders := under_orderSection _
  limit := under_limitSection _
  duplicate := under_duplicateSection a.duplicate_ok
  lock := by
    intro lock hl
    rw [Arrangement.lock, hl]
    rfl

end Arrangement

/-- what compiles is arranged from the parts of the draft -/
theorem compile_arranged {d : Draft} {command : Command} {s : Statement} (h : d.compile command = .ok s) :
    ∃ a : Arrangement d.only command, s = a.statement := by
  obtain ⟨-, table, htable, h⟩ := compile_eq_ok.1 h
  simp only [assemble, except_bind_ok, Except.ok.injEq] at h
  obtain ⟨joins, hj, wheres, hw, havings, hh, duplicate, hd, rfl⟩ := h
  have htarget : (d.only .table).target = d.target := rfl
  have hduplicate : (d.only .onDuplicate).duplicateSectionOf command.data = d.duplicateSectionOf command.data := by
    cases command.data <;> rfl
  refine ⟨⟨table, joins, wheres, havings, duplicate, htarget.trans htable, hj, hw, hh, hduplicate.trans hd⟩, ?_⟩
  have hhead : command.head d table ≠ [] := by
    cases command <;> simp [Command.head]
  exact Section.statement_append hhead
    [joins, dataSection command.data, wheres, groupSection d.groups, havings, orderSection d.orders,
      limitSection d.limit, duplicate, lockSection d.lock]

/-- **The order of clauses is fixed.** Calls of different families may change places: the draft is the same, and so is
all that it compiles to. Every statement has its head and then its sections in one order, each made from what the calls
of its own family leave when they are alone. -/
theorem clause_order_fixed (tablePrefix : String) (registry : Option Registry) {clauses clauses' : List Clause}
    (unscoped : ∀ clause ∈ clauses, clause.family?.isSome) (unscoped' : ∀ clause ∈ clauses', clause.family?.isSome)
    (same : ∀ f : Family, f.select clauses = f.select clauses') :
    let d := ((fresh tablePrefix).recordEach registry clauses).1
    let d' := ((fresh tablePrefix).recordEach registry clauses').1
    let alone := fun f : Family => ((fresh tablePrefix).recordEach registry (f.select clauses)).1
    d = d' ∧ (∀ command, d.compile command = d'.compile command) ∧
      ∀ command s, d.compile command = .ok s → ∃ a : Arrangement alone command, s = a.statement ∧ a.Worded := by
  intro d d' alone
  have hd : alone = d.only := by
    funext f
    have hown := only_recordEach unscoped registry (fresh tablePrefix) f
    rwa [only_fresh] at hown
  have hd' : alone = d'.only := by
    funext f
    have hown := only_recordEach unscoped' registry (fresh tablePrefix) f
    rwa [only_fresh, ← same] at hown
  have heq : d = d' := eq_of_only fun f => congrFun (hd.symm.trans hd') f
  refine ⟨heq, fun command => by rw [heq], fun command s hs => ?_⟩
  obtain ⟨a, rfl⟩ := compile_arranged hs
  rw [hd]
  exact ⟨a, rfl, a.worded⟩

/-- calls in two orders; the join of no known kind is refused in both -/
theorem clause_order_fixed_shuffled :
    let clauses := [.limit ⟨none, 5⟩, .option "for  update", .filter ⟨.and, "a", "=", .operand (.bind (.int 1))⟩,
      .table "t", .join (.table "u") "" "sideways", .order "b" "desc", .option "distinct",
      .filter ⟨.or, "c", "is", .null⟩]
    let clauses' := [.filter ⟨.and, "a", "=", .operand (.bind (.int 1))⟩, .filter ⟨.or, "c", "is", .null⟩,
      .option "distinct", .order "b" "desc", .join (.table "u") "" "sideways", .option "for  update", .table "t",
      .limit ⟨none, 5⟩]
    let d := ((fresh "p_").recordEach none clauses).1
    (∀ f : Family, f.select clauses = f.select clauses') ∧ d = ((fresh "p_").recordEach none clauses').1 ∧
      d.compile .select =
        .ok ⟨"SELECT DISTINCT * FROM p_t WHERE a = ? OR c is NULL ORDER BY b DESC LIMIT 5 FOR UPDATE", [.int 1]⟩ := by
  intro clauses clauses' d
  have same : ∀ f : Family, f.select clauses = f.select clauses' := by
    intro f
    cases f <;> rfl
  refine ⟨same, ?_, rfl⟩
  exact (clause_order_fixed "p_" none (by decide) (by decide) same).1

end Draft

end SqlSession.Query
