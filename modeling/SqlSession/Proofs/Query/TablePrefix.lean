/-
The table prefix.

A draft puts its prefix in front of table names at different times: of joined tables when they are recorded, of the table
itself when it is compiled. Either way a name takes it once, unless it names its schema.
- `Clause.named`: a clause with the prefix in front of its table names;
- `Draft.spelledOut`: a draft without a prefix that has it in its names instead;
- `record_spelledOut`, `spelled_recordEach`: to record clauses and to spell out the prefix may change places;
- `compile_spelled`: and drafts compile to the same with the prefix spelled out;
- `head_of_compile`: the head shows the table with the prefix in front;
- `prefix_applied_once`: so a prefix is the same as writing it in front of each name.
-/
import SqlSession.Proofs.Query.Upkeep

namespace SqlSession

/-! ## Trimmed texts -/

namespace Text

theorem mem_trimmed {s : String} {c : Char} (hc : isBlank c = false) (h : c ∈ s.toList) : c ∈ (trimmed s).toList := by
  have hdrop : ∀ {cs : List Char}, c ∈ cs → c ∈ cs.dropWhile isBlank := by
    intro cs hmem
    rw [← List.takeWhile_append_dropWhile (p := isBlank) (l := cs), List.mem_append] at hmem
    refine hmem.resolve_left fun hfront => ?_
    have hblank := List.all_eq_true.1 List.all_takeWhile c hfront
    rw [hc] at hblank
    cases hblank
  rw [trimmed, String.toList_ofList, trimEndChars, List.mem_reverse]
  exact hdrop (List.mem_reverse.2 (hdrop h))

/-- a text without blanks around it keeps them from the text in front of it, unless it is empty -/
theorem trimmed_append {s t : String} (hs : trimStartChars s.toList = s.toList) (ht : trimmed t = t) (hne : t ≠ "") :
    trimmed (s ++ t) = s ++ t := by
  have hboth : trimEndChars (trimStartChars t.toList) = t.toList := by
    rw [← String.toList_ofList (l := trimEndChars _)]
    exact congrArg String.toList ht
  have hfront : trimStartChars t.toList = t.toList := trimStartChars_of_begins (hboth ▸ trimEndChars_begins _)
  have hback : trimEndChars t.toList = t.toList := by rw [hfront] at hboth; exact hboth
  have hfilled : t.toList ≠ [] := by simpa using hne
  have hstart : trimStartChars (s ++ t).toList = (s ++ t).toList := by
    rw [String.toList_append]
    cases hcs : s.toList with
    | nil => exact hfront
    | cons c rest =>
      rw [hcs] at hs
      exact List.dropWhile_cons_of_neg (List.dropWhile_eq_self_iff.1 hs (by simp))
  have hend : trimEndChars (s ++ t).toList = (s ++ t).toList := by
    rw [String.toList_append]
    refine List.rdropWhile_eq_self_iff.2 fun hl => ?_
    rw [List.getLast_append_of_ne_nil hl hfilled]
    exact List.rdropWhile_eq_self_iff.1 hback hfilled
  rw [trimmed, hstart, hend, String.ofList_toList]

end Text

namespace Query

/-! ## Names -/

/-- the name names its schema -/
def IsQualified (name : String) : Prop := '.' ∈ name.toList

instance (name : String) : Decidable (IsQualified name) := inferInstanceAs (Decidable ('.' ∈ name.toList))

/-- the name with the prefix in front, unless it names its schema -/
def withPrefix (tablePrefix name : String) : String :=
  if IsQualified name then name else tablePrefix ++ name

theorem withPrefix_empty (name : String) : withPrefix "" name = name := by
  unfold withPrefix
  split
  · rfl
  · exact String.empty_append

theorem Draft.prefixed_eq (d : Draft) (name : String) : d.prefixed name = withPrefix d.tablePrefix name := by
  unfold prefixed withPrefix IsQualified
  by_cases hp : d.tablePrefix = ""
  · simp [hp]
  · by_cases hq : '.' ∈ name.toList <;> simp [hp, hq]

/-- a name that blanks cannot come between the prefix and: it names its schema, or it is filled and has no blanks around
it, and the prefix has none in front -/
def Takes (tablePrefix name : String) : Prop :=
  IsQualified name ∨
    (name ≠ "" ∧ Text.trimmed name = name ∧ Text.trimStartChars tablePrefix.toList = tablePrefix.toList)

theorem trimmed_withPrefix {tablePrefix name : String} (h : Takes tablePrefix name) :
    Text.trimmed (withPrefix tablePrefix name) = withPrefix tablePrefix (Text.trimmed name) ∧
      (withPrefix tablePrefix (Text.trimmed name)).isEmpty = (Text.trimmed name).isEmpty := by
  by_cases hq : IsQualified name
  · have hkept : IsQualified (Text.trimmed name) := Text.mem_trimmed (by decide) hq
    rw [withPrefix, withPrefix, if_pos hq, if_pos hkept]
    exact ⟨rfl, rfl⟩
  · obtain ⟨hne, htrimmed, hfront⟩ := h.resolve_left hq
    rw [htrimmed, withPrefix, if_neg hq]
    refine ⟨Text.trimmed_append hfront htrimmed hne, Bool.eq_iff_iff.2 ?_⟩
    rw [String.isEmpty_iff, String.isEmpty_iff, String.append_eq_empty_iff]
    exact ⟨fun h => h.2, fun h => absurd h hne⟩

/-! ## Clauses -/

def JoinTarget.named (tablePrefix : String) : JoinTarget → JoinTarget
  | table name => .table (withPrefix tablePrefix name)
  | sub query => .sub query

/-- the clause with the prefix in front of its table names -/
def Clause.named (tablePrefix : String) : Clause → Clause
  | .table name => .table (withPrefix tablePrefix name)
  | .join target condition kind => .join (target.named tablePrefix) condition kind
  | .joinFilter name condition => .joinFilter (withPrefix tablePrefix name) condition
  | clause => clause

/-- the clause has a table name that takes the prefix, and no table name between backticks in an order -/
def Clause.Takes (tablePrefix : String) : Clause → Prop
  | .table name => Query.Takes tablePrefix name
  | .order field _ => '`' ∉ field.toList
  | .orderList field _ _ => '`' ∉ field.toList
  | .orderPattern field _ _ => '`' ∉ field.toList
  | _ => True

/-- the table names of the clause name their schemas -/
def Clause.IsQualified : Clause → Prop
  | .table name => Query.IsQualified name
  | .join (.table name) _ _ => Query.IsQualified name
  | .joinFilter name _ => Query.IsQualified name
  | _ => True

def Scope.named (tablePrefix : String) (scope : Scope) : Scope :=
  fun args => (scope args).map (Except.map (Clause.named tablePrefix))

/-- the registry whose scopes have the prefix in front of their table names -/
def Registry.named (tablePrefix : String) (r : Registry) : Registry :=
  { r with scopes := r.scopes.map fun entry => (entry.1, entry.2.named tablePrefix) }

/-- what holds of each clause that a scope of the registry can give -/
def Registry.Gives (r : Registry) (p : Clause → Prop) : Prop :=
  ∀ entry ∈ r.scopes, ∀ args clause, .ok clause ∈ entry.2 args → p clause

theorem Clause.named_qualified {clause : Clause} (h : clause.IsQualified) (tablePrefix : String) :
    clause.named tablePrefix = clause := by
  have hname : ∀ {name}, Query.IsQualified name → withPrefix tablePrefix name = name := fun hn => if_pos hn
  cases clause with
  | table name => exact congrArg _ (hname h)
  | join target condition kind =>
    cases target with
    | table name => exact congrArg (fun name => Clause.join (.table name) condition kind) (hname h)
    | sub query => rfl
  | joinFilter name condition => exact congrArg (fun name => Clause.joinFilter name condition) (hname h)
  | _ => rfl

theorem Registry.named_qualified {r : Registry} (h : r.Gives Clause.IsQualified) (tablePrefix : String) :
    r.named tablePrefix = r := by
  have hscope : ∀ entry ∈ r.scopes, (entry.1, entry.2.named tablePrefix) = entry := by
    rintro ⟨name, scope⟩ hentry
    have hclause : ∀ args, ∀ clause ∈ scope args, clause.map (Clause.named tablePrefix) = clause := by
      intro args clause hmem
      cases clause with
      | error e => rfl
      | ok clause => exact congrArg Except.ok (Clause.named_qualified (h _ hentry args clause hmem) tablePrefix)
    exact congrArg (Prod.mk name) (funext fun args => (List.map_congr_left (hclause args)).trans (List.map_id _))
  obtain ⟨scopes, listeners⟩ := r
  exact congrArg (Registry.mk · listeners) ((List.map_congr_left hscope).trans (List.map_id _))

/-! ## Recording -/

theorem Sanitize.qualify_of_notMem {pre cs : List Char} {inside : Bool} (h : '`' ∉ cs) (hinside : inside = false) :
    qualify pre inside cs = cs := by
  subst hinside
  induction cs with
  | nil => rfl
  | cons c cs ih =>
    rw [List.mem_cons, not_or] at h
    have hplain : (c == '`') = false := by simpa using Ne.symm h.1
    simp [qualify, hplain, ih h.2]

/-- without a backtick there is no table name in an order -/
theorem Sanitize.orderField_unquoted {field : String} (h : '`' ∉ field.toList) (tablePrefix : String) :
    orderField tablePrefix field = String.ofList (keep orderMarks field) := by
  rw [orderField, qualify_of_notMem _ rfl]
  exact fun hmem => h (List.mem_filter.1 hmem).1

namespace Draft

/-- the draft without its prefix, which it has in its table name instead; the names of joins have it already -/
def spelledOut (d : Draft) : Draft :=
  { d with tablePrefix := "", table := d.table.map (withPrefix d.tablePrefix) }

/-- to record a clause and to spell out the prefix may change places -/
theorem record_spelledOut (d : Draft) {clause : Clause} (h : clause.Takes d.tablePrefix) :
    d.spelledOut.record (clause.named d.tablePrefix) = (d.record clause).map spelledOut := by
  have hname : ∀ name, d.spelledOut.prefixed (withPrefix d.tablePrefix name) = d.prefixed name := by
    intro name
    rw [prefixed_eq, prefixed_eq]
    exact withPrefix_empty _
  have hfield : ∀ {field}, '`' ∉ field.toList →
      Sanitize.orderField d.spelledOut.tablePrefix field = Sanitize.orderField d.tablePrefix field := by
    intro field hf
    rw [Sanitize.orderField_unquoted hf, Sanitize.orderField_unquoted hf]
  have hmodifier : ∀ modifier, d.spelledOut.withModifier modifier = (d.withModifier modifier).spelledOut := by
    intro modifier
    unfold withModifier
    split <;> split <;> first | rfl | contradiction
  cases clause with
  | join target condition kind =>
    simp only [Clause.named, record, recordJoin]
    split
    · rfl
    · cases target with
      | table name => simp only [JoinTarget.named, hname]; rfl
      | sub query => rfl
  | joinFilter name condition =>
    simp only [Clause.named, record, hname]
    rfl
  | order field way =>
    simp only [Clause.named, record, recordOrder, hfield h]
    cases Direction.read way with
    | error e => rfl
    | ok direction =>
      simp only [bind, Except.bind, Except.map]
      split <;> rfl
  | orderList field values way =>
    simp only [Clause.named, record, orderListText, hfield h]
    cases Direction.read way <;> rfl
  | orderPattern field pattern way =>
    simp only [Clause.named, record, orderPatternText, hfield h]
    cases Direction.read way <;> rfl
  | group field =>
    simp only [Clause.named, record]
    split <;> rfl
  | option name =>
    simp only [Clause.named, record, recordOption]
    split
    · rfl
    · exact congrArg Except.ok (hmodifier _)
    · rfl
  | totalCount => exact congrArg Except.ok (hmodifier _)
  | _ => rfl

/-- the second draft is the first with its prefix spelled out, and the table takes the prefix -/
structure Spelled (tablePrefix : String) (d d' : Draft) : Prop where
  own : d.tablePrefix = tablePrefix
  table : ∀ name ∈ d.table, Takes tablePrefix name
  same : d' = d.spelledOut

theorem spelled_fresh (tablePrefix : String) : Spelled tablePrefix (fresh tablePrefix) (fresh "") where
  own := rfl
  table := nofun
  same := rfl

/-- the table of a draft is that of the last clause for it -/
theorem table_record {d d' : Draft} {clause : Clause} (h : d.record clause = .ok d') :
    (∃ name, clause = .table name ∧ d'.table = some name) ∨ d'.table = d.table := by
  by_cases hf : clause.family? = some .table
  · cases clause with
    | table name =>
      obtain rfl := Except.ok.inj h
      exact .inl ⟨name, rfl, rfl⟩
    | option name => simp only [Clause.family?] at hf; split at hf <;> cases hf
    | _ => cases hf
  · right
    show (d'.only .table).table = (d.only .table).table
    rw [record_other h hf]

section

variable {tablePrefix : String} {d d' : Draft}

/-- **One clause.** It is refused in both drafts for the same reason or recorded in both. -/
theorem spelled_record (h : Spelled tablePrefix d d') {clause : Clause} (hc : clause.Takes tablePrefix) :
    (∃ e, d.record clause = .error e ∧ d'.record (clause.named tablePrefix) = .error e) ∨
      ∃ d₁ d₁', d.record clause = .ok d₁ ∧ d'.record (clause.named tablePrefix) = .ok d₁' ∧
        Spelled tablePrefix d₁ d₁' := by
  obtain ⟨rfl, htable, rfl⟩ := h
  rw [record_spelledOut d hc]
  cases hr : d.record clause with
  | error e => exact .inl ⟨e, rfl, rfl⟩
  | ok d₁ =>
    refine .inr ⟨d₁, d₁.spelledOut, rfl, rfl, tablePrefix_record hr, ?_, rfl⟩
    rcases table_record hr with ⟨name, rfl, hname⟩ | hsame
    · rw [hname]
      rintro _ ⟨⟩
      exact hc
    · rw [hsame]
      exact htable

theorem spelled_recordAll (h : Spelled tablePrefix d d') {clauses : List (Except Error Clause)}
    (hc : ∀ clause, .ok clause ∈ clauses → clause.Takes tablePrefix) :
    let after := d.recordAll clauses
    let after' := d'.recordAll (clauses.map (Except.map (Clause.named tablePrefix)))
    Spelled tablePrefix after.1 after'.1 ∧ after'.2 = after.2 := by
  induction clauses generalizing d d' with
  | nil => exact ⟨h, rfl⟩
  | cons clause rest ih =>
    cases clause with
    | error e => exact ⟨h, rfl⟩
    | ok clause =>
      have hrest : ∀ c, .ok c ∈ rest → c.Takes tablePrefix := fun c hmem => hc c (List.mem_cons_of_mem _ hmem)
      simp only [List.map_cons, Except.map, recordAll]
      rcases spelled_record h (hc clause List.mem_cons_self) with ⟨e, hr, hr'⟩ | ⟨d₁, d₁', hr, hr', h₁⟩
      · rw [hr, hr']
        exact ⟨h, rfl⟩
      · rw [hr, hr']
        exact ih h₁ hrest

theorem scope?_named (tablePrefix : String) (r : Registry) (name : String) :
    (r.named tablePrefix).scope? name = (r.scope? name).map (Scope.named tablePrefix) := by
  unfold Registry.scope? Registry.named
  induction r.scopes with
  | nil => rfl
  | cons entry rest ih =>
    obtain ⟨key, scope⟩ := entry
    simp only [List.map_cons, List.lookup_cons]
    split
    · rfl
    · exact ih

theorem recordIn_plain {clause : Clause} (hc : ∀ name args, clause ≠ .scope name args) (registry : Option Registry)
    (d : Draft) :
    d.recordIn registry clause =
      match d.record clause with
      | .error e => (d, .error e)
      | .ok d' => (d', .ok ()) := by
  unfold recordIn
  split
  · next name args => exact absurd rfl (hc name args)
  · rfl

/-- a clause or a scope -/
theorem spelled_recordIn (h : Spelled tablePrefix d d') {registry : Option Registry}
    (hscopes : ∀ r ∈ registry, r.Gives (Clause.Takes tablePrefix)) {clause : Clause} (hc : clause.Takes tablePrefix) :
    let after := d.recordIn registry clause
    let after' := d'.recordIn (registry.map (Registry.named tablePrefix)) (clause.named tablePrefix)
    Spelled tablePrefix after.1 after'.1 ∧ after'.2 = after.2 := by
  by_cases hscope : ∃ name args, clause = .scope name args
  · obtain ⟨name, args, rfl⟩ := hscope
    cases registry with
    | none => exact ⟨h, rfl⟩
    | some r =>
      simp only [Clause.named, recordIn, Option.map_some, Option.bind_some, scope?_named]
      cases hfound : r.scope? name with
      | none => exact ⟨h, rfl⟩
      | some scope =>
        obtain ⟨_, _, hentries, -⟩ := List.lookup_eq_some_iff.1 hfound
        exact spelled_recordAll h fun clause hmem => hscopes r rfl (name, scope) (by simp [hentries]) args clause hmem
  · have hplain : ∀ name args, clause ≠ .scope name args := fun name args heq => hscope ⟨name, args, heq⟩
    have hnamed : ∀ name args, clause.named tablePrefix ≠ .scope name args := by
      cases clause with
      | scope name args => exact absurd rfl (hplain name args)
      | _ => exact fun _ _ => nofun
    simp only [recordIn_plain hplain, recordIn_plain hnamed]
    rcases spelled_record h hc with ⟨e, hr, hr'⟩ | ⟨d₁, d₁', hr, hr', h₁⟩
    · rw [hr, hr']
      exact ⟨h, rfl⟩
    · rw [hr, hr']
      exact ⟨h₁, rfl⟩

/-- **All clauses.** The drafts stay the same but for the prefix, and clauses are refused alike. -/
theorem spelled_recordEach (h : Spelled tablePrefix d d') {registry : Option Registry}
    (hscopes : ∀ r ∈ registry, r.Gives (Clause.Takes tablePrefix)) {clauses : List Clause}
    (hc : ∀ clause ∈ clauses, clause.Takes tablePrefix) :
    let after := d.recordEach registry clauses
    let after' := d'.recordEach (registry.map (Registry.named tablePrefix)) (clauses.map (Clause.named tablePrefix))
    Spelled tablePrefix after.1 after'.1 ∧ after'.2 = after.2 := by
  induction clauses generalizing d d' with
  | nil => exact ⟨h, rfl⟩
  | cons clause rest ih =>
    obtain ⟨hclause, hrest⟩ := List.forall_mem_cons.1 hc
    obtain ⟨hnext, hverdict⟩ := spelled_recordIn h hscopes hclause
    obtain ⟨hlast, hverdicts⟩ := ih hnext hrest
    exact ⟨hlast, congrArg₂ List.cons hverdict hverdicts⟩

/-! ## Compiling -/

theorem target_spelled (h : Spelled tablePrefix d d') : d'.target = d.target := by
  obtain ⟨rfl, htable, rfl⟩ := h
  have hspelled : d.spelledOut.table = d.table.map (withPrefix d.tablePrefix) := rfl
  unfold target
  simp only [prefixed_eq, hspelled]
  cases hname : d.table with
  | none => rfl
  | some name =>
    obtain ⟨htrimmed, hempty⟩ := trimmed_withPrefix (htable name hname)
    simp only [Option.map_some, htrimmed, hempty]
    split
    · rfl
    · exact congrArg Except.ok (withPrefix_empty _)

theorem compile_spelled (h : Spelled tablePrefix d d') (command : Command) : d'.compile command = d.compile command := by
  have hcheck : command.check d' = command.check d := by
    obtain ⟨rfl, -, rfl⟩ := h
    cases command <;> rfl
  rw [compile_eq, compile_eq, hcheck, target_spelled h]
  obtain ⟨rfl, -, rfl⟩ := h
  cases command <;> rfl

end

/-- what compiles begins with its head, which shows the table with the prefix in front -/
theorem head_of_compile {d : Draft} {command : Command} {s : Statement} (h : d.compile command = .ok s) :
    ∃ name, d.table = some name ∧ ∃ sections,
      s.text = Text.joinWith " " (command.head d (withPrefix d.tablePrefix (Text.trimmed name)) ++ sections) := by
  obtain ⟨-, table, htarget, hassemble⟩ := compile_eq_ok.1 h
  obtain ⟨rendered, rfl⟩ := assemble_eq_ok.1 hassemble
  cases hname : d.table with
  | none =>
    rw [target, hname] at htarget
    cases htarget
  | some name =>
    have hshown : table = withPrefix d.tablePrefix (Text.trimmed name) := by
      rw [target, hname, Option.map_some] at htarget
      dsimp only at htarget
      split_ifs at htarget
      rw [← Except.ok.inj htarget, prefixed_eq]
    refine ⟨name, rfl, (rendered.front ++ rendered.wheres ++ rendered.back).parts, ?_⟩
    simp [Rendered.statement, Section.statement, Section.ofParts, hshown]

/-- **The prefix is applied once.** Clauses are recorded and refused, and drafts compile, as though the prefix had been
written in front of each table name that does not name its schema and there were none: in whatever order the clauses are,
scopes among them, and for every command. What compiles shows the prefix in front of the name of its table. Names that
name their schemas stay as they are under every prefix. -/
theorem prefix_applied_once (tablePrefix : String) (registry : Option Registry) {clauses : List Clause}
    (htakes : ∀ clause ∈ clauses, clause.Takes tablePrefix)
    (hscopes : ∀ r ∈ registry, r.Gives (Clause.Takes tablePrefix)) :
    let prefixed := (fresh tablePrefix).recordEach registry clauses
    let named := (fresh "").recordEach (registry.map (Registry.named tablePrefix)) (clauses.map (Clause.named tablePrefix))
    (named.2 = prefixed.2 ∧ ∀ command, named.1.compile command = prefixed.1.compile command) ∧
      (∀ command s, prefixed.1.compile command = .ok s → ∃ name, prefixed.1.table = some name ∧ ∃ sections,
        s.text = Text.joinWith " " (command.head prefixed.1 (withPrefix tablePrefix (Text.trimmed name)) ++ sections)) ∧
      ((∀ clause ∈ clauses, clause.IsQualified) → (∀ r ∈ registry, r.Gives Clause.IsQualified) →
        named = (fresh "").recordEach registry clauses) := by
  intro prefixed named
  obtain ⟨hspelled, hverdicts⟩ := spelled_recordEach (spelled_fresh tablePrefix) hscopes htakes
  have hfront : prefixed.1.tablePrefix = tablePrefix := hspelled.own
  refine ⟨⟨hverdicts, compile_spelled hspelled⟩, fun command s hs => hfront ▸ head_of_compile hs,
    fun hclauses hregistry => ?_⟩
  have hsame : clauses.map (Clause.named tablePrefix) = clauses :=
    (List.map_congr_left fun clause hmem => Clause.named_qualified (hclauses clause hmem) tablePrefix).trans (List.map_id _)
  have hscoped : registry.map (Registry.named tablePrefix) = registry := by
    cases registry with
    | none => rfl
    | some r => exact congrArg some (Registry.named_qualified (hregistry r rfl) tablePrefix)
  show (fresh "").recordEach (registry.map _) (clauses.map _) = _
  rw [hsame, hscoped]

/-- one scope, which joins a table by its name and another one with its schema -/
def joining : Registry where
  scopes := [("joined", fun _ => [.ok (.join (.table "users u") "u.id = o.user" "left"),
    .ok (.join (.table "log.entries e") "e.user = u.id" "")])]
  listeners := 0

/-- a condition for a joined table by its name, and a join that is refused -/
def ordered : List Clause :=
  [.table "orders o", .scope "joined" [], .join (.table "t") "" "sideways",
   .joinFilter "users u" ⟨.or, "u.age", ">", .operand (.bind (.int 17))⟩, .order "o.id" "desc"]

theorem prefix_applied_once_ordered :
    (∀ clause ∈ ordered, clause.Takes "p_") ∧ joining.Gives (Clause.Takes "p_") ∧
      ordered.map (Clause.named "p_") =
        [.table "p_orders o", .scope "joined" [], .join (.table "p_t") "" "sideways",
         .joinFilter "p_users u" ⟨.or, "u.age", ">", .operand (.bind (.int 17))⟩, .order "o.id" "desc"] ∧
      ((fresh "p_").recordEach (some joining) ordered).1.compile (.delete true) =
        .ok ⟨"DELETE o FROM p_orders o LEFT JOIN p_users u on u.id = o.user OR u.age > ? "
          ++ "JOIN log.entries e on e.user = u.id ORDER BY o.id DESC", [.int 17]⟩ ∧
      ((fresh "").recordEach (some (joining.named "p_")) (ordered.map (Clause.named "p_"))).1.compile (.delete true) =
        ((fresh "p_").recordEach (some joining) ordered).1.compile (.delete true) := by
  have htakes : ∀ clause ∈ ordered, clause.Takes "p_" := by
    simp only [ordered, List.forall_mem_cons, List.not_mem_nil, false_implies, implies_true, and_true]
    exact ⟨.inr (by decide), trivial, trivial, trivial, show '`' ∉ "o.id".toList by decide⟩
  have hscopes : joining.Gives (Clause.Takes "p_") := by
    intro entry hentry args clause hmem
    obtain rfl := List.mem_singleton.1 hentry
    rcases List.mem_cons.1 hmem with ⟨⟨⟩⟩ | hlast
    · trivial
    · obtain ⟨⟨⟩⟩ := List.mem_singleton.1 hlast
      trivial
  obtain ⟨⟨-, hcompile⟩, -⟩ := prefix_applied_once "p_" (some joining) htakes (by rintro _ ⟨⟩; exact hscopes)
  exact ⟨htakes, hscopes, rfl, by rfl, hcompile (.delete true)⟩

end Draft

end Query

end SqlSession
