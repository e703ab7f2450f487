/-
The table that a name denotes.

A connection puts the names of tables into what it sends in four ways: in statements that are composed, in the request
for the columns of a table, in locks, and as values of a lookup. `Naming.written` is what stands for a name in each of
them, `Naming.Sends` says that it is what the server gets, and `denoted` is the schema and the table read from it.
- `sends_written`: whatever state a connection is in, and whatever happens meanwhile;
- `one_name_one_table`: a name without a schema denotes one table in all ways. With a schema a composed statement takes
  the table as it is written, and its columns are those of the table with the prefix.
So with a prefix a name that has a schema is read in two ways (`one_name_two_tables`).
-/
import SqlSession.Proofs.Query.TablePrefix
import SqlSession.Proofs.Session.Lookup

namespace SqlSession

open Query (Draft Command)

/-! ## Reading names -/

/-- the text without backticks -/
def unquoted (text : String) : String :=
  String.ofList (text.toList.filter (· != '`'))

/-- the schema and the table of a name; one without a schema is of the database -/
def denoted (database name : String) : String × String :=
  let cs := (unquoted name).toList
  match cs.dropWhile (· != '.') with
  | [] => (database, unquoted name)
  | _ :: table => (String.ofList (cs.takeWhile (· != '.')), String.ofList table)

theorem unquoted_append (a b : String) : unquoted (a ++ b) = unquoted a ++ unquoted b := by
  rw [unquoted, String.toList_append, List.filter_append, String.ofList_append]
  rfl

theorem denoted_congr {a b : String} (h : unquoted a = unquoted b) (database : String) :
    denoted database a = denoted database b := by
  rw [denoted, denoted, h]

theorem mem_unquoted {text : String} {c : Char} (h : c ∈ (unquoted text).toList) : c ∈ text.toList := by
  rw [unquoted, String.toList_ofList] at h
  exact (List.mem_filter.1 h).1

theorem denoted_plain {name : String} (h : '.' ∉ name.toList) (database : String) :
    denoted database name = (database, unquoted name) := by
  have hnone : (unquoted name).toList.dropWhile (· != '.') = [] := by
    rw [List.dropWhile_eq_nil_iff]
    intro c hc
    have hdot : c ≠ '.' := by
      rintro rfl
      exact h (mem_unquoted hc)
    simpa using hdot
  rw [denoted, hnone]

theorem denoted_dotted {schema : String} (h : '.' ∉ schema.toList) (table database : String) :
    denoted database (schema ++ "." ++ table) = (unquoted schema, unquoted table) := by
  have hall : ∀ c ∈ (unquoted schema).toList, (c != '.') = true := by
    intro c hc
    have hdot : c ≠ '.' := by
      rintro rfl
      exact h (mem_unquoted hc)
    simpa using hdot
  have htext : (unquoted (schema ++ "." ++ table)).toList =
      (unquoted schema).toList ++ '.' :: (unquoted table).toList := by
    rw [unquoted_append, unquoted_append]
    simp [show unquoted "." = "." from rfl]
  rw [denoted, htext, List.dropWhile_append_of_pos hall, List.takeWhile_append_of_pos hall]
  simp

/-! ## Writing names -/

/-- the ways in which the name of a table gets into what is sent -/
inductive Naming where
  /-- in a statement that is composed -/
  | composed
  /-- where the columns of the table are asked for -/
  | columns
  | lock
  /-- as a value, where the table is looked up -/
  | lookup

namespace Naming

/-- what stands for the name -/
def written (tablePrefix name : String) : Naming → String
  | composed => Query.withPrefix tablePrefix (Text.trimmed name)
  | columns => Schema.quotedTable tablePrefix name
  | lock => tablePrefix ++ name
  | lookup => tablePrefix ++ name

end Naming

theorem quotedTable_plain {name : String} (h : ¬Query.IsQualified name) (tablePrefix : String) :
    Schema.quotedTable tablePrefix name = "`" ++ tablePrefix ++ name ++ "`" := by
  have hall : name.toList.takeWhile (· != '.') = name.toList := by
    rw [List.takeWhile_eq_self_iff]
    intro c hc
    have hdot : c ≠ '.' := by
      rintro rfl
      exact h hc
    simpa using hdot
  rw [Schema.quotedTable, hall, List.drop_length]

theorem quotedTable_dotted {schema : String} (h : '.' ∉ schema.toList) (tablePrefix table : String) :
    Schema.quotedTable tablePrefix (schema ++ "." ++ table) =
      "`" ++ schema ++ "`.`" ++ tablePrefix ++ table ++ "`" := by
  have hall : ∀ c ∈ schema.toList, (c != '.') = true := by
    intro c hc
    have hdot : c ≠ '.' := by
      rintro rfl
      exact h hc
    simpa using hdot
  have htext : (schema ++ "." ++ table).toList = schema.toList ++ '.' :: table.toList := by simp
  rw [Schema.quotedTable, htext, List.takeWhile_append_of_pos hall]
  simp

/-- the text of the request that a client made last -/
def World.lastAsked? (w : World) (id : Nat) : Option String :=
  ((w.own id).filterMap fun e => e.request?.map fun request => request.2.text).getLast?

/-- the connection, used with the name, sends this text for it; in its drafts the prefix is that of the connection -/
def Naming.Sends (others : World → World → Prop) (c : Connection) (name text : String) : Naming → Prop
  | composed => ∀ (d : Draft) (command : Command) (s : Statement), d.tablePrefix = c.config.tablePrefix →
      d.table = some name → d.compile command = .ok s →
        ∃ sections, s.text = Text.joinWith " " (command.head d text ++ sections)
  | columns => ∀ w rows c' w', Op.Ends others (Op.columns name) c w (.ok rows) c' w' →
      w'.lastAsked? c.client.id = some ("SHOW COLUMNS FROM " ++ text)
  | lock => ∀ w c' w', Op.Ends others (Op.lock [name]) c w (.ok ()) c' w' →
      w'.lastAsked? c.client.id = some ("LOCK TABLES " ++ text ++ " " ++ c.lockMethod.text)
  | lookup => ∀ w found c' w', Op.Ends others (Op.tablesExist [name]) c w (.ok found) c' w' →
      w'.lastRan? c.client.id = some (lookupStatement c.config.database [text])

namespace Op

variable {others : World → World → Prop} {c c' : Connection} {w w' : World}

theorem lastAsked_query {text : String} {own : Option Duration} {rows : RowSet}
    (h : Ends others (query text own) c w (.ok rows) c' w') (ha : Apart others c.client.id) :
    w'.lastAsked? c.client.id = some text := by
  obtain ⟨c₁, w₁, limit, -, -, hown⟩ := ends_query_ok h ha
  rw [World.lastAsked?, hown, List.filterMap_append]
  simp [Entry.request?, Request.text]

/-- the count of rows is asked for without running a prepared statement -/
theorem lastRan_fetchTotalCount (h : Ends others fetchTotalCount c w (.ok ()) c' w') (ha : Apart others c.client.id) :
    w'.lastRan? c.client.id = w.lastRan? c.client.id := by
  obtain ⟨e, -, heq, -⟩ | ⟨limit, x, client, w₁, -, hquerying, hown, hend⟩ := ends_fetchTotalCount h ha
  · cases heq
  obtain ⟨cause, e, -, heq, -⟩ | ⟨reply, count, rfl, -, -⟩ := hend
  · cases heq
  obtain ⟨⟨entries, hexchange, hasked⟩, -⟩ := exchange_querying hquerying ha
  cases hexchange
  rw [World.lastRan?, hown, hasked, List.filterMap_append]
  exact congrArg List.getLast? (List.append_nil _)

end Op

/-- **What is written is sent**, whatever state the connection is in. -/
theorem sends_written {others : World → World → Prop} {c : Connection} (ha : Apart others c.client.id) (name : String)
    (naming : Naming) : naming.Sends others c name (naming.written c.config.tablePrefix name) := by
  cases naming with
  | composed =>
    intro d command s hfront htable hcompile
    obtain ⟨shown, hshown, sections, htext⟩ := Draft.head_of_compile hcompile
    obtain rfl : name = shown := Option.some.inj (htable.symm.trans hshown)
    exact ⟨sections, hfront ▸ htext⟩
  | columns =>
    intro w rows c' w' h
    rw [Op.columns, Op.ends_get_bind] at h
    obtain ⟨e, -, heq⟩ | ⟨found, c₁, w₁, hquery, h⟩ := Op.ends_bind.1 h
    · cases heq
    rw [Op.ends_get_bind] at h
    obtain ⟨-, -, rfl⟩ := Op.ends_pure.1 h
    exact Op.lastAsked_query hquery ha
  | lock =>
    intro w c' w' h
    rw [Op.lock, Op.ends_get_bind] at h
    obtain ⟨x, hquery, hx⟩ := Op.ends_discard.1 h
    cases x with
    | error e => cases hx
    | ok rows =>
      have hasked := Op.lastAsked_query hquery ha
      simpa [Naming.written, Text.joinWith, String.append_assoc] using hasked
  | lookup =>
    intro w found c' w' h
    rw [Op.Ends, Op.tablesExist_eq c (List.cons_ne_nil name [])] at h
    have ha₀ : Apart others c.clearDraft.client.id := ha
    obtain ⟨e, -, heq⟩ | ⟨reply, c₁, w₁, hexecute, h⟩ := Op.ends_bind.1 h
    · cases heq
    obtain ⟨hlast, hid⟩ := Op.lastRan_execute hexecute ha₀
    obtain ⟨e, -, heq⟩ | ⟨_, c₂, w₂, hcount, h⟩ := Op.ends_bind.1 h
    · cases heq
    rw [Op.ends_get_bind] at h
    obtain ⟨-, -, rfl⟩ := Op.ends_pure.1 h
    have hsame := Op.lastRan_fetchTotalCount hcount (hid.symm ▸ ha)
    rw [hid] at hsame
    exact hsame.trans hlast

/-! ## One table -/

theorem unquoted_written {name : String} (hplain : ¬Query.IsQualified name) (hname : Text.trimmed name = name)
    (tablePrefix : String) (naming : Naming) :
    unquoted (naming.written tablePrefix name) = unquoted (tablePrefix ++ name) := by
  cases naming with
  | composed => rw [Naming.written, hname, Query.withPrefix, if_neg hplain]
  | columns =>
    rw [Naming.written, quotedTable_plain hplain]
    simp [unquoted_append, show unquoted "`" = "" from rfl]
  | lock => rfl
  | lookup => rfl

/-- the columns of a name with a schema are those of the table with the prefix in it -/
theorem denoted_quotedTable {schema : String} (h : '.' ∉ schema.toList) (tablePrefix table database : String) :
    denoted database (Schema.quotedTable tablePrefix (schema ++ "." ++ table)) =
      (unquoted schema, unquoted (tablePrefix ++ table)) := by
  have htext : unquoted (Schema.quotedTable tablePrefix (schema ++ "." ++ table)) =
      unquoted (schema ++ "." ++ (tablePrefix ++ table)) := by
    rw [quotedTable_dotted h]
    simp [unquoted_append, String.append_assoc, show unquoted "`" = "" from rfl, show unquoted "`.`" = "." from rfl,
      show unquoted "." = "." from rfl]
  rw [denoted_congr htext, denoted_dotted h]

/-- **One name, one table.** A name without a schema, and without blanks around it, denotes the same table in all ways:
the one that has the name with the prefix, in the database if the prefix names no schema. A name with a schema is taken
as it is by a statement that is composed; the columns are those of the table with the prefix in that schema. Where the
prefix is empty these are the same table, and a lock is for it too. -/
theorem one_name_one_table {others : World → World → Prop} {c : Connection} (ha : Apart others c.client.id)
    {name : String} (hname : Text.trimmed name = name) :
    let database := c.config.database
    let tablePrefix := c.config.tablePrefix
    (¬Query.IsQualified name → ∀ naming : Naming,
      let text := naming.written tablePrefix name
      naming.Sends others c name text ∧ unquoted text = unquoted (tablePrefix ++ name) ∧
        denoted database text = denoted database (tablePrefix ++ name) ∧
        ('.' ∉ tablePrefix.toList → denoted database text = (database, unquoted (tablePrefix ++ name)))) ∧
    ∀ schema table, name = schema ++ "." ++ table → '.' ∉ schema.toList →
      Naming.composed.Sends others c name name ∧ denoted database name = (unquoted schema, unquoted table) ∧
        Naming.columns.Sends others c name (Schema.quotedTable tablePrefix name) ∧
        denoted database (Schema.quotedTable tablePrefix name) =
          (unquoted schema, unquoted (tablePrefix ++ table)) ∧
        (tablePrefix = "" → Naming.lock.Sends others c name name ∧
          denoted database (Schema.quotedTable tablePrefix name) = denoted database name) := by
  refine ⟨fun hplain naming => ?_, fun schema table heq hschema => ?_⟩
  · have htext := unquoted_written hplain hname c.config.tablePrefix naming
    refine ⟨sends_written ha name naming, htext, denoted_congr htext _, fun hfront => ?_⟩
    have hnone : '.' ∉ (c.config.tablePrefix ++ name).toList := by
      rw [String.toList_append, List.mem_append]
      exact not_or.2 ⟨hfront, hplain⟩
    rw [denoted_congr htext, denoted_plain hnone]
  · subst heq
    have hqualified : Query.IsQualified (schema ++ "." ++ table) := by simp [Query.IsQualified]
    have hsends := sends_written ha (schema ++ "." ++ table) .composed
    rw [Naming.written, hname, Query.withPrefix, if_pos hqualified] at hsends
    have hasked := denoted_quotedTable hschema c.config.tablePrefix table c.config.database
    have hdenoted := denoted_dotted hschema table c.config.database
    refine ⟨hsends, hdenoted, sends_written ha _ .columns, hasked, fun hnone => ⟨?_, ?_⟩⟩
    · have hlocked := sends_written ha (schema ++ "." ++ table) .lock
      rwa [Naming.written, hnone, String.empty_append] at hlocked
    · rw [hasked, hdenoted, show c.config.tablePrefix = "" from hnone, String.empty_append]

/-- a name without a schema, where columns are asked for and where it is looked up -/
theorem one_name_one_table_users :
    let c := Connection.new (.new 0) prefixedConfig .empty
    let others := fun w w' : World => w' = w
    Text.trimmed "users" = "users" ∧ ¬Query.IsQualified "users" ∧
      Naming.columns.Sends others c "users" "`p_users`" ∧ Naming.lookup.Sends others c "users" "p_users" ∧
      denoted "" "`p_users`" = ("", "p_users") ∧ denoted "" "p_users" = ("", "p_users") := by
  intro c others
  have ha : Apart others c.client.id := fun w w' heq => by rw [heq]
  obtain ⟨hplain, -⟩ := one_name_one_table ha (show Text.trimmed "users" = "users" by decide)
  obtain ⟨hcolumns, -, -, hasked⟩ := hplain (by decide) .columns
  obtain ⟨hlookup, -, -, hlooked⟩ := hplain (by decide) .lookup
  have htext : Naming.columns.written c.config.tablePrefix "users" = "`p_users`" := by decide
  have hvalue : Naming.lookup.written c.config.tablePrefix "users" = "p_users" := by decide
  have htable : unquoted (c.config.tablePrefix ++ "users") = "p_users" := by decide
  have hfront : '.' ∉ c.config.tablePrefix.toList := by decide
  rw [htext] at hcolumns hasked
  rw [hvalue] at hlookup hlooked
  rw [htable] at hasked hlooked
  exact ⟨by decide, by decide, hcolumns, hlookup, hasked hfront, hlooked hfront⟩

/-- a prefix, and a name with a schema: it denotes one table where a statement is composed and another where columns are
asked for; blanks around a name stay in front of it there -/
theorem one_name_two_tables :
    let c := Connection.new (.new 0) prefixedConfig .empty
    let composed := fun name => { c.draft with table := some name }.compileSelect
    let asked := fun name => ((Op.columns name c).run 0 .fresh).2.2.lastAsked? 0
    composed "app.users" = .ok ⟨"SELECT * FROM app.users", []⟩ ∧
      asked "app.users" = some "SHOW COLUMNS FROM `app`.`p_users`" ∧
      denoted "" "app.users" = ("app", "users") ∧ denoted "" "`app`.`p_users`" = ("app", "p_users") ∧
      composed " users" = .ok ⟨"SELECT * FROM p_users", []⟩ ∧
      asked " users" = some "SHOW COLUMNS FROM `p_ users`" := by
  intro c composed asked
  refine ⟨rfl, ?_, by decide, by decide, rfl, ?_⟩
  · decide
  · decide

end SqlSession
