/-
Which tables are there.

A lookup binds a database and names, asks the server for the count of rows behind it, and compares that count with the
number of names.
- `compile_lookup`: the clauses of a lookup compile to the same statement whatever was left on the connection;
- `tablesExist_eq`: it is run, then its rows are counted, and nothing else is asked for;
- `counted_fetchTotalCount`: the count is the server's answer for the statement that it has run last;
- `card_matching_eq_length_iff`: as many tables as names are found if no name is repeated and each is a table's;
- `tables_looked_up`: so a lookup answers that all tables are there if they are, unless a name is repeated.
A lookup of one table under the same name twice says that it is not there (`tables_looked_up_repeated`).
-/
import SqlSession.Proofs.Session.Calm
import SqlSession.Proofs.Session.Events
import SqlSession.Proofs.Session.Isolation
import SqlSession.Session.Describe

namespace SqlSession

open Query (Clause Draft)

/-! ## The statement -/

/-- the statement that looks up names among the tables of a database -/
def lookupStatement (database : String) (names : List String) : Statement :=
  ⟨"SELECT SQL_CALC_FOUND_ROWS table_name FROM information_schema.tables WHERE table_schema = ? AND table_name in ( "
      ++ Text.joinWith ", " (names.map fun _ => "?") ++ " ) LIMIT " ++ toString names.length,
    .text database :: names.map Datum.text⟩

/-- the draft that a lookup leaves of a connection without clauses -/
def lookupDraft (tablePrefix database : String) (names : List String) : Draft :=
  { Draft.fresh tablePrefix with
    table := some "information_schema.tables"
    columns := "table_name"
    wheres := [⟨.and, "table_schema", "=", .operand (.bind (.text database))⟩,
      ⟨.and, "table_name", "in", .list (names.map Datum.text)⟩]
    modifiers := [.calcFoundRows]
    limit := some ⟨none, names.length⟩ }

namespace Query.Condition

variable {operator : String}

/-- a comparison of a field -/
theorem render_compared (connective : Connective) (field : String) (value : Operand)
    (hk : OperatorKind.ofText (Text.trimmed operator) = .other)
    (hf : field.isEmpty = false) :
    render ⟨connective, field, operator, .operand value⟩ =
      .ok ⟨field ++ " " ++ (Text.trimmed operator ++ " " ++ (value.render field).text), (value.render field).binds⟩ := by
  have hkind : kind ⟨connective, field, operator, .operand value⟩ = .other := hk
  have hfield : fieldParts ⟨connective, field, operator, .operand value⟩ = [.ofText field] := by
    rw [fieldParts, hf, if_neg Bool.false_ne_true]
  unfold render
  rw [hkind, hfield]
  simp [otherParts, trimmedOperator, Statement.join, Statement.ofText, Text.joinWith]

/-- a field in a list -/
theorem render_listed (connective : Connective) (field : String) (value : Datum) (values : List Datum)
    (hk : OperatorKind.ofText (Text.trimmed operator) = .membership) (hf : field.isEmpty = false) :
    render ⟨connective, field, operator, .list (value :: values)⟩ =
      .ok ⟨field ++ " " ++ (Text.trimmed operator ++ " " ++
        ("( " ++ Text.joinWith ", " ((value :: values).map fun _ => "?") ++ " )")), value :: values⟩ := by
  have hkind : kind ⟨connective, field, operator, .list (value :: values)⟩ = .membership := hk
  have hfield : fieldParts ⟨connective, field, operator, .list (value :: values)⟩ = [.ofText field] := by
    rw [fieldParts, hf, if_neg Bool.false_ne_true]
  unfold render
  rw [hkind, hfield]
  simp [membershipParts, trimmedOperator, Statement.join, Statement.ofText, Text.joinWith, bind, Except.bind]

end Query.Condition

open Query.Condition in
theorem conditions_lookup (tablePrefix database : String) {names : List String} (h : names ≠ []) :
    chain false (lookupDraft tablePrefix database names).wheres =
      .ok ⟨"table_schema = ? AND table_name in ( " ++ Text.joinWith ", " (names.map fun _ => "?") ++ " )",
        .text database :: names.map Datum.text⟩ := by
  obtain ⟨name, rest, rfl⟩ := List.exists_cons_of_ne_nil h
  have hequals : Query.OperatorKind.ofText (Text.trimmed "=") = .other := by decide +kernel
  have hin : Query.OperatorKind.ofText (Text.trimmed "in") = .membership := by decide +kernel
  have hschema := render_compared .and "table_schema" (.bind (.text database)) hequals rfl
  have hname := render_listed .and "table_name" (.text name) (rest.map Datum.text) hin rfl
  have hall : renderAll false (lookupDraft tablePrefix database (name :: rest)).wheres = .ok [_, _] :=
    (renderAll_cons_ok rfl).2 ⟨_, _, hschema, (renderAll_cons_ok rfl).2 ⟨_, _, hname, rfl, rfl⟩, rfl⟩
  have htext : "table_schema" ++ " " ++ (Text.trimmed "=" ++ " " ++ "?") ++ " " ++
      ("AND " ++ ("table_name" ++ " " ++ (Text.trimmed "in" ++ " " ++ "( "))) =
        "table_schema = ? AND table_name in ( " := by decide +kernel
  have hmarks : ((Datum.text name :: rest.map Datum.text).map fun _ => "?") = (name :: rest).map fun _ => "?" := by
    rw [List.map_cons, List.map_map]
    rfl
  rw [hmarks] at hall
  rw [chain, hall, ← htext]
  refine congrArg Except.ok (congrArg₂ Statement.mk ?_ ?_)
  · show "table_schema" ++ " " ++ (Text.trimmed "=" ++ " " ++ "?") ++ " " ++ ("AND " ++ ("table_name" ++ " " ++
      (Text.trimmed "in" ++ " " ++ ("( " ++ Text.joinWith ", " ((name :: rest).map fun _ => "?") ++ " )")))) = _
    simp only [String.append_assoc]
  · simp [Query.Operand.render, link, Statement.ofText]

theorem Query.Draft.conditionSection_shown (keyword : String) {conditions : List Query.Condition} {s : Statement}
    (h : Query.Condition.chain false conditions = .ok s) (hs : s.text ≠ "") :
    conditionSection keyword conditions = .ok (.ofStatement (.ofText (keyword ++ " ") ++ s)) := by
  have hempty : ¬s.text.isEmpty = true := fun he => hs (String.isEmpty_iff.1 he)
  have hshown : ¬(Statement.ofText (keyword ++ " ") ++ s).text.isEmpty = true := by
    intro he
    exact hs (String.append_eq_empty_iff.1 (String.isEmpty_iff.1 he)).2
  rw [conditionSection, h]
  show Except.ok (Query.Section.ofBody (if s.text.isEmpty = true then s else .ofText (keyword ++ " ") ++ s)) = _
  rw [if_neg hempty, Query.Section.ofBody, if_neg hshown]
  rfl

/-- **The statement of a lookup** is the same behind every prefix, for all names. -/
theorem compile_lookup (tablePrefix database : String) {names : List String} (h : names ≠ []) :
    (lookupDraft tablePrefix database names).compile .select = .ok (lookupStatement database names) := by
  have htrimmed : Text.trimmed "information_schema.tables" = "information_schema.tables" := by decide +kernel
  have hqualified : ∀ d : Draft, d.prefixed "information_schema.tables" = "information_schema.tables" := by
    intro d
    have hdot : "information_schema.tables".toList.contains '.' = true := by decide +kernel
    rw [Draft.prefixed, hdot, Bool.or_true, if_pos rfl]
  have htarget : (lookupDraft tablePrefix database names).target = .ok "information_schema.tables" := by
    unfold Draft.target
    simp only [lookupDraft, Option.map_some, htrimmed]
    rw [if_neg (by decide), hqualified]
  have hwheres := Draft.conditionSection_shown "WHERE" (conditions_lookup tablePrefix database h)
    (fun he => nomatch (String.append_eq_empty_iff.1 he).2)
  refine Draft.compile_eq_ok.2 ⟨rfl, _, htarget,
    Draft.assemble_eq_ok.2 ⟨⟨.none, _, .none, .none, rfl, hwheres, rfl, rfl⟩, ?_⟩⟩
  have hhead : Query.Command.select.head (lookupDraft tablePrefix database names) "information_schema.tables" =
      ["SELECT", "SQL_CALC_FOUND_ROWS", "table_name", "FROM", "information_schema.tables"] := rfl
  have hgroups : Draft.groupSection (lookupDraft tablePrefix database names).groups = .none := rfl
  have horders : Draft.orderSection (lookupDraft tablePrefix database names).orders = .none := rfl
  have hlimit : Draft.limitSection (lookupDraft tablePrefix database names).limit =
      .ofParts ["LIMIT " ++ toString names.length] := rfl
  have hlock : Draft.lockSection (lookupDraft tablePrefix database names).lock = .none := rfl
  rw [Draft.Rendered.statement, Draft.Rendered.front, Draft.Rendered.back, hhead, hgroups, horders, hlimit, hlock]
  have hfront :
    "SELECT SQL_CALC_FOUND_ROWS table_name FROM information_schema.tables WHERE table_schema = ? AND table_name in ( " =
      "SELECT" ++ (" " ++ ("SQL_CALC_FOUND_ROWS" ++ (" " ++ ("table_name" ++ (" " ++ ("FROM" ++ (" " ++
        ("information_schema.tables" ++ (" " ++ ("WHERE" ++ (" " ++ "table_schema = ? AND table_name in ( "))))))))))) := by
    simp only [String.reduceAppend]
  have hback : " ) LIMIT " = " )" ++ (" " ++ "LIMIT ") := by simp only [String.reduceAppend]
  simp only [Query.Command.data, Draft.dataSection, Query.Section.statement, Query.Section.parts_append,
    Query.Section.binds_append, Query.Section.ofParts, Query.Section.ofStatement, Query.Section.none, List.nil_append,
    List.append_nil, List.cons_append, Text.joinWith, Statement.text_append, Statement.text_ofText,
    Statement.binds_append, Statement.binds_ofText, String.append_assoc]
  unfold lookupStatement
  simp only [hfront, hback, String.append_assoc]

/-! ## The program -/

namespace Op

/-- operations that are alike here go on alike -/
theorem bind_congr_here {α β : Type} {op op' : Op α} {c c' : Connection} (h : op c = op' c') (k : α → Op β) :
    (op >>= k) c = (op' >>= k) c' := by
  show (op c).bind (fun p => ExceptT.bindCont k p.1 p.2) = _
  rw [h]
  rfl

/-- the clauses of a lookup take the place of those that were left -/
theorem recorded_lookup (c : Connection) (database : String) (names : List String) (k : Unit → Op Bool) :
    (do
      modify Connection.clearDraft
      record (.table "information_schema.tables")
      record (.fields ["table_name"])
      record (.filter ⟨.and, "table_schema", "=", .operand (.bind (.text database))⟩)
      record (.filterIn "table_name" (.list (names.map Datum.text)))
      record .totalCount
      record (.limit ⟨none, names.length⟩)
      k () : Op Bool) c = k () { c with draft := lookupDraft c.draft.tablePrefix database names } := by
  rfl

/-- **The program of a lookup.** Clauses that were left on the connection are gone, the statement is run, its rows are
counted, and the count is compared. -/
theorem tablesExist_eq (c : Connection) {names : List String} (h : names ≠ []) :
    tablesExist names c = (do
      let _ ← execute (lookupStatement c.config.database (names.map (c.config.tablePrefix ++ ·))) none
      fetchTotalCount
      pure ((← get).totalCount == names.length) : Op Bool) c.clearDraft := by
  let prefixed := names.map (c.config.tablePrefix ++ ·)
  let c₁ : Connection := { c with draft := lookupDraft c.draft.tablePrefix c.config.database prefixed }
  have hempty : ¬names.isEmpty = true := by simpa using h
  have hprefixed : prefixed ≠ [] := by simpa [prefixed] using h
  have hvalues : (names.map fun table => Datum.text (c.config.tablePrefix ++ table)) = prefixed.map Datum.text :=
    (List.map_map ..).symm
  have hlength : (prefixed.map Datum.text).length = names.length := by simp [prefixed]
  have hlength' : prefixed.length = names.length := by simp [prefixed]
  have hrecorded : tablesExist names c = (do
      discard (select false none)
      pure ((← get).totalCount == names.length) : Op Bool) c₁ := by
    rw [tablesExist]
    show (if names.isEmpty = true then _ else _ : Op Bool) c = _
    rw [if_neg hempty, hvalues, hlength, ← hlength']
    exact recorded_lookup c c.config.database prefixed fun _ => do
      discard (select false none)
      pure ((← get).totalCount == prefixed.length)
  have hcompiled : c₁.draft.compileSelect = .ok (lookupStatement c.config.database prefixed) :=
    compile_lookup c.draft.tablePrefix c.config.database hprefixed
  have hselect := Terminal.select_eq false none c₁
  rw [hcompiled] at hselect
  have hrun : select false none c₁ = (do
      let reply ← execute (lookupStatement c.config.database prefixed) none
      fetchTotalCount
      pure (.rows reply.rows) : Op Selection) c.clearDraft := hselect
  have hdiscarded : discard (select false none) c₁ = (do
      let _ ← execute (lookupStatement c.config.database prefixed) none
      fetchTotalCount : Op Unit) c.clearDraft := by
    have hpure := bind_congr_here hrun fun _ => pure ()
    simp only [bind_assoc, pure_bind, bind_pure_unit] at hpure
    exact hpure
  rw [hrecorded, bind_congr_here hdiscarded]
  simp only [bind_assoc]
  rfl

end Op

/-! ## The count -/

/-- the statement that an entry says was run -/
def Entry.ran? : Entry → Option Statement
  | .succeeded _ (.execute s) => some s
  | _ => none

/-- the statement that was run last for a client -/
def World.lastRan? (w : World) (id : Nat) : Option Statement :=
  ((w.own id).filterMap Entry.ran?).getLast?

theorem lastRan_succeeded {w w₀ : World} {id : Nat} {session : SessionId} {limit : Option Duration} {s : Statement}
    (h : w.own id = w₀.own id ++ [.received session (.execute s) limit, .succeeded session (.execute s)])
    : w.lastRan? id = some s := by
  rw [World.lastRan?, h, List.filterMap_append]
  exact List.getLast?_concat

theorem lastRan_received {w w₀ : World} {id : Nat} {session : SessionId} {request : Request} {limit : Option Duration}
    (h : w.own id = w₀.own id ++ [.received session request limit]) : w.lastRan? id = w₀.lastRan? id := by
  rw [World.lastRan?, h, List.filterMap_append]
  exact congrArg List.getLast? (List.append_nil _)

/-- the server has counted the rows of the last lookup: as many as tables of its database have one of its names -/
def CountsTables (tables : String → Finset String) (id : Nat) (w : World) : Prop :=
  ∀ database names, w.lastRan? id = some (lookupStatement database names) →
    ((w.server.reply Op.foundRowsText).rows.first?.bind fun r => r.get? "count") =
      some (.int ((tables database).filter (· ∈ names)).card)

/-- as many tables as names are found if and only if no name is repeated and each is a table's -/
theorem card_matching_eq_length_iff (tables : Finset String) (names : List String) :
    (tables.filter (· ∈ names)).card = names.length ↔ names.Nodup ∧ ∀ name ∈ names, name ∈ tables := by
  have hsub : tables.filter (· ∈ names) ⊆ names.toFinset := fun name hname =>
    List.mem_toFinset.2 (Finset.mem_filter.1 hname).2
  constructor
  · intro hcard
    have hle : names.toFinset.card ≤ (tables.filter (· ∈ names)).card := hcard ▸ List.toFinset_card_le names
    have heq := Finset.eq_of_subset_of_card_le hsub hle
    refine ⟨List.dedup_eq_self.1 ((List.dedup_sublist names).eq_of_length ?_), fun name hname => ?_⟩
    · rw [← List.card_toFinset, ← heq, hcard]
    · rw [← List.mem_toFinset, ← heq] at hname
      exact (Finset.mem_filter.1 hname).1
  · rintro ⟨hnodup, hall⟩
    have heq : tables.filter (· ∈ names) = names.toFinset := by
      refine Finset.Subset.antisymm hsub fun name hname => ?_
      have hmem := List.mem_toFinset.1 hname
      exact Finset.mem_filter.2 ⟨hall name hmem, hmem⟩
    rw [heq, List.toFinset_card_of_nodup hnodup]

section

variable {others : World → World → Prop} {c c' : Connection} {w w' : World}

/-- what comes back for a query is what the server has for it in the end -/
theorem replied_query {limit : Option Duration} {text : String} {client client' : Client} {reply : Reply}
    (h : CallEnds others limit (Call.query text limit) client w (.ok reply) client' w') (ha : Apart others client.id) :
    ∃ w₁ w₂, others w₁ w₂ ∧ reply = w₂.server.reply text ∧
      w₂.own client.id = w.own client.id ++ [.received client.session (.query text) limit] := by
  rw [CallEnds, Call.query_eq, Timed.within_act] at h
  obtain ⟨w₁, hs, h⟩ := Timed.ends_act.1 h
  rcases Timed.ends_within_wait h (fun _ => Call.prompt_finish _ _ _) with ⟨d, -, -, heq, -⟩ | h
  · cases (Prod.mk.inj heq).1
  obtain ⟨w₂, hs', h⟩ := Timed.ends_act.1 h
  rw [Call.finish_eq] at h
  obtain ⟨w₃, hs'', h⟩ := Timed.ends_act.1 h
  obtain ⟨heq, -⟩ := Timed.ends_done.1 h
  refine ⟨_, w₃, hs'', ?_, (ha _ _ hs'').trans (own_note ((ha _ _ hs').trans (ha _ _ hs)) rfl)⟩
  unfold Server.endRun at heq
  cases hf : w₃.server.runFailures with
  | nil =>
    rw [hf] at heq
    exact Except.ok.inj (Prod.mk.inj heq).1
  | cons cause rest =>
    rw [hf] at heq
    cases (Prod.mk.inj heq).1

namespace Op

/-- behind a statement that was run it is the last one -/
theorem lastRan_execute {s : Statement} {own : Option Duration} {reply : Reply}
    (h : Ends others (execute s own) c w (.ok reply) c' w') (ha : Apart others c.client.id) :
    w'.lastRan? c.client.id = some s ∧ c'.client.id = c.client.id := by
  obtain ⟨e, -, heq, -⟩ | ⟨e, -, heq⟩ | ⟨limit, p, c₁, w₁, x, client, w₂, -, hp, hx, hconc, hown⟩ := ends_execute h ha
  · cases heq
  · cases heq
  obtain ⟨-, hok⟩ := stated_prepare (T := AnyText) hp ha trivial
  obtain ⟨hlookup, -⟩ := hok p rfl
  have hmade : Made AnyText true (prepare s own) := made_prepare trivial
  have hid : c₁.client.id = c.client.id := (hmade others c w _ c₁ w₁ ha hp).id ha
  obtain ⟨⟨entries, hrun, hend⟩, hheeds⟩ := exchange_executing hx (hid.symm ▸ ha)
  rw [hid] at hrun
  generalize hr : (Except.ok reply : Except Error Reply) = r at hconc
  cases hconc with
  | failed cause e => cases hr
  | answered reply =>
    obtain ⟨hnone, -⟩ | ⟨text, hsome, hexchange⟩ := hend
    · cases hnone.symm.trans hlookup
    cases hsome.symm.trans hlookup
    cases hexchange
    exact ⟨lastRan_succeeded (hown.trans hrun), hheeds.rests.id.trans hid⟩

/-- the count of rows is the server's, which has run nothing since -/
theorem counted_fetchTotalCount (h : Ends others fetchTotalCount c w (.ok ()) c' w') (ha : Apart others c.client.id) :
    ∃ w₁ w₂, others w₁ w₂ ∧ w₂.lastRan? c.client.id = w.lastRan? c.client.id ∧
      c'.totalCount =
        (((w₂.server.reply foundRowsText).rows.first?.bind fun r => r.get? "count").map countOf).getD 0 := by
  rw [fetchTotalCount, ends_get_bind] at h
  obtain ⟨e, -, heq, -⟩ | ⟨limit, -, h⟩ := ends_ofExcept_bind.1 h
  · cases heq
  obtain ⟨x, client, w₁, hcall, h⟩ := ends_call_bind h
  cases x with
  | error cause =>
    obtain ⟨⟨e, heq, -⟩, -⟩ := ends_failWith h ha
    cases heq
  | ok reply =>
    obtain ⟨w₂, w₃, hs, rfl, hown⟩ := replied_query hcall ha
    obtain ⟨-, rfl, -⟩ := ends_modify.1 h
    exact ⟨w₂, w₃, hs, lastRan_received hown, rfl⟩

end Op

end

/-! ## Servers that are willing -/

/-- the server lets clients in, fails nothing, and takes no longer than the patience of all limits -/
structure Willing (patience : Nat) (w : World) : Prop where
  welcome : w.server.refusals = 0
  connect : w.server.delays.connect ≤ patience
  prepare : w.server.delays.prepare ≤ patience
  execute : w.server.delays.execute ≤ patience
  query : w.server.delays.query ≤ patience
  prepared : w.server.prepareFailures = []
  run : w.server.runFailures = []

instance (patience : Nat) (w : World) : Decidable (Willing patience w) :=
  decidable_of_iff (w.server.refusals = 0 ∧ w.server.delays.connect ≤ patience ∧ w.server.delays.prepare ≤ patience ∧
      w.server.delays.execute ≤ patience ∧ w.server.delays.query ≤ patience ∧ w.server.prepareFailures = [] ∧
      w.server.runFailures = [])
    ⟨fun ⟨a, b, c, d, e, f, g⟩ => ⟨a, b, c, d, e, f, g⟩, fun ⟨a, b, c, d, e, f, g⟩ => ⟨a, b, c, d, e, f, g⟩⟩

section

variable {others : World → World → Prop} {patience : Nat} {limit : Option Duration} {client client' : Client}
  {c c' : Connection} {w w' : World} (hw : ∀ w w', others w w' → Willing patience w')
include hw

theorem willing_opening {x : Except NativeError Unit} (hl : Patient patience limit)
    (h : Opening others limit client w x client' w') : x = .ok () := by
  cases h with
  | late d w₁ hs hd hslow =>
    have := hl d hd
    have := (hw _ _ hs).connect
    omega
  | refused n w₁ w₂ _ hs hn => cases (hw _ _ hs).welcome.symm.trans hn
  | opened _ _ _ _ => rfl

theorem willing_preparing {text : String} {x : Except NativeError Nat} (hl : Patient patience limit)
    (h : Preparing others limit client text w x client' w') : ∃ handle, x = .ok handle := by
  cases h with
  | late d w₁ hs hd hslow =>
    have := hl d hd
    have := (hw _ _ hs).prepare
    omega
  | failed cause rest w₁ w₂ w₃ _ _ hs hf => cases (hw _ _ hs).prepared.symm.trans hf
  | prepared _ _ _ _ _ _ => exact ⟨_, rfl⟩

theorem willing_answering {request : Request} {x : Except NativeError Reply}
    (h : Answering others client request w x client' w') : ∃ reply, x = .ok reply := by
  cases h with
  | failed cause rest w₁ hs hf => cases (hw _ _ hs).run.symm.trans hf
  | answered reply _ _ => exact ⟨reply, rfl⟩

theorem willing_executing {handle : Nat} {text : String} {binds : List Datum} {x : Except NativeError Reply}
    (hl : Patient patience limit) (hk : client.prepared.lookup handle = some text)
    (h : Executing others limit client handle binds w x client' w') : ∃ reply, x = .ok reply := by
  cases h with
  | unknown hn => cases hn.symm.trans hk
  | late d _ w₁ w₂ _ _ hs hd hslow =>
    have := hl d hd
    have := (hw _ _ hs).execute
    omega
  | run _ _ _ _ _ _ _ _ _ h => exact willing_answering hw h

theorem willing_querying {text : String} {x : Except NativeError Reply} (hl : Patient patience limit)
    (h : Querying others limit client text w x client' w') : ∃ reply, x = .ok reply := by
  cases h with
  | late d w₁ hs hd hslow =>
    have := hl d hd
    have := (hw _ _ hs).query
    omega
  | run _ _ _ _ _ _ _ h => exact willing_answering hw h

namespace Op

theorem willing_opened {lost : Nat} {r : Except Error Unit} (h : Opened others lost c w r c' w') (hlost : lost = 0)
    (hp : c.config.Patient patience) : r = .ok () ∧ c'.config = c.config := by
  obtain ⟨limit, hlimit, hpatient⟩ := hp.connect
  cases h with
  | failed e refused c' w' _ _ _ hcause =>
    obtain he | ⟨limit', cause, w₁, w₂, hlimit', hopening, -⟩ := hcause
    · cases he.symm.trans hlimit
    · cases hlimit.symm.trans hlimit'
      cases willing_opening hw hpatient hopening
  | opened refused c' w' _ _ halike _ => exact ⟨rfl, halike.config⟩
  | lost refused c' w' _ hsome _ _ => omega

/-- a session can be had, and no transaction is lost with one that is given up -/
theorem willing_connect {r : Except Error Unit} (hp : c.config.Patient patience)
    (hd : c.needsReconnect = false ∨ c.depth = 0) (h : Connected others c w r c' w') :
    r = .ok () ∧ c'.config = c.config := by
  cases h with
  | live _ _ => exact ⟨rfl, rfl⟩
  | fresh r c' w' _ _ ho => exact willing_opened hw ho rfl hp
  | again gone w₁ r c' w' hdoubt _ _ ho =>
    obtain hsure | hd := hd
    · cases hsure.symm.trans hdoubt
    · have hopened := willing_opened hw ho hd hp
      exact hopened

theorem willing_begin {statement : Statement} {x : Except Error (Option Duration)} (hp : c.config.Patient patience)
    (hd : c.needsReconnect = false ∨ c.depth = 0) (h : Begun others statement none c w x c' w') :
    ∃ limit, x = .ok limit ∧ Patient patience limit := by
  cases h with
  | unconnected e c' w' hconn => cases (willing_connect hw hp hd hconn).1
  | connected c₁ w₁ hconn =>
    have hconfig := (willing_connect hw hp hd hconn).2
    exact patient_limit (hconfig ▸ hp) (patient_none patience)

theorem willing_prepare {s : Statement} {r : Except Error Prepared} (ha : Apart others c.client.id)
    (hp : c.config.Patient patience) (hd : c.needsReconnect = false ∨ c.depth = 0)
    (h : Ends others (prepare s none) c w r c' w') : ∃ p, r = .ok p := by
  obtain ⟨e, hb, -⟩ | ⟨limit, c₁, w₁, x, client, w₂, hb, hpreparing, hkept, -⟩ := ends_prepare h ha
  · obtain ⟨limit, heq, -⟩ := willing_begin hw hp hd hb
    cases heq
  obtain ⟨_, heq, hl⟩ := willing_begin hw hp hd hb
  cases heq
  obtain ⟨handle, rfl⟩ := willing_preparing hw hl hpreparing
  cases hkept with
  | prepared _ => exact ⟨_, rfl⟩

theorem willing_execute {s : Statement} {r : Except Error Reply} (ha : Apart others c.client.id)
    (hp : c.config.Patient patience) (hd : c.needsReconnect = false ∨ c.depth = 0)
    (h : Ends others (execute s none) c w r c' w') : ∃ reply, r = .ok reply := by
  obtain ⟨limit, hlimit, hl⟩ := hp.execute
  obtain ⟨e, he, -⟩ | ⟨e, hprep, -⟩ | ⟨limit', p, c₁, w₁, x, client, w₂, hlimit', hprep, hx, hconc, -⟩ := ends_execute h ha
  · cases he.symm.trans hlimit
  · obtain ⟨p, heq⟩ := willing_prepare hw ha hp hd hprep
    cases heq
  cases hlimit'.symm.trans hlimit
  obtain ⟨hlookup, -⟩ := (stated_prepare (T := AnyText) hprep ha trivial).2 p rfl
  obtain ⟨reply, rfl⟩ := willing_executing hw hl hlookup hx
  cases hconc with
  | answered _ => exact ⟨reply, rfl⟩

theorem willing_fetchTotalCount {r : Except Error Unit} (ha : Apart others c.client.id)
    (hp : c.config.Patient patience) (h : Ends others fetchTotalCount c w r c' w') : r = .ok () := by
  obtain ⟨limit, hlimit, hl⟩ := hp.execute
  obtain ⟨e, he, -⟩ | ⟨limit', x, client, w₁, hlimit', hquerying, -, hend⟩ := ends_fetchTotalCount h ha
  · cases he.symm.trans hlimit
  cases hlimit'.symm.trans hlimit
  obtain ⟨reply, rfl⟩ := willing_querying hw hl hquerying
  obtain ⟨cause, e, heq, -⟩ | ⟨_, count, -, rfl, -⟩ := hend
  · cases heq
  · rfl

end Op

end

/-- **Tables that are looked up.** The server counts the tables of a database that a lookup names. Whatever names are
looked up, whatever prefix is set and whatever clauses were left on the connection: if a lookup answers, the answer is
that all tables are there if and only if the database has a table for each name with the prefix and no name is repeated.
It answers if at least one name is given, the server is willing, and no transaction is lost with the last session. -/
theorem tables_looked_up {others : World → World → Prop} {tables : String → Finset String} {names : List String}
    {c c' : Connection} {w w' : World} {r : Except Error Bool} (ha : Apart others c.client.id)
    (hcounts : ∀ w w', others w w' → CountsTables tables c.client.id w')
    (h : Op.Ends others (Op.tablesExist names) c w r c' w') :
    (∀ b, r = .ok b → (b = true ↔
        names.Nodup ∧ ∀ name ∈ names, c.config.tablePrefix ++ name ∈ tables c.config.database)) ∧
      ∀ patience, names ≠ [] → (∀ w w', others w w' → Willing patience w') → c.config.Patient patience →
        (c.needsReconnect = false ∨ c.depth = 0) → ∃ b, r = .ok b := by
  by_cases hn : names = []
  · subst hn
    obtain ⟨rfl, -⟩ := Op.ends_throw.1 h
    exact ⟨fun b hb => (by cases hb), fun _ hne => absurd rfl hne⟩
  rw [Op.Ends, Op.tablesExist_eq c hn] at h
  have ha₀ : Apart others c.clearDraft.client.id := ha
  rcases Op.ends_bind.1 h with ⟨e, hx, rfl⟩ | ⟨reply, c₁, w₁, hx, h⟩
  · refine ⟨fun b hb => (by cases hb), fun patience _ hw hp hd => ?_⟩
    obtain ⟨reply, heq⟩ := Op.willing_execute hw ha₀ hp hd hx
    cases heq
  obtain ⟨hlast, hid⟩ := Op.lastRan_execute hx ha₀
  have hconfig : c₁.config = c.config :=
    (Op.keeps_execute (f := Connection.config) (fun _ _ hc _ _ => hc) _ _ c.clearDraft).ends hx
  have ha₁ : Apart others c₁.client.id := hid.symm ▸ ha
  rcases Op.ends_bind.1 h with ⟨e, hf, rfl⟩ | ⟨_, c₂, w₂, hf, h⟩
  · refine ⟨fun b hb => (by cases hb), fun patience _ hw hp hd => ?_⟩
    cases Op.willing_fetchTotalCount hw ha₁ (hconfig.symm ▸ hp) hf
  rw [Op.ends_get_bind] at h
  obtain ⟨rfl, -, -⟩ := Op.ends_pure.1 h
  refine ⟨fun b hb => ?_, fun _ _ _ _ _ => ⟨_, rfl⟩⟩
  cases hb
  obtain ⟨w₃, w₄, hs, hsame, htotal⟩ := Op.counted_fetchTotalCount hf ha₁
  rw [hid] at hsame
  rw [hcounts _ _ hs _ _ (hsame.trans hlast)] at htotal
  let prefixed := names.map (c.config.tablePrefix ++ ·)
  have hcount : c₂.totalCount = ((tables c.config.database).filter (· ∈ prefixed)).card := htotal.trans (Int.toNat_natCast _)
  have hlength : names.length = prefixed.length := (List.length_map _).symm
  have hinjective : Function.Injective (c.config.tablePrefix ++ ·) := fun _ _ heq => (String.append_right_inj _).1 heq
  rw [beq_iff_eq, hcount, hlength, card_matching_eq_length_iff, List.nodup_map_iff hinjective, List.forall_mem_map]

/-- the server finds one row, and the statement that was run last, if there is one, binds the name `a` twice -/
def findsOne (w : World) : Bool :=
  (match (w.server.reply Op.foundRowsText).rows.first?.bind fun r => r.get? "count" with
    | some (.int n) => n == 1
    | _ => false) &&
    (w.lastRan? 0).all fun s => s.binds.map Datum.plain? == [some "", some "a", some "a"]

theorem countsTables_of_findsOne {w : World} (h : findsOne w = true) : CountsTables (fun _ => {"a"}) 0 w := by
  intro database names hlast
  obtain ⟨hcount, hbinds⟩ := Bool.and_eq_true_iff.1 h
  rw [hlast] at hbinds
  have hbound : (lookupStatement database names).binds.map Datum.plain? = [some "", some "a", some "a"] :=
    beq_iff_eq.1 hbinds
  have hnames : names = ["a", "a"] := by
    have htail := (List.cons.inj hbound).2
    rw [List.map_map] at htail
    exact List.map_injective_iff.2 (Option.some_injective _) htail
  have hfound : (({"a"} : Finset String).filter (· ∈ names)).card = 1 := by
    rw [hnames]
    decide +kernel
  rw [hfound]
  split at hcount
  · next n hfirst => rw [hfirst, beq_iff_eq.1 hcount]; rfl
  · cases hcount

/-- `a` is a table, and its only one is looked up under its name twice: the answer is that not all tables are there -/
theorem tables_looked_up_repeated :
    let c := Connection.new (.new 0) .standard .empty
    let w := World.fresh.arrange fun s =>
      { s with responses := [("SELECT FOUND_ROWS()", .ofValues ["count"] [[.int 1]])] }
    ((Op.tablesExist ["a", "a"] c).run 0 w).1.1 = .ok false := by
  intro c w
  generalize hrun : (Op.tablesExist ["a", "a"] c).run 0 w = run
  let others : World → World → Prop := fun w w' => w' = w ∧ findsOne w = true ∧ Willing 0 w
  have hends : Op.Ends others (Op.tablesExist ["a", "a"]) c w run.1.1 run.1.2 run.2.2 :=
    Op.ends_of_run (P := fun w => findsOne w = true ∧ Willing 0 w) (fun _ h => ⟨rfl, h⟩) hrun (by decide +kernel)
  have alone : Apart others c.client.id := by
    rintro w _ ⟨rfl, -⟩
    rfl
  have hcounts : ∀ w w', others w w' → CountsTables (fun _ => {"a"}) c.client.id w' := by
    rintro w _ ⟨rfl, hfinds, -⟩
    exact countsTables_of_findsOne hfinds
  have hwilling : ∀ w w', others w w' → Willing 0 w' := by
    rintro w _ ⟨rfl, -, hw⟩
    exact hw
  have hpatient : c.config.Patient 0 := ⟨⟨none, rfl, patient_none 0⟩, ⟨none, rfl, patient_none 0⟩⟩
  obtain ⟨hall, hanswers⟩ := tables_looked_up alone hcounts hends
  obtain ⟨b, hb⟩ := hanswers 0 (by decide) hwilling hpatient (.inl rfl)
  cases b with
  | false => exact hb
  | true => exact absurd ((hall true hb).1 rfl).1 (by decide)

end SqlSession
