/-
The statements that a draft compiles to.

`Command` names them with what each carries besides the draft, and `Draft.compile` compiles a draft for one of them.
Every compilation is a check, the table, and one assembly behind a head of its own:
- `compile_eq_ok`: what a compilation that succeeds went through;
- `assemble_eq_ok`: the sections that an assembled statement consists of.
-/
import SqlSession.Query.Compile
import SqlSession.Proofs.Query.Condition

namespace SqlSession.Query

namespace Section

@[simp] theorem parts_append (a b : Section) : (a ++ b).parts = a.parts ++ b.parts := rfl

@[simp] theorem binds_append (a b : Section) : (a ++ b).binds = a.binds ++ b.binds := rfl

theorem ext {a b : Section} (hp : a.parts = b.parts) (hb : a.binds = b.binds) : a = b := by
  cases a; cases b; simp_all

theorem append_assoc (a b c : Section) : a ++ b ++ c = a ++ (b ++ c) := by
  apply ext <;> simp

end Section

inductive Command where
  | select
  | insert (verb : InsertVerb) (row : Row)
  | update (row : Row) (force : Bool)
  | delete (force : Bool)

namespace Command

/-- what a command adds to the sections of the draft -/
def data : Command → Draft.Data
  | insert _ row => .values row
  | update row _ => .set row
  | _ => .none

/-- the row that a command carries -/
def row : Command → Row
  | insert _ row => row
  | update row _ => row
  | _ => []

/-- the words in front of the sections -/
def head (d : Draft) (table : String) : Command → List String
  | select => ["SELECT"] ++ d.modifierWords ++ [d.columns, "FROM", table]
  | insert verb _ => [verb.text] ++ d.modifierWords ++ ["INTO", table]
  | update _ _ => ["UPDATE"] ++ d.modifierWords ++ [table]
  | delete _ =>
    ["DELETE"] ++ d.modifierWords ++ (if d.joins.isEmpty then [] else [Draft.targetName table]) ++ ["FROM", table]

/-- what a draft is refused for before its table is looked at -/
def check (d : Draft) : Command → Except Error Unit
  | update row force =>
    if !force && !d.hasEffectiveWhere then .error (.emptyCondition "update")
    else if row.isEmpty then .error (.invalidArgument "update needs at least one column")
    else .ok ()
  | delete force => if !force && !d.hasEffectiveWhere then .error (.emptyCondition "delete") else .ok ()
  | _ => .ok ()

end Command

namespace Draft

def compile (d : Draft) : Command → Except Error Statement
  | .select => d.compileSelect
  | .insert verb row => d.compileInsert verb row
  | .update row force => d.compileUpdate row force
  | .delete force => d.compileDelete force

theorem compile_eq (d : Draft) (command : Command) :
    d.compile command =
      command.check d >>= fun _ => d.target >>= fun table => d.assemble (command.head d table) command.data := by
  cases command with
  | select => rfl
  | insert verb row => rfl
  | update row force =>
    simp only [compile, compileUpdate, Command.check, Command.head, Command.data]
    split
    · rfl
    · split <;> rfl
  | delete force =>
    simp only [compile, compileDelete, Command.check, Command.head, Command.data]
    split <;> rfl

theorem compile_eq_ok {d : Draft} {command : Command} {s : Statement} :
    d.compile command = .ok s ↔
      command.check d = .ok () ∧ ∃ table, d.target = .ok table ∧
        d.assemble (command.head d table) command.data = .ok s := by
  rw [compile_eq, except_bind_ok]
  constructor
  · rintro ⟨⟨⟩, hc, h⟩
    exact ⟨hc, except_bind_ok.1 h⟩
  · rintro ⟨hc, h⟩
    exact ⟨(), hc, except_bind_ok.2 h⟩

/-- the sections of a draft that can fail to render -/
structure Rendered (d : Draft) (data : Data) where
  joins : Section
  wheres : Section
  havings : Section
  duplicate : Section
  joins_ok : joinSections d.joinConditions d.joins = .ok joins
  wheres_ok : conditionSection "WHERE" d.wheres = .ok wheres
  havings_ok : conditionSection "HAVING" d.havings = .ok havings
  duplicate_ok : d.duplicateSectionOf data = .ok duplicate

namespace Rendered

variable {d : Draft} {data : Data}

/-- what stands between the head and the conditions of WHERE -/
def front (r : Rendered d data) : Section := r.joins ++ dataSection data

/-- what stands behind the conditions of WHERE -/
def back (r : Rendered d data) : Section :=
  groupSection d.groups ++ r.havings ++ orderSection d.orders ++ limitSection d.limit ++ r.duplicate
    ++ lockSection d.lock

def statement (r : Rendered d data) (head : List String) : Statement :=
  (Section.ofParts head ++ r.front ++ r.wheres ++ r.back).statement

end Rendered

theorem assemble_eq_ok {d : Draft} {head : List String} {data : Data} {s : Statement} :
    d.assemble head data = .ok s ↔ ∃ r : Rendered d data, s = r.statement head := by
  simp only [assemble, except_bind_ok, Except.ok.injEq]
  constructor
  · rintro ⟨joins, hj, wheres, hw, havings, hh, duplicate, hd, rfl⟩
    refine ⟨⟨joins, wheres, havings, duplicate, hj, hw, hh, hd⟩, ?_⟩
    simp only [Rendered.statement, Rendered.front, Rendered.back, Section.append_assoc]
  · rintro ⟨⟨joins, wheres, havings, duplicate, hj, hw, hh, hd⟩, rfl⟩
    refine ⟨joins, hj, wheres, hw, havings, hh, duplicate, hd, ?_⟩
    simp only [Rendered.statement, Rendered.front, Rendered.back, Section.append_assoc]

end Draft

end SqlSession.Query
