/-
Detached builders: they compile drafts and never run them.

Freezing a builder compiles its draft as a sub-query and clears it, whether that succeeds or not.
-/
import SqlSession.Query.Compile

namespace SqlSession.Query

structure Builder where
  draft : Draft
  label : Option String
  registry : Option Registry

namespace Builder

def new (tablePrefix : String) : Builder := ⟨.fresh tablePrefix, none, none⟩

/-- a builder for a sub-query; an empty label is none -/
def subQuery (label : String) : Builder := ⟨.fresh "", if label.isEmpty then none else some label, none⟩

def withPrefix (b : Builder) (tablePrefix : String) : Builder :=
  { b with draft := { b.draft with tablePrefix := tablePrefix } }

def reset (b : Builder) : Builder := { b with draft := b.draft.reset }

/-- the builder with one more clause -/
def record (b : Builder) (clause : Clause) : Builder × Except Error Unit :=
  let (draft, result) := b.draft.recordIn b.registry clause
  ({ b with draft }, result)

/-- the sub-query of the draft; the builder is cleared -/
def freeze (b : Builder) : Builder × Except Error SubQuery :=
  (b.reset, b.draft.compileSelect.map fun statement => ⟨statement, b.label⟩)

end Builder

end SqlSession.Query
