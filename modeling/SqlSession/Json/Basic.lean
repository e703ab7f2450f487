/-
JSON documents.

Whole numbers of 64 bits, signed or unsigned, stay exact; every other number is a binary64 number. The fields of a
record are kept in the order of their names, one field a name, and the last one given wins.
-/

namespace SqlSession

inductive Json where
  | null
  | bool (value : Bool)
  | whole (value : Int)
  | real (value : Float)
  | text (value : String)
  | list (items : List Json)
  | record (fields : List (String × Json))
  deriving Repr, Inhabited

namespace Json

/-- the fields with one more, which replaces a field of its name -/
def insertField {α : Type} (name : String) (value : α) : List (String × α) → List (String × α)
  | [] => [(name, value)]
  | field :: rest =>
    if field.1 == name then (name, value) :: rest
    else if name < field.1 then (name, value) :: field :: rest
    else field :: insertField name value rest

/-- the record with these fields, later ones replacing earlier ones -/
def ofFields (fields : List (String × Json)) : Json :=
  .record (fields.foldl (fun kept field => insertField field.1 field.2 kept) [])

/-- the field of this name of a record -/
def field? (name : String) : Json → Option Json
  | record fields => fields.lookup name
  | _ => none

end Json

end SqlSession
