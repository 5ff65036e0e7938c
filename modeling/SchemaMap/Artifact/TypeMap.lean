/-
# The type map

The declared types of the columns, grouped by table. Tables that share a full name share an
entry, and of columns that share a name in it the first one counts.

Key definitions: `TypeMap`, `TypeMap.add`, `TypeMap.ofTables`.
-/
import SchemaMap.Schema.Basic

namespace SchemaMap

/-- Columns with their types, by the full names of their tables, in order. -/
abbrev TypeMap := List (String × List (String × String))

namespace TypeMap

/-- A column and its type added behind others, unless there is one of its name. -/
def addColumn (columns : List (String × String)) (c : Column) : List (String × String) :=
  if columns.any fun known => known.1 == c.name then columns
  else columns ++ [(c.name, c.typeName.getD "")]

/-- The entry of a name, changed by `f`; a missing one is added behind the others. -/
def update (key : String) (f : List (String × String) → List (String × String)) :
    TypeMap → TypeMap
  | [] => [(key, f [])]
  | (k, columns) :: more =>
    if k = key then (k, f columns) :: more else (k, columns) :: update key f more

/-- The columns of a table added to its entry. -/
def add (m : TypeMap) (t : Table) : TypeMap :=
  update t.fullName (fun columns => t.columns.foldl addColumn columns) m

/-- The type map of a list of tables. -/
def ofTables (tables : List Table) : TypeMap :=
  tables.foldl add []

end TypeMap
end SchemaMap
