/-
# Tables, columns and job mappings

What is read from a script: tables with their columns in the order of declaration, and notes
about what was passed over. Each column of each table becomes one job mapping, which says
how its values are carried over.

Key definitions: `Column`, `Table`, `Diagnostic`, `Extraction`, `JobMapping`,
`Table.fullName`, `JobMapping.ofTables`.
-/
namespace SchemaMap

/-- A column; its type is the declared text, where the dialect keeps it. -/
structure Column where
  name : String
  typeName : Option String := none
deriving DecidableEq, Repr, Inhabited

/-- A table of a schema, with its columns in the order of declaration. -/
structure Table where
  schema : String
  name : String
  columns : List Column
deriving DecidableEq, Repr, Inhabited

/-- The name of a table behind the name of its schema. -/
def Table.fullName (t : Table) : String :=
  t.schema ++ "." ++ t.name

/-- The names of the columns in the order of declaration. -/
def Table.columnNames (t : Table) : List String :=
  t.columns.map (·.name)

/-- A note on a script, with the line it concerns, counted from one, where that is known. -/
structure Diagnostic where
  line : Option Nat := none
  message : String
deriving DecidableEq, Repr, Inhabited

/-- The text of a note: its line in front, where that is known. -/
def Diagnostic.text (d : Diagnostic) : String :=
  match d.line with
  | some n => "line " ++ toString n ++ ": " ++ d.message
  | none => d.message

/-- A note on a line. -/
def Diagnostic.at (line : Nat) (message : String) : Diagnostic :=
  ⟨some line, message⟩

/-- What one script declares, with the notes taken while it was read. -/
structure Extraction where
  tables : List Table := []
  diagnostics : List Diagnostic := []
deriving DecidableEq, Repr, Inhabited

namespace Extraction

/-- What two scripts declare, one behind the other. -/
def append (a b : Extraction) : Extraction :=
  ⟨a.tables ++ b.tables, a.diagnostics ++ b.diagnostics⟩

/-- What several scripts declare, one behind the other. -/
def concat (parts : List Extraction) : Extraction :=
  parts.foldr append {}

end Extraction

/-- How the values of a column are carried over. -/
inductive Transformer where
  | passthrough
deriving DecidableEq, Repr, Inhabited

/-- The constant that names a transformer in a generated file. -/
def Transformer.constant : Transformer → String
  | .passthrough => "TRANSFORMER_SOURCE_PASSTHROUGH"

/-- The transformer that a constant names. -/
def Transformer.ofConstant? (s : String) : Option Transformer :=
  if s = Transformer.passthrough.constant then some .passthrough else none

/-- What is done with one column of one table. -/
structure JobMapping where
  schema : String
  table : String
  column : String
  transformer : Transformer := .passthrough
deriving DecidableEq, Repr, Inhabited

/-- The default mappings of a table: its columns, passed through. -/
def Table.mappings (t : Table) : List JobMapping :=
  t.columns.map fun c => ⟨t.schema, t.name, c.name, .passthrough⟩

/-- The default mappings of a list of tables: tables in order, columns in order. -/
def JobMapping.ofTables (tables : List Table) : List JobMapping :=
  tables.flatMap Table.mappings

end SchemaMap
