/-
# Reading a MySQL dump

The lines of a dump are taken in order. A `USE` line and a qualified `CREATE TABLE` line set
the current schema; a `CREATE TABLE` line opens a table, which the columns that follow belong
to until a line closes it, the next table opens or the dump ends. Tables declared twice are
put together under their first place, and tables without columns are left out.

Key definitions: `MySql.Scan`, `MySql.Scan.take`, `MySql.Scan.finish`, `MySql.read`.
-/
import SchemaMap.Reader.DumpLine
import SchemaMap.Schema.Basic

namespace SchemaMap
namespace MySql

/-- A table declaration with the names of its columns. -/
structure Declared where
  schema : String
  name : String
  columns : List String
deriving DecidableEq, Repr, Inhabited

/-- Whether two declarations are of one table. -/
def Declared.same (a b : Declared) : Bool :=
  a.schema == b.schema && a.name == b.name

/-- The name of the declared table behind its schema. -/
def Declared.fullName (d : Declared) : String :=
  d.schema ++ "." ++ d.name

/-- A declaration that has not been closed, with the line that opened it. -/
structure OpenTable where
  table : Declared
  openedAt : Nat
deriving DecidableEq, Repr, Inhabited

/-- What has been read so far. -/
structure Scan where
  currentSchema : String := ""
  current : Option OpenTable := none
  /-- The closed tables, each once, in the order of their first declaration. -/
  tables : List Declared := []
  diagnostics : List Diagnostic := []
deriving Repr, Inhabited

/-- A declaration added to the tables: its columns go to the table of that name, if there is
one. -/
def addTable (d : Declared) : List Declared → List Declared
  | [] => [d]
  | t :: ts =>
    if t.same d then { t with columns := t.columns ++ d.columns } :: ts else t :: addTable d ts

namespace Scan

/-- One more note on a line. -/
def note (s : Scan) (line : Nat) (message : String) : Scan :=
  { s with diagnostics := s.diagnostics ++ [Diagnostic.at line message] }

/-- The open table, if there is one, is closed. -/
def close (s : Scan) : Scan :=
  match s.current with
  | some o => { s with current := none, tables := addTable o.table s.tables }
  | none => s

/-- A table of the current schema is opened; one that is still open is closed with a note. -/
def openTable (s : Scan) (line : Nat) (name : String) : Scan :=
  let s :=
    match s.current with
    | some o =>
      (s.note line ("table " ++ o.table.fullName ++ " (line " ++ toString o.openedAt
        ++ ") was not closed before the next CREATE TABLE")).close
    | none => s
  let s :=
    if s.currentSchema.isEmpty then
      s.note line ("table " ++ name ++ " has no schema (no USE or qualifier seen)")
    else s
  { s with current := some ⟨⟨s.currentSchema, name, []⟩, line⟩ }

/-- A column of the open table. -/
def addColumn (s : Scan) (name : String) : Scan :=
  match s.current with
  | some o =>
    { s with current := some { o with
        table := { o.table with columns := o.table.columns ++ [name] } } }
  | none => s

/-- One line, given by its number, its text and its kind. -/
def take (s : Scan) (line : Nat) (text : List Char) : DumpLine → Scan
  | .use schema => { s with currentSchema := schema }
  | .create (some schema) name => { s with currentSchema := schema }.openTable line name
  | .create none name => s.openTable line name
  | .column name => s.addColumn name
  | .key | .silent => s
  | .close =>
    if s.current.isSome then s.close
    else s.note line "closing parenthesis without an open CREATE TABLE"
  | .unknown =>
    if s.current.isSome then
      s.note line ("unrecognized line inside table body skipped: " ++ String.ofList text)
    else s

/-- Lines in order, the first of them with the number `line`. -/
def takeAll (s : Scan) (line : Nat) : List (List Char) → Scan
  | [] => s
  | raw :: more =>
    let text := Text.trim raw
    (s.take line text (DumpLine.ofText text)).takeAll (line + 1) more

/-- The end of the dump: a table that is still open is closed with a note. -/
def endOfText (s : Scan) : Scan :=
  match s.current with
  | some o =>
    (s.note o.openedAt ("table " ++ o.table.fullName ++ " is never closed; keeping "
      ++ toString o.table.columns.length ++ " columns seen")).close
  | none => s

/-- The note on a table without columns. -/
def emptyNote (d : Declared) : Diagnostic :=
  { message := "table " ++ d.fullName ++ " declares no columns; skipped" }

/-- The tables that have columns, and notes on those that have none. -/
def finish (s : Scan) : Extraction :=
  let s := s.endOfText
  { tables := (s.tables.filter fun d => !d.columns.isEmpty).map fun d =>
      ⟨d.schema, d.name, d.columns.map fun c => ⟨c, none⟩⟩
    diagnostics := s.diagnostics
      ++ (s.tables.filter fun d => d.columns.isEmpty).map emptyNote }

end Scan

/-- What a MySQL dump declares. -/
def read (cs : List Char) : Extraction :=
  (({} : Scan).takeAll 1 (Text.lines cs)).finish

end MySql
end SchemaMap
