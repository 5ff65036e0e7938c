/-
# Reading a T-SQL script

A script is read batch by batch. A batch that the grammar refuses is cut into pieces, each of
them read by the grammar, or else from its text, or else passed over with a note. A table
without a schema belongs to the schema `dbo`.

Key definitions: `SqlServer.ofStatements`, `SqlServer.ofRefused`, `SqlServer.ofBatch`,
`SqlServer.read`.
-/
import SchemaMap.Script.Batch
import SchemaMap.Script.Declaration
import SchemaMap.Sql.Statement

namespace SchemaMap
namespace SqlServer

open Sql (Refusal Statement)

/-- The schema of a table that names none. -/
def defaultSchema : String := "dbo"

/-- A table by the parts of its name. -/
def tableNamed (nameParts : List String) (columns : List Column) : Table :=
  let (schema, name) := Name.qualified nameParts
  ⟨schema.getD defaultSchema, name.getD "", columns⟩

/-- A column of a declared table; its type has no brackets. -/
def plainColumn (c : Column) : Column :=
  { c with typeName := c.typeName.map fun t => String.ofList (Name.withoutBrackets t.toList) }

/-- The tables that accepted statements create. -/
def ofStatements (statements : List Statement) : Extraction :=
  { tables := statements.filterMap fun
      | .createTable nameParts columns => some (tableNamed nameParts (columns.map plainColumn))
      | _ => none }

/-- What a unit stands for that the grammar refuses. -/
def ofRefused (kind : String) (unit : Chunk) (reason : Refusal) : Extraction :=
  match Script.tableDeclared? unit.text with
  | some t => { tables := [tableNamed t.nameParts t.columns] }
  | none =>
    { diagnostics :=
        [Diagnostic.at unit.line ("skipped unparseable " ++ kind ++ ": " ++ reason.message)] }

/-- What a unit declares. -/
def ofUnit (parse : List Char → Except Refusal (List Statement)) (kind : String)
    (unit : Chunk) : Extraction :=
  match parse unit.text with
  | .ok statements => ofStatements statements
  | .error reason => ofRefused kind unit reason

/-- What a batch declares: as a whole, or piece by piece where the grammar refuses it and it
has more than one piece. -/
def ofBatch (parse : List Char → Except Refusal (List Statement)) (batch : Chunk) :
    Extraction :=
  match parse batch.text with
  | .ok statements => ofStatements statements
  | .error reason =>
    match Script.pieces batch with
    | [] | [_] => ofRefused "batch" batch reason
    | pieces => Extraction.concat (pieces.map (ofUnit parse "statement"))

/-- What a T-SQL script declares, by a grammar that accepts or refuses texts. -/
def read (parse : List Char → Except Refusal (List Statement)) (cs : List Char) : Extraction :=
  Extraction.concat ((Script.batches cs).map (ofBatch parse))

end SqlServer
end SchemaMap
