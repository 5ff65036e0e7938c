/-
# Reading a Postgres script

A script is read in units. Where the grammar accepts it, its statements are the units;
otherwise the parts between its semicolons are, each read by the grammar, or else from its
text, or else passed over with a note. A unit that is no statement, or creates a table that
cannot be read, stops the reading.

A table belongs to the schema that was created last, whatever schema its own name carries;
a note tells where the two differ.

Key definitions: `Postgres.Piece`, `Postgres.piecesOf`, `Postgres.Walk`,
`Postgres.read`.
-/
import SchemaMap.Script.Declaration
import SchemaMap.Sql.Statement

namespace SchemaMap
namespace Postgres

open Sql (Refusal Statement)

/-- The words that begin a statement which may be passed over. -/
def statementWords : List String :=
  ["ALTER", "ANALYZE", "BEGIN", "CALL", "CLUSTER", "COMMENT", "COMMIT", "COPY", "CREATE", "DO",
   "DROP", "GRANT", "INSERT", "LOCK", "REFRESH", "RESET", "REVOKE", "SECURITY", "SELECT", "SET",
   "TRUNCATE", "UPDATE", "VACUUM", "WITH"]

/-- Whether the first word of a text, its first run of letters, begins a statement. -/
def beginsStatement (cs : List Char) : Bool :=
  match Text.runs (fun c => !Text.isAsciiLetter c) cs with
  | [] => false
  | w :: _ => statementWords.any fun k => Text.sameLetters k.toList w

/-- What a script is made of. -/
inductive Piece where
  /-- A created table: the parts of its name and the names of its columns. -/
  | table (nameParts columns : List String)
  /-- A created schema; its name may be missing. -/
  | schema (name : Option String)
  /-- A statement that is passed over with a note. -/
  | skipped (line : Nat) (reason : Refusal)
  /-- A text that is no statement, or a table that cannot be read. -/
  | malformed (line : Nat) (reason : Refusal)
deriving DecidableEq, Repr, Inhabited

/-- What an accepted statement stands for. -/
def ofStatement : Statement → List Piece
  | .createTable nameParts columns => [.table nameParts (columns.map (·.name))]
  | .createSchema nameParts => [.schema nameParts.getLast?]
  | .other => []

/-- What a statement stands for that the grammar refuses. -/
def ofRefused (chunk : Chunk) (reason : Refusal) : Piece :=
  match Script.tableDeclared? chunk.text with
  | some t => .table t.nameParts (t.columns.map (·.name))
  | none =>
    if Script.isCreateTable chunk.text || !beginsStatement chunk.text then
      .malformed chunk.line reason
    else
      match Script.schemaDeclared? chunk.text with
      | some name => .schema (some (String.ofList name))
      | none => .skipped chunk.line reason

/-- What a script is made of, by a grammar that accepts or refuses texts. -/
def piecesOf (parse : List Char → Except Refusal (List Statement)) (cs : List Char) :
    List Piece :=
  match parse cs with
  | .ok statements => statements.flatMap ofStatement
  | .error _ =>
    (Script.chunks cs).flatMap fun chunk =>
      match parse chunk.text with
      | .ok statements => statements.flatMap ofStatement
      | .error reason => [ofRefused chunk reason]

/-- What has been read so far, with the schema that was created last. -/
structure Walk where
  schema : Option String := none
  found : Extraction := {}
deriving Repr, Inhabited

/-- The note on a table whose own schema, if it has one, is not the one it belongs to. -/
def attributionNote (schema : String) : Option String → String → Option Diagnostic
  | some q, name =>
    if schema.isEmpty then
      some { message := "table " ++ q ++ "." ++ name
        ++ " appears before any CREATE SCHEMA; attributed to an empty schema" }
    else if q ≠ schema then
      some { message := "table " ++ q ++ "." ++ name ++ " attributed to preceding schema '"
        ++ schema ++ "'" }
    else none
  | none, name =>
    if schema.isEmpty then
      some { message := "table " ++ name
        ++ " appears before any CREATE SCHEMA; attributed to an empty schema" }
    else none

/-- One more piece. -/
def Walk.take (w : Walk) : Piece → Except Fault Walk
  | .schema name => .ok { w with schema := name }
  | .table nameParts columns =>
    let (qualifier, name) := Name.qualified nameParts
    let name := name.getD ""
    let schema := w.schema.getD ""
    let table : Table := ⟨schema, name, columns.map fun c => ⟨c, none⟩⟩
    .ok { w with
      found := w.found.append ⟨[table], (attributionNote schema qualifier name).toList⟩ }
  | .skipped line reason =>
    .ok { w with
      found := w.found.append
        ⟨[], [Diagnostic.at line ("skipped unsupported statement: " ++ reason.message)]⟩ }
  | .malformed line reason =>
    .error (.malformed ("line " ++ toString line ++ ": " ++ reason.message))

/-- Pieces in order, up to the first that is malformed. -/
def Walk.takeAll (w : Walk) : List Piece → Except Fault Walk
  | [] => .ok w
  | p :: more =>
    match w.take p with
    | .error e => .error e
    | .ok w' => w'.takeAll more

/-- The end of a script: a schema with a name must have been created last. -/
def Walk.finish (w : Walk) : Except Fault Extraction :=
  match w.schema with
  | some schema => if schema.isEmpty then .error .schemaUndetermined else .ok w.found
  | none => .error .schemaUndetermined

/-- What a Postgres script declares, by a grammar that accepts or refuses texts. -/
def read (parse : List Char → Except Refusal (List Statement)) (cs : List Char) :
    Except Fault Extraction :=
  match ({} : Walk).takeAll (piecesOf parse cs) with
  | .error e => .error e
  | .ok w => w.finish

end Postgres
end SchemaMap
