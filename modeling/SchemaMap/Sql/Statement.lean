/-
# Statements

Of the statements of a script, those that create tables and schemas are kept with their
names and columns; of all others only that they are there.

Key definitions: `Sql.Statement`, `Sql.Statement.ofTree?`, `Sql.parse`.
-/
import SchemaMap.Sql.Grammar.Script
import SchemaMap.Sql.Lexer
import SchemaMap.Sql.TypeName
import SchemaMap.Schema.Basic

namespace SchemaMap
namespace Sql

/-- A statement: the parts of a name, outermost first, and the columns with the texts of their
types. -/
inductive Statement where
  | createTable (nameParts : List String) (columns : List Column)
  | createSchema (nameParts : List String)
  | other
deriving DecidableEq, Repr, Inhabited

/-- The text of a token that is part of a name. -/
def namePart? : Token → Option String
  | .word w _ _ => some w
  | .text .plain s => some s
  | _ => none

/-- The parts of the first name among the parts of a tree. -/
def nameParts : List Tree → List String
  | [] => []
  | .node .name parts :: _ => (tokensOf parts).filterMap namePart?
  | _ :: more => nameParts more

/-- The text of the first type among the parts of a tree. -/
def firstTypeText (d : Dialect) : List Tree → Option String
  | [] => none
  | .node .type parts :: _ => some (typeText d (.node .type parts))
  | _ :: more => firstTypeText d more

/-- The column of a tree. -/
def columnOfTree? (d : Dialect) : Tree → Option Column
  | .node .column (.leaf t :: parts) =>
    (namePart? t).map fun name => ⟨name, firstTypeText d parts⟩
  | _ => none

/-- The statement among the parts of its tree. -/
def Statement.ofParts (d : Dialect) : List Tree → Statement
  | [] => .other
  | .node .table parts :: _ =>
    .createTable (Sql.nameParts parts) (parts.filterMap (columnOfTree? d))
  | .node .schema parts :: _ => .createSchema (Sql.nameParts parts)
  | _ :: more => ofParts d more

/-- The statement of a tree. -/
def Statement.ofTree? (d : Dialect) : Tree → Option Statement
  | .node .statement parts => some (ofParts d parts)
  | _ => none

/-- The statements of a text, or why it is refused. -/
def parse (d : Dialect) (cs : List Char) : Except Refusal (List Statement) :=
  match tokens d cs with
  | .error (reason, place) => .error (.flaw reason (some place))
  | .ok ts =>
    match Rule.read (grammar d) (.call .script) ts with
    | .error e => .error e
    | .ok trees => .ok (trees.filterMap (Statement.ofTree? d))

end Sql
end SchemaMap
