/-
# Names of schemas, tables and columns

A qualified name is a list of parts, outermost first; the last two name the schema and the
table. Names are checked before they are written into a generated file, and the square
brackets of a declared type are dropped.

Key definitions: `Name.qualified`, `Name.check`, `Name.withoutBrackets`.
-/
import SchemaMap.Text.Escaped
import SchemaMap.Fault

namespace SchemaMap
namespace Name

/-- The schema and the table that a list of name parts names. -/
def qualified : List String → Option String × Option String
  | [] => (none, none)
  | [table] => (none, some table)
  | [schema, table] => (some schema, some table)
  | _ :: parts => qualified parts

/-- The largest number of characters that a name may have. -/
def maxLength : Nat := 128

/-- Accepts the names that can be written into a generated file. -/
def check (name : String) : Except Fault Unit :=
  let cs := name.toList
  if cs.isEmpty then .error (.render "Identifier cannot be empty")
  else if cs.contains '\x00' then
    .error (.render ("Identifier contains null byte: " ++ Text.escaped name))
  else if cs.contains '\n' || cs.contains '\r' then
    .error (.render ("Identifier contains a line break: " ++ Text.escaped name))
  else if maxLength < cs.length then
    .error (.render ("Identifier exceeds maximum length of " ++ toString maxLength
      ++ " characters (got " ++ toString cs.length ++ "): " ++ Text.escaped name))
  else .ok ()

/-- A declared type without its square brackets. -/
def withoutBrackets (typeText : List Char) : List Char :=
  typeText.filter fun c => c != '[' && c != ']'

end Name
end SchemaMap
