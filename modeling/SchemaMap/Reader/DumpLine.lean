/-
# Lines of a MySQL dump

A dump is read line by line. Each line, without the white space around it, is of one kind: it
chooses a schema, opens a table, declares a column, names a key or a constraint, closes a
table, says nothing, or is none of these. The kind depends on the line alone.

Key definitions: `DumpLine`, `DumpLine.ofText`, `DumpLine.columnShape?`.
-/
import SchemaMap.Text.Pattern

namespace SchemaMap

/-- What one line of a dump says. -/
inductive DumpLine where
  /-- `USE schema;` -/
  | use (schema : String)
  /-- `CREATE TABLE name (`, with the schema in front of the name where there is one. -/
  | create (schema : Option String) (name : String)
  /-- A name followed by a type. -/
  | column (name : String)
  /-- A key or constraint in the shape of a column. -/
  | key
  /-- A line that starts with a closing parenthesis. -/
  | close
  /-- A blank line, a comment, or a line that starts like a key, a constraint or a storage
  clause. -/
  | silent
  /-- Anything else. -/
  | unknown
deriving DecidableEq, Repr, Inhabited

namespace DumpLine

open Text

/-- The words that introduce keys and constraints where they stand in place of a column. -/
def keyWords : List String :=
  ["PRIMARY", "CONSTRAINT", "KEY", "UNIQUE", "ALTER", "INDEX", "FOREIGN", "FULLTEXT", "SPATIAL",
   "CHECK"]

/-- The words with which a line of a table body starts that is no column. -/
def bodyWords : List String :=
  ["PRIMARY KEY", "CONSTRAINT", "UNIQUE", "KEY", "ENGINE", "INDEX", "FOREIGN KEY", "FULLTEXT",
   "SPATIAL", "CHECK"]

/-- A name of word characters, in back quotes or not, and what is left. -/
def name? (cs : List Char) : Option (String × List Char) :=
  (wordRun? (skipChar '`' cs)).map fun (w, r) => (String.ofList w, skipChar '`' r)

/-- The schema that a `USE` line chooses. -/
def useShape? (cs : List Char) : Option String := do
  let r ← keywords? ["USE"] cs
  let (schema, r) ← name? r
  let _ ← char? ';' (skipBlanks r)
  return schema

/-- What follows `CREATE TABLE` and, where it is there, `IF NOT EXISTS`. -/
def createHead? (cs : List Char) : Option (List Char × List Char) := do
  let r ← keywords? ["CREATE", "TABLE"] cs
  return (orSkip (keywords? ["IF", "NOT", "EXISTS"]) r, r)

/-- A qualified name and the parenthesis behind it. -/
def qualifiedShape? (cs : List Char) : Option (String × String) := do
  let (schema, r) ← name? cs
  let r ← char? '.' (skipBlanks r)
  let (name, r) ← name? (skipBlanks r)
  let _ ← char? '(' (skipBlanks r)
  return (schema, name)

/-- A name and the parenthesis behind it. -/
def plainShape? (cs : List Char) : Option String := do
  let (name, r) ← name? cs
  let _ ← char? '(' (skipBlanks r)
  return name

/-- The table that a `CREATE TABLE` line opens; `IF` itself may be its name. -/
def createShape? (cs : List Char) : Option (Option String × String) := do
  let (inner, outer) ← createHead? cs
  let qualified (t : List Char) := (qualifiedShape? t).map fun (s, n) => (some s, n)
  let plain (t : List Char) := (plainShape? t).map fun n => ((none : Option String), n)
  (qualified inner).or ((qualified outer).or ((plain inner).or (plain outer)))

/-- Whether a character may start the type of a column. -/
def startsType (c : Char) : Bool :=
  isWord c || c == '(' || c == ')'

/-- The name that a line in the shape of a column starts with, and whether a back quote stands
before it. -/
def columnShape? (cs : List Char) : Option (Bool × String) := do
  let quoted := cs.head? = some '`'
  let (name, r) ← name? cs
  let r ← blanks? r
  guard (r.head?.any startsType)
  return (quoted, name)

/-- Whether a line of a table body is known to say nothing about columns. -/
def isSilent (cs : List Char) : Bool :=
  cs.isEmpty || (after? ['-', '-'] cs).isSome || (after? ['#'] cs).isSome
    || (after? ['/', '*'] cs).isSome
    || bodyWords.any fun w => (after? w.toList (cs.map asciiUpper)).isSome

/-- The kind of a line, given without the white space around it. -/
def ofText (cs : List Char) : DumpLine :=
  match useShape? cs with
  | some schema => .use schema
  | none =>
    match createShape? cs with
    | some (schema, name) => .create schema name
    | none =>
      match columnShape? cs with
      | some (quoted, name) =>
        if !quoted && keyWords.any fun w => sameLetters w.toList name.toList then .key
        else .column name
      | none =>
        if cs.head? = some ')' then .close
        else if isSilent cs then .silent
        else .unknown

end DumpLine
end SchemaMap
