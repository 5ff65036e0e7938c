/-
# Declarations read from text

The name and the columns of a `CREATE TABLE`, and the name of a `CREATE SCHEMA`, are read
from the text of a statement, whatever clauses it carries besides. The column list runs from
the first parenthesis in code to the one that closes it, and is cut at its commas; a column
is a name followed by the words of its type. What follows the list is not looked at.

Key definitions: `TableText`, `Script.tableHead?`, `Script.isCreateTable`,
`Script.schemaDeclared?`, `Script.unquoted`, `Script.columnOf?`, `Script.tableDeclared?`.
-/
import SchemaMap.Script.Statement
import SchemaMap.Schema.Name
import SchemaMap.Schema.Basic

namespace SchemaMap

/-- A table read from the text of its declaration: the parts of its name, outermost first,
and its columns, each with its type unless the type is computed. -/
structure TableText where
  nameParts : List String
  columns : List Column
deriving DecidableEq, Repr, Inhabited

namespace Script

open Text

/-- The words that start an element of a table other than a column. -/
def elementWords : List String :=
  ["CONSTRAINT", "PRIMARY", "UNIQUE", "CHECK", "FOREIGN", "INDEX", "KEY", "EXCLUDE", "LIKE",
   "PERIOD", "FULLTEXT", "SPATIAL"]

/-- The words that end the type of a column. -/
def typeStopWords : List String :=
  ["NOT", "NULL", "IDENTITY", "DEFAULT", "CONSTRAINT", "COLLATE", "PRIMARY", "UNIQUE", "CHECK",
   "REFERENCES", "GENERATED", "AS", "SPARSE", "ROWGUIDCOL", "FILESTREAM", "MASKED",
   "ENCRYPTED", "AUTO_INCREMENT", "COMMENT", "ON"]

/-- What follows the words in front of the name of a created table. -/
def tableHead? (cs : List Char) : Option (List Char) := do
  let r ← keywords? ["CREATE"] (skipBlanks cs)
  let r := orSkip (keywords? ["OR", "REPLACE"]) r
  let r := orSkip (oneKeyword? ["GLOBAL", "LOCAL"]) r
  let r := orSkip (oneKeyword? ["TEMP", "TEMPORARY", "UNLOGGED"]) r
  let r ← keywords? ["TABLE"] r
  return orSkip (keywords? ["IF", "NOT", "EXISTS"]) r

/-- Whether a statement creates a table. -/
def isCreateTable (cs : List Char) : Bool :=
  (tableHead? (withoutComments cs)).isSome

/-- The body of a name in double quotes, up to its last closing quote; `body` is what has
been read of it, latest first. A doubled quote is part of the name. -/
def quotedName? (body : List Char) : List Char → Option (List Char)
  | [] => none
  | '"' :: '"' :: cs =>
    match quotedName? ('"' :: '"' :: body) cs with
    | some name => some name
    | none => if body.isEmpty then none else some ('"' :: body).reverse
  | '"' :: _ => if body.isEmpty then none else some ('"' :: body).reverse
  | c :: cs => quotedName? (c :: body) cs

/-- The body of a name in square brackets, with its closing bracket. -/
def bracketName? (cs : List Char) : Option (List Char) :=
  (run? (· != ']') cs).bind fun (name, rest) => (char? ']' rest).map fun _ => name ++ [']']

/-- The name at the front of a text, with its quotes. -/
def nameToken? : List Char → Option (List Char)
  | '"' :: cs => (quotedName? [] cs).map ('"' :: ·)
  | '[' :: cs => (bracketName? cs).map ('[' :: ·)
  | cs => (run? (fun c => isWord c || c == '$') cs).map (·.1)

/-- The text between the quotes `opening` and `closing`, with doubled closing quotes made
single. -/
def between? (opening closing : Char) (cs : List Char) : Option (List Char) := do
  let rest ← char? opening cs
  if rest.getLast? = some closing then some (undouble closing rest.dropLast) else none

/-- A name without one level of quotes. -/
def unquoted (cs : List Char) : List Char :=
  ((between? '"' '"' cs).or ((between? '[' ']' cs).or (between? '`' '`' cs))).getD cs

/-- The name of the schema that a statement creates. The words before the name are optional,
and where no name follows them they are the name themselves. -/
def schemaDeclared? (cs : List Char) : Option (List Char) := do
  let r ← keywords? ["CREATE", "SCHEMA"] (skipBlanks (withoutComments cs))
  let named (t : List Char) : Option (List Char) :=
    ((keywords? ["AUTHORIZATION"] t).bind nameToken?).or (nameToken? t)
  let token ← ((keywords? ["IF", "NOT", "EXISTS"] r).bind named).or (named r)
  return unquoted token

/-- Whether a word of a table element starts with a quote. -/
def isQuotedWord : List Char → Bool
  | c :: _ => c == '"' || c == '[' || c == '`'
  | [] => false

/-- Whether a word of a table element, up to its first parenthesis, is one of `words`. -/
def isOneOf (words : List String) (token : List Char) : Bool :=
  !isQuotedWord token
    && words.any fun w => sameLetters w.toList (token.takeWhile (· != '('))

/-- The words of a type in one text; a word in parentheses stands right behind the one before
it, every other word behind a blank. -/
def typeText : List (List Char) → List Char
  | [] => []
  | first :: more => more.foldl glue first
where
  glue (seen token : List Char) : List Char :=
    if token.head? = some '(' then seen ++ token else seen ++ ' ' :: token

/-- The column that the words of an element declare: a name, and the words of its type. -/
def columnOfWords? : List (List Char) → Option Column
  | [] => none
  | first :: rest =>
    if isOneOf elementWords first then none
    else
      let name := String.ofList (unquoted first)
      match rest.takeWhile fun t => !isOneOf typeStopWords t with
      | [] => some ⟨name, none⟩
      | tokens => some ⟨name, some (String.ofList (Name.withoutBrackets (typeText tokens)))⟩

/-- The column that an element of a column list declares. -/
def columnOf? (element : List Char) : Option Column :=
  columnOfWords? (parts isBlank element)

/-- The text before the first parenthesis in code, and what follows it. -/
def splitAtOpen? : Tagged → Option (List Char × Tagged)
  | [] => none
  | x :: more =>
    if x = ('(', .code) then some ([], more)
    else (splitAtOpen? more).map fun (before, rest) => (x.1 :: before, rest)

/-- The text up to the parenthesis in code that closes the one opened before it, with `depth`
more open in between. -/
def bodyUpToClose? (depth : Nat) : Tagged → Option (List Char)
  | [] => none
  | x :: more =>
    if x = (')', .code) then
      match depth with
      | 0 => some []
      | d + 1 => (bodyUpToClose? d more).map (x.1 :: ·)
    else (bodyUpToClose? (if x = ('(', .code) then depth + 1 else depth) more).map (x.1 :: ·)

/-- The table that a statement creates: none if it creates no table, if its name is more than
one word, or if its column list is not closed. -/
def tableDeclared? (cs : List Char) : Option TableText := do
  let rest ← tableHead? (withoutComments cs)
  let (before, more) ← splitAtOpen? (tagged rest)
  let name := trim before
  guard ((parts isBlank name).length = 1)
  let body ← bodyUpToClose? 0 more
  return {
    nameParts := (parts (· == '.') name).map fun p => String.ofList (unquoted p)
    columns := (parts (· == ',') body).filterMap columnOf? }

end Script
end SchemaMap
