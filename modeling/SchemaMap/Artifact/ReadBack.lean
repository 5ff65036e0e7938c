/-
# Reading a generated file back

The mappings and the type map are read out of the text of a generated file. Lines and parts
that are laid out differently are passed over; only what has the layout of an entry and cannot
be decoded is a failure.

Key definitions: `Artifact.mappingAt?`, `Artifact.readMappings`, `Artifact.TypeLine`,
`Artifact.readTypeMap`.
-/
import SchemaMap.Artifact.Render
import SchemaMap.Text.Pattern

namespace SchemaMap
namespace Artifact

open Text

/-! ## Mappings -/

/-- A mapping as it stands in a file: the bodies of its quoted texts and the constant of its
transformer. -/
structure Entry where
  schema : List Char
  table : List Char
  column : List Char
  constant : List Char
deriving DecidableEq, Repr, Inhabited

/-- A label, white space, a quoted text and a comma; gives the body of the text. -/
def labelled? (label : String) (cs : List Char) : Option (List Char × List Char) := do
  let r ← after? label.toList cs
  let (body, r) ← literal? (skipBlanks r)
  let r ← char? ',' r
  return (body, r)

/-- White space with a line feed in it. -/
def lineBreak? (cs : List Char) : Option (List Char) :=
  if (cs.takeWhile isBlank).contains '\n' then some (skipBlanks cs) else none

/-- A word and a text behind it. -/
def wordThen? (text : String) (cs : List Char) : Option (List Char) := do
  let (_, r) ← wordRun? cs
  after? text.toList r

/-- A mapping at the front of a text, and what follows it. -/
def mappingAt? (cs : List Char) : Option (Entry × List Char) := do
  let (schema, r) ← labelled? "Schema:" (skipBlanks cs)
  let (table, r) ← labelled? "Table:" (← lineBreak? r)
  let (column, r) ← labelled? "Column:" (← lineBreak? r)
  let r ← after? "Transformer:".toList (← lineBreak? r)
  let r ← wordThen? ".JobMappingTransformer\x7b" (← char? '&' (skipBlanks r))
  let r ← after? "Source:".toList (← lineBreak? r)
  let r ← wordThen? ".TransformerSource_" (skipBlanks r)
  let (constant, r) ← wordRun? r
  let r ← char? ',' r
  return (⟨schema, table, column, constant⟩, r)

/-- The mappings of a text in order; `atStart` tells whether the text starts a line. -/
def entriesFrom : Nat → Bool → List Char → List Entry
  | 0, _, _ => []
  | fuel + 1, atStart, cs =>
    match if atStart then mappingAt? cs else none with
    | some (e, rest) => e :: entriesFrom fuel false rest
    | none =>
      match cs with
      | [] => []
      | c :: more => entriesFrom fuel (c == '\n') more

/-- The mapping of an entry. -/
def Entry.toMapping (e : Entry) : Except Fault JobMapping :=
  match Transformer.ofConstant? (String.ofList e.constant) with
  | none =>
    .error (.render ("unknown transformer source '" ++ String.ofList e.constant ++ "'"))
  | some t => do
    let schema ← decoded e.schema
    let table ← decoded e.table
    let column ← decoded e.column
    return ⟨String.ofList schema, String.ofList table, String.ofList column, t⟩

/-- The mappings in the text of a generated file, in order. -/
def readMappings (cs : List Char) : Except Fault (List JobMapping) :=
  (entriesFrom (cs.length + 1) true cs).mapM Entry.toMapping

/-! ## The type map -/

/-- The kinds of lines in the function that gives the type map. -/
inductive TypeLine where
  /-- A table is opened. -/
  | table (key : List Char)
  /-- A column and its type. -/
  | column (name type : List Char)
  /-- A table is closed. -/
  | close
  /-- The end of the map. -/
  | stop
  | other
deriving DecidableEq, Repr, Inhabited

/-- A quoted text and a colon, and what follows the white space behind it. -/
def keyAt? (cs : List Char) : Option (List Char × List Char) := do
  let (key, r) ← literal? (skipBlanks cs)
  let r ← char? ':' r
  return (key, skipBlanks r)

/-- Whether nothing but white space follows the character `c`. -/
def endsWith (c : Char) (cs : List Char) : Bool :=
  match char? c cs with
  | some r => isBlankText r
  | none => false

/-- The column and the type of a line. -/
def columnAt? (cs : List Char) : Option TypeLine := do
  let (name, r) ← keyAt? cs
  let (type, r) ← literal? r
  if endsWith ',' r then return .column name type else none

/-- The kind of a line. -/
def TypeLine.ofText (cs : List Char) : TypeLine :=
  let tableAt? : Option TypeLine := do
    let (key, r) ← keyAt? cs
    if endsWith '\x7b' r then return .table key else none
  match tableAt?.or (columnAt? cs) with
  | some l => l
  | none =>
    let t := trim cs
    if t = ['\x7d', ','] then .close else if t = ['\x7d'] then .stop else .other

/-- Reads the lines of the type map in order, where `m` has been read and `current` is the
table that is open. -/
def readTypeLines (m : TypeMap) (current : Option String) :
    List (List Char) → Except Fault TypeMap
  | [] => .ok m
  | text :: more =>
    match TypeLine.ofText text with
    | .table key =>
      match decoded key with
      | .error e => .error e
      | .ok key =>
        let key := String.ofList key
        readTypeLines (TypeMap.update key id m) (some key) more
    | .column name type =>
      match current with
      | none =>
        .error (.render ("type entry outside a table: " ++ String.ofList (trim text)))
      | some key =>
        match decoded name, decoded type with
        | .error e, _ | .ok _, .error e => .error e
        | .ok name, .ok type =>
          let column := (String.ofList name, String.ofList type)
          readTypeLines (TypeMap.update key (· ++ [column]) m) current more
    | .close => readTypeLines m none more
    | .stop => .ok m
    | .other => readTypeLines m current more

/-- The type map in the text of a generated file, if it has one. -/
def readTypeMap (cs : List Char) : Except Fault (Option TypeMap) :=
  match find? "func GetTableColumnTypeMap()".toList cs with
  | none => .ok none
  | some found => (readTypeLines [] none ((lines found).drop 2)).map some

end Artifact
end SchemaMap
