/-
# The text of a data type

A type known by keyword is spelled in a fixed way: keywords in upper case, numbers without
blanks, texts in single quotes. A type with a name of its own keeps the spelling of its name.

Key definitions: `Sql.doubled`, `Sql.nameText`, `Sql.typeText`.
-/
import SchemaMap.Sql.Grammar.Type

namespace SchemaMap
namespace Sql

/-- A text with each quote in it doubled; a pair of quotes, and the quotes behind a backslash,
stay as they are. -/
def doubled (q : Char) (behindSlash : Bool) : List Char → List Char
  | [] => []
  | [c] => if c = q && !behindSlash then [c, c] else [c]
  | c :: d :: cs =>
    if c = q then
      if behindSlash then c :: doubled q true (d :: cs)
      else if d = q then c :: c :: doubled q false cs
      else c :: c :: doubled q false (d :: cs)
    else c :: doubled q (c = '\\') (d :: cs)

/-- A text between quotes. -/
def quotedText (q : Char) (s : String) : String :=
  q.toString ++ String.ofList (doubled q false s.toList) ++ q.toString

/-- A part of a name with the quotes it was written in. -/
def namePartText : Token → String
  | .word w (some '[') _ => "[" ++ w ++ "]"
  | .word w (some q) _ => quotedText q w
  | .text .plain s => quotedText '\'' s
  | t => t.shown

/-- A name as it was written, its parts with points between. -/
def nameText (ts : List Token) : String :=
  String.join (ts.map namePartText)

/-- What stands between the parentheses behind a type with a name of its own. -/
def modifiers (ts : List Token) : List String :=
  ts.filterMap fun t =>
    match t with
    | .symbol _ => none
    | .number digits _ => some digits
    | .text .plain s => some s
    | t => some t.shown

/-- The tokens of a type with a name of its own: the name, what stands in parentheses behind
it, and the brackets behind that. -/
def namedTypeText (ts : List Token) : String :=
  let isBreak (t : Token) : Bool := t == .symbol "(" || t == .symbol "["
  let name := ts.takeWhile fun t => !isBreak t
  let rest := ts.drop name.length
  let inner := if rest.head? = some (.symbol "(") then
    (rest.drop 1).takeWhile (· != .symbol ")") else []
  let behind := rest.dropWhile (· != .symbol "[")
  let arguments :=
    match modifiers inner with
    | [] => ""
    | ms => "(" ++ Text.join ", " ms ++ ")"
  nameText name ++ arguments ++ String.join (behind.map Token.shown)

/-- The keywords that are not spelled in upper case. -/
def keywordSpellings : List (String × String) :=
  [("FLOAT32", "Float32"), ("INT16", "Int16"), ("INT32", "Int32"), ("INT128", "Int128"),
   ("INT256", "Int256"), ("UINT8", "UInt8"), ("UINT16", "UInt16"), ("UINT32", "UInt32"),
   ("UINT64", "UInt64"), ("UINT128", "UInt128"), ("UINT256", "UInt256"), ("DATE32", "Date32"),
   ("DATETIME64", "DateTime64"), ("FIXEDSTRING", "FixedString")]

/-- The spelling of a keyword in a type. -/
def keywordText (k : String) : String :=
  (keywordSpellings.lookup k).getD k

/-- The types whose arguments have no blank behind their comma. -/
def isTight (first : Token) : Bool :=
  Grammar.exactTypes.any fun k => first.isKeyword k

/-- The tokens of a type known by keyword, from one with a keyword in front or behind a
blank. -/
def builtinText (tight : Bool) (afterBlank : Bool) : List Token → String
  | [] => ""
  | t :: ts =>
    match t with
    | .word w _ k =>
      (if afterBlank then " " else "") ++ keywordText (k.getD w) ++ builtinText tight true ts
    | .symbol "(" => "(" ++ builtinText tight false ts
    | .symbol "," => (if tight then "," else ", ") ++ builtinText tight false ts
    | .symbol s => s ++ builtinText tight true ts
    | .number digits _ =>
      Text.digits (Text.valueOfDigits digits.toList) ++ builtinText tight true ts
    | .text _ s => quotedText '\'' s ++ builtinText tight true ts
    | t => t.shown ++ builtinText tight true ts

/-- Whether a token starts a type known by keyword. -/
def isBuiltin (d : Dialect) (t : Token) : Bool :=
  (Grammar.builtinAhead d [⟨t, ⟨1, 1⟩⟩]).isSome

/-- The zone of a time stands between quotes as it is, even where it is given as a word. -/
def zoneBetweenQuotes : List Token → List Token
  | t@(.word _ _ (some "DATETIME64")) :: more =>
    t :: more.map fun
      | .word w _ _ | .text _ w => .symbol ("'" ++ w ++ "'")
      | u => u
  | ts => ts

/-- The text of a type without types inside it. -/
def flatTypeText (d : Dialect) (ts : List Token) : String :=
  match ts with
  | [] => ""
  | t :: _ =>
    if isBuiltin d t then builtinText (isTight t) false (zoneBetweenQuotes ts) else namedTypeText ts

mutual

/-- The text of a type, or of a token in a type. -/
def typeText (d : Dialect) : Tree → String
  | .leaf t => t.shown
  | .node _ parts =>
    match innerType d parts with
    | some inner => "ARRAY<" ++ inner ++ ">" ++ String.join ((behindInner parts).map Token.shown)
    | none => flatTypeText d (tokensOf parts)

/-- The text of the type inside a type. -/
def innerType (d : Dialect) : List Tree → Option String
  | [] => none
  | .leaf _ :: more => innerType d more
  | .node label parts :: _ => some (typeText d (.node label parts))

/-- The tokens among the parts of a type. -/
def tokensOf : List Tree → List Token
  | [] => []
  | .leaf t :: more => t :: tokensOf more
  | .node _ _ :: more => tokensOf more

/-- The tokens behind the bracket that closes a type inside a type. -/
def behindInner : List Tree → List Token
  | [] => []
  | .leaf _ :: more => behindInner more
  | .node _ _ :: more => (tokensOf more).drop 1

end

end Sql
end SchemaMap
