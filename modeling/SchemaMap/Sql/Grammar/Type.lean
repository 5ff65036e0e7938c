/-
# Grammar of data types

A type is a keyword with the arguments that belong to it, or a name of its own with any
words, numbers and texts in parentheses. Postgres allows brackets behind every type.

Key definitions: `Sql.Grammar.builtinArms`, `Sql.Grammar.dataType`,
`Sql.Grammar.elementType`, `Sql.Grammar.evidentType`.
-/
import SchemaMap.Sql.Grammar.Symbol

namespace SchemaMap
namespace Sql
namespace Grammar

open Rule Ahead

/-- A length in parentheses, or nothing. -/
def optLength : G :=
  opt (sym "(") (seq [uint, lit ")"])

/-- A length in characters or octets, or `MAX`, in parentheses, or nothing. -/
def optCharLength : G :=
  opt (sym "(")
    (.both (choose [(word "MAX", .done)] (.both uint (optOneOf ["CHARACTERS", "OCTETS"])))
      (lit ")"))

/-- A precision and perhaps a scale in parentheses, or nothing. -/
def optPrecisionScale : G :=
  opt (sym "(") (seq [uint, opt (sym ",") uint, lit ")"])

/-- Whether a time has a zone, or nothing. -/
def optTimeZone : G :=
  choose [(word "WITH", kws ["TIME", "ZONE"]), (word "WITHOUT", kws ["TIME", "ZONE"])] .done

/-- A list of texts in parentheses. -/
def textValues : G :=
  seq [lit "(", plainText "a string", .loop (sym ",") (plainText "a string"),
    .take (· == .symbol ")") ", or \x7d"]

/-- The types that take no arguments. -/
def plainTypes : List String :=
  ["BOOLEAN", "BOOL", "REAL", "FLOAT4", "FLOAT32", "FLOAT64", "FLOAT8", "INT16", "INT32",
   "INT64", "INT128", "INT256", "UINT8", "UINT16", "UINT32", "UINT64", "UINT128", "UINT256",
   "UUID", "DATE", "DATE32", "INTERVAL", "JSON", "JSONB", "REGCLASS", "TEXT", "BYTEA",
   "TRIGGER"]

/-- The whole numbers, which take a length and may be unsigned. -/
def wholeTypes : List String :=
  ["TINYINT", "INT2", "SMALLINT", "MEDIUMINT", "INT", "INT4", "INT8", "INTEGER", "BIGINT"]

/-- The types that take a length. -/
def lengthTypes : List String :=
  ["FLOAT", "CLOB", "BINARY", "VARBINARY", "BLOB", "BYTES", "DATETIME", "STRING",
   "TIMESTAMPTZ", "TIMETZ"]

/-- The types that take a precision and a scale. -/
def exactTypes : List String :=
  ["NUMERIC", "DECIMAL", "DEC", "BIGNUMERIC", "BIGDECIMAL"]

/-- The types known by keyword; `closing` ends the type of an array. -/
def builtinArms (d : Dialect) (closing : G) : List (Ahead × G) :=
  [(anyOf plainTypes, .done),
   (anyOf wholeTypes, .both optLength (optKw "UNSIGNED")),
   (anyOf lengthTypes, optLength),
   (anyOf exactTypes, optPrecisionScale),
   (anyOf ["VARCHAR", "NVARCHAR"], optCharLength),
   (anyOf ["CHARACTER", "CHAR"],
     choose [(word "VARYING", optCharLength), (words ["LARGE", "OBJECT"], optLength)]
       optCharLength),
   (word "DOUBLE", optKw "PRECISION"),
   (anyOf ["TIMESTAMP", "TIME"], .both optLength optTimeZone),
   (word "DATETIME64", seq [lit "(", uint, opt (sym ",") (literalText d), lit ")"]),
   (word "FIXEDSTRING", parens uint),
   (anyOf ["ENUM", "SET"], textValues),
   (word "ARRAY", seq [lit "<", .call .elementType, closing])]

/-- Whether a token may stand between the parentheses of a named type. -/
def isModifier (t : Token) : Bool :=
  t.isWord || isNumber t || isText .plain t || t == .symbol ","

/-- A type with a name of its own. -/
def namedType : G :=
  .look (peek (token Token.isWord))
    (.both objectName
      (opt (sym "(") (.both (.loop (token isModifier) .done)
        (.take (· == .symbol ")") "type modifiers"))))
    (.wrong "a data type name")

/-- Brackets behind a type, with or without a length. -/
def arraySuffix (d : Dialect) : G :=
  .loop (sym "[")
    (.both (opt (when (d == .postgres) (token (isWholeBelow (Nat.pow 2 64)))) .done) (lit "]"))

/-- A type, of which an array closes with `closing`. -/
def typeClosing (d : Dialect) (closing : G) : G :=
  .node .type (.both (choose (builtinArms d closing) namedType) (arraySuffix d))

/-- A data type. -/
def dataType (d : Dialect) : G :=
  typeClosing d (lit ">")

/-- The type inside the type of an array. Where that is an array itself, both may close with one
double bracket. -/
def elementType (d : Dialect) : G :=
  typeClosing d .closeAngle

/-- The keyword of a type comes next. -/
def builtinAhead (d : Dialect) : Ahead := fun ts =>
  (firstOf ts (builtinArms d .closeAngle)).map fun _ => 0

/-- A data type that is more than a name: it has a keyword, or brackets behind it. -/
def evidentType (d : Dialect) : G :=
  choose [(builtinAhead d, .call .dataType)]
    (.both namedType (choose [(peek (sym "["), arraySuffix d)] (.refused "a named type")))

end Grammar
end Sql
end SchemaMap
