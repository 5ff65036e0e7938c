/-
# Grammar of changed rows

Rows are inserted, updated, deleted, merged, truncated and copied. The rows of a copy may
stand in the text itself, up to a line with a backslash and a point.

Key definitions: `Sql.Grammar.insert`, `Sql.Grammar.update`, `Sql.Grammar.delete`,
`Sql.Grammar.merge`, `Sql.Grammar.copy`.
-/
import SchemaMap.Sql.Grammar.Object

namespace SchemaMap
namespace Sql
namespace Grammar

open Rule Ahead

/-- The parts of a table that a statement is about. -/
def optPartition : G :=
  opt (word "PARTITION") (parens exprs)

/-- A new value of a column, or of several. -/
def assignment : G :=
  seq
    [choose [(sym "(", .both (commaSep objectName) (lit ")"))] objectName, lit "=", expr]

/-- New values of columns. -/
def assignments : G :=
  commaSep assignment

/-- A condition, or nothing. -/
def optWhere : G :=
  opt (word "WHERE") expr

/-- What is given back of the changed rows. -/
def optReturning (d : Dialect) : G :=
  opt (word "RETURNING") (commaSep (selectItem d))

/-- What is done with the rows that are there already. -/
def optOnConflict : G :=
  let target : G :=
    choose [(words ["ON", "CONSTRAINT"], objectName), (peek (sym "("), columnList)] .done
  let action : G :=
    choose [(word "NOTHING", .done)] (seq [kws ["UPDATE", "SET"], assignments, optWhere])
  opt (word "ON")
    (choose [(word "CONFLICT", seq [target, kw "DO", action])]
      (.both (kws ["DUPLICATE", "KEY", "UPDATE"]) assignments))

/-- Inserted rows, behind `INSERT`. -/
def insert (d : Dialect) : G :=
  let directory : G :=
    seq [literalText d, opt (words ["STORED", "AS"]) fileFormat, .call .query]
  let source : G :=
    choose [(words ["DEFAULT", "VALUES"], .done)] (seq [optColumnList, optPartition, .call .query])
  seq [optOneOf ["INTO", "OVERWRITE"], optKw "LOCAL",
    choose [(word "DIRECTORY", directory)]
      (seq [optKw "TABLE", objectName, opt (when (d == .postgres) (word "AS")) ident, source,
        optOnConflict, optReturning d])]

/-- Updated rows, behind `UPDATE`. -/
def update (d : Dialect) : G :=
  seq [.call .tableAndJoins, kw "SET", assignments, opt (word "FROM") (.call .tableAndJoins),
    optWhere, optReturning d]

/-- Deleted rows, behind `DELETE`. -/
def delete (d : Dialect) : G :=
  let tables : G := commaSep (.call .tableAndJoins)
  seq [choose [(word "FROM", .done)] (.both (commaSep objectName) (kw "FROM")), tables,
    opt (word "USING") tables, optWhere, optReturning d, optOrderBy,
    opt (word "LIMIT") (choose [(word "ALL", .done)] expr)]

/-- Merged rows, behind `MERGE`; nothing but clauses may follow up to the end of the statement. -/
def merge : G :=
  let given : G := .both (opt (word "AND") expr) (kw "THEN")
  let unknown : G := .refused "expected UPDATE, DELETE or INSERT in merge clause"
  let notAllowed (clause k : String) : Ahead × G :=
    (word k, .refused (k ++ " is not allowed in a " ++ clause ++ " merge clause"))
  let changed (clause : String) : G :=
    choose
      [(word "UPDATE", .both (kw "SET") assignments), (word "DELETE", .done),
       notAllowed clause "INSERT"]
      unknown
  let added (clause : String) : G :=
    choose
      [(word "INSERT", seq [optColumnList, kw "VALUES", valueRows]), notAllowed clause "UPDATE",
       notAllowed clause "DELETE"]
      unknown
  let behindNot : G :=
    .both (kw "MATCHED")
      (choose
        [(words ["BY", "SOURCE"], .both given (changed "NOT MATCHED BY SOURCE")),
         (words ["BY", "TARGET"], .both given (added "NOT MATCHED BY TARGET"))]
        (.both given (added "NOT MATCHED")))
  let clause : G :=
    .both (kw "WHEN")
      (choose [(word "NOT", behindNot)] (seq [kw "MATCHED", given, changed "MATCHED"]))
  seq [optKw "INTO", .call .tableFactor, kw "USING", .call .tableFactor, kw "ON", expr,
    .loop (absent (orElse atEnd (sym ";"))) clause]

/-- Emptied tables, behind `TRUNCATE`. -/
def truncate (d : Dialect) : G :=
  let pg := d == .postgres
  seq [optKw "TABLE", optKw "ONLY", commaSep objectName, optPartition,
    opt (when pg (andThen (anyOf ["RESTART", "CONTINUE"]) (word "IDENTITY"))) .done,
    opt (when pg (anyOf ["CASCADE", "RESTRICT"])) .done, optOnCluster]

/-! ## Copies -/

/-- A text of one character, which may also be given as a word. -/
def literalChar (d : Dialect) : G :=
  let isChar : Token → Bool := fun t =>
    isLiteralText d t &&
      match t with
      | .word w .. => w.utf8ByteSize == 1
      | .text _ s => s.utf8ByteSize == 1
      | _ => false
  choose [(token isChar, .done)] (.both (literalText d) (.broken "Expect a char"))

/-- An option of a copy. -/
def copyOption (d : Dialect) : G :=
  choose
    [(word "FORMAT", ident), (anyOf ["FREEZE", "HEADER"], optOneOf ["TRUE", "FALSE"]),
     (anyOf ["DELIMITER", "QUOTE", "ESCAPE"], literalChar d),
     (anyOf ["NULL", "ENCODING"], literalText d),
     (anyOf ["FORCE_QUOTE", "FORCE_NOT_NULL", "FORCE_NULL"], columnList)]
    (.wrong "option")

/-- An option of a copy in the older form. -/
def copyWord (d : Dialect) : G :=
  let csvWord : G :=
    choose
      [(word "HEADER", .done),
       (anyOf ["QUOTE", "ESCAPE"], .both (optKw "AS") (literalChar d)),
       (words ["FORCE", "NOT", "NULL"], commaSep ident),
       (words ["FORCE", "QUOTE"], commaSep ident)]
      (.wrong "csv option")
  choose
    [(word "BINARY", .done), (word "DELIMITER", .both (optKw "AS") (literalChar d)),
     (word "NULL", .both (optKw "AS") (literalText d)), (word "CSV", .many csvWord)]
    (.wrong "option")

/-- A piece of copied rows; a backslash goes with what follows it, and ends the rows where
that is a point. -/
def copiedPiece : Ahead
  | [] => none
  | ⟨.symbol "\\", _⟩ :: ⟨.symbol ".", _⟩ :: _ => none
  | ⟨.symbol "\\", _⟩ :: _ :: _ => some 2
  | _ => some 1

/-- Copied rows that stand in the text. -/
def copiedRows : G :=
  seq [lit ";", .loop copiedPiece .done, opt (andThen (sym "\\") (sym ".")) .done]

/-- A copy of rows, behind `COPY`. -/
def copy (d : Dialect) : G :=
  let tail (rows : G) : G :=
    seq [optKw "WITH", opt (sym "(") (.both (commaSep (copyOption d)) (lit ")")),
      .many (copyWord d), rows]
  let target : G :=
    choose
      [(word "STDIN", tail copiedRows), (word "STDOUT", tail .done),
       (word "PROGRAM", .both (literalText d) (tail .done))]
      (.both (literalText d) (tail .done))
  let whence (query : Bool) : G :=
    choose
      [(word "FROM",
        if query then .refused "COPY ... FROM does not support query as a source" else target),
       (word "TO", target)]
      (.wrong "FROM or TO")
  choose [(sym "(", seq [.call .query, lit ")", whence true])]
    (seq [objectName, optColumnList, whence false])

end Grammar
end Sql
end SchemaMap
