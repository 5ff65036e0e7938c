/-
# Grammar of table declarations

A created table has a name, an optional list of columns and constraints, and clauses in a
fixed order. A column is a name, a type, an optional collation and any number of options.

The words that a dialect does not know as an option are still taken where an option may
stand; the option then has to follow them.

Key definitions: `Sql.Grammar.columnOptions`, `Sql.Grammar.columnDef`,
`Sql.Grammar.tableConstraint`, `Sql.Grammar.columns`, `Sql.Grammar.createTable`.
-/
import SchemaMap.Sql.Grammar.Query

namespace SchemaMap
namespace Sql
namespace Grammar

open Rule Ahead

/-! ## Constraints -/

/-- When a constraint is checked: each of its three traits at most once. -/
def characteristics : G :=
  .eachOnce
    [[(words ["NOT", "DEFERRABLE"], .done), (word "DEFERRABLE", .done)],
     [(word "INITIALLY",
       choose [(anyOf ["DEFERRED", "IMMEDIATE"], .done)]
         (.wrong "one of DEFERRED or IMMEDIATE"))],
     [(word "ENFORCED", .done), (words ["NOT", "ENFORCED"], .done)]]

/-- What happens to the rows that refer to a changed one. -/
def referentialAction : G :=
  choose
    [(anyOf ["RESTRICT", "CASCADE"], .done), (words ["SET", "NULL"], .done),
     (words ["NO", "ACTION"], .done), (words ["SET", "DEFAULT"], .done)]
    (.wrong "one of RESTRICT, CASCADE, SET NULL, NO ACTION or SET DEFAULT")

/-- The actions of a reference, each at most once. -/
def referentialActions : G :=
  .eachOnce
    [[(words ["ON", "DELETE"], referentialAction)], [(words ["ON", "UPDATE"], referentialAction)]]

/-- The kind of an index. -/
def indexType : G :=
  choose [(anyOf ["BTREE", "HASH"], .done)] (.wrong "index type \x7bBTREE | HASH\x7d")

/-- The options behind the columns of an index. -/
def indexOptions (d : Dialect) : G :=
  .loop (peek (anyOf ["USING", "COMMENT"]))
    (choose [(word "USING", indexType)] (.both (kw "COMMENT") (literalText d)))

/-- The columns of a key, perhaps behind its name and its kind. -/
def keyColumns (d : Dialect) : G :=
  seq [opt (token Token.isNamePart) .done, opt (word "USING") indexType, columnList, indexOptions d,
    characteristics]

/-- A constraint behind its optional name. -/
def constraintForm (d : Dialect) (other : G) : G :=
  choose
    [(word "UNIQUE",
      choose
        [(anyOf ["KEY", "INDEX"], .wrong "\x60index_name\x60 or \x60(column_name [, ...])\x60")]
        (.both
          (opt (word "NULLS") (.both (optKw "NOT") (kw "DISTINCT")))
          (keyColumns d))),
     (word "PRIMARY", .both (kw "KEY") (keyColumns d)),
     (word "FOREIGN",
       seq [kw "KEY", columnList, kw "REFERENCES", objectName, columnList, referentialActions,
         characteristics]),
     (word "CHECK", parenExpr)]
    other

/-- A constraint of a table. -/
def tableConstraint (d : Dialect) : G :=
  choose
    [(word "CONSTRAINT",
      .both ident (constraintForm d (.wrong "PRIMARY, UNIQUE, FOREIGN, or CHECK")))]
    (constraintForm d (.wrong "a constraint"))

/-- A constraint of a table comes next. -/
def constraintAhead : Ahead :=
  peek (anyOf ["CONSTRAINT", "UNIQUE", "PRIMARY", "FOREIGN", "CHECK"])

/-! ## Columns -/

/-- The options of a sequence, in their order. -/
def sequenceOptions : G :=
  seq [opt (word "INCREMENT") (.both (optKw "BY") signedNumber),
    choose [(word "MINVALUE", signedNumber), (words ["NO", "MINVALUE"], .done)] .done,
    choose [(word "MAXVALUE", signedNumber), (words ["NO", "MAXVALUE"], .done)] .done,
    opt (word "START") (.both (optKw "WITH") signedNumber),
    opt (word "CACHE") signedNumber,
    choose [(words ["NO", "CYCLE"], .done), (word "CYCLE", .done)] .done]

/-- What follows `GENERATED`: `found` behind a whole option, `missing` where there is none. -/
def generatedThen (d : Dialect) (found missing : G) : G :=
  let sequence : G := .both (opt (sym "(") (.both sequenceOptions (lit ")"))) found
  let stored : G :=
    match d with
    | .postgres => kw "STORED"
    | .tsql => optOneOf ["STORED", "VIRTUAL"]
  choose
    [(words ["ALWAYS", "AS", "IDENTITY"], sequence),
     (words ["BY", "DEFAULT", "AS", "IDENTITY"], sequence),
     (andThen (words ["ALWAYS", "AS"]) (sym "("), seq [expr, lit ")", stored, found]),
     (words ["ALWAYS", "AS"], missing)]
    missing

/-- The start and the step of an identity. -/
def identityRange : G :=
  opt (sym "(") (seq [signedNumber, lit ",", signedNumber, lit ")"])

/-- The options of a column that both dialects know. -/
def commonOptions : List (Ahead × G) :=
  [(words ["CHARACTER", "SET"], objectName),
   (words ["NOT", "NULL"], .done),
   (word "COMMENT", plainText "string"),
   (word "NULL", .done),
   (word "DEFAULT", expr),
   (words ["PRIMARY", "KEY"], characteristics),
   (word "UNIQUE", characteristics),
   (word "REFERENCES", seq [objectName, optColumnList, referentialActions, characteristics]),
   (word "CHECK", parenExpr)]

/-- One option of a column: `found` behind it, `missing` where there is none. The words that
are options elsewhere are passed over, and an option may follow them. -/
def optionThen (d : Dialect) (found missing : G) : G :=
  let identity : G :=
    match d with
    | .tsql => choose [(word "IDENTITY", .both identityRange found)] missing
    | .postgres => .both (optKw "IDENTITY") missing
  choose (commonOptions.map fun (test, r) => (test, .both r found))
    (seq
      [optKw "AUTO_INCREMENT", optKw "AUTOINCREMENT", optKw "ASC", optKw "DESC",
        opt (words ["ON", "UPDATE"]) .done,
        choose [(word "GENERATED", generatedThen d found missing)] (.both (optKw "AS") identity)])

/-- The options of a column without names. -/
def plainOptions (d : Dialect) : G :=
  optionThen d (.call .plainOptions) .done

/-- The options of a column, each perhaps behind the name of a constraint. -/
def columnOptions (d : Dialect) : G :=
  let more : G := .call .columnOptions
  choose
    [(word "CONSTRAINT",
      .both ident (optionThen d more (.wrong "constraint details after CONSTRAINT <name>")))]
    (optionThen d more .done)

/-- A column: its name, its type, its collation and its options. -/
def columnDef : G :=
  seq [ident, .call .dataType, opt (word "COLLATE") objectName, .call .columnOptions]

/-- The columns and constraints of a table, or nothing. -/
def columns : G :=
  let element : G :=
    choose
      [(constraintAhead, .call .tableConstraint),
       (peek (token Token.isWord), .node .column (.call .columnDef))]
      (.wrong "column name or constraint definition")
  let last : G :=
    .take (· == .symbol ")") "',' or ')' after column definition"
  choose
    [(andThen (sym "(") (sym ")"), .done),
     (sym "(", seq [element, .loop (sym ",") element, last])]
    .done

/-! ## Clauses behind the columns -/

/-- An option of a table or a view. -/
def tableOption (d : Dialect) : G :=
  let clustered : G :=
    choose
      [(words ["CLUSTERED", "COLUMNSTORE", "INDEX", "ORDER"], columnList),
       (words ["CLUSTERED", "COLUMNSTORE", "INDEX"], .done),
       (words ["CLUSTERED", "INDEX"], parens (commaSep (.both ident (optOneOf ["ASC", "DESC"]))))]
      (.refused "invalid CLUSTERED sequence")
  let partition : G :=
    seq [lit "(", ident, kw "RANGE", optOneOf ["LEFT", "RIGHT"], kws ["FOR", "VALUES"],
      parens exprs, lit ")"]
  let plain : G := seq [ident, lit "=", expr]
  match d with
  | .postgres => plain
  | .tsql =>
    choose
      [(word "HEAP", .done), (peek (word "CLUSTERED"), clustered), (word "PARTITION", partition)]
      plain

/-- Options in parentheses. -/
def optionList (d : Dialect) : G :=
  parens (commaSep (tableOption d))

/-- Options in parentheses behind a keyword, or nothing. -/
def optOptions (d : Dialect) (k : String) : G :=
  opt (word k) (optionList d)

/-- The cluster on which a statement is run. -/
def optOnCluster : G :=
  opt (words ["ON", "CLUSTER"]) ident

/-- The names of file formats. -/
def fileFormat : G :=
  choose
    [(anyOf ["AVRO", "JSONFILE", "ORC", "PARQUET", "RCFILE", "SEQUENCEFILE", "TEXTFILE"], .done)]
    (.wrong "fileformat")

/-- The words in front of a delimiter of rows, each with those that have to follow it. -/
def delimiterWords : List (String × List String) :=
  [("COLLECTION", ["ITEMS", "TERMINATED", "BY"]), ("MAP", ["KEYS", "TERMINATED", "BY"]),
   ("LINES", ["TERMINATED", "BY"]), ("NULL", ["DEFINED", "AS"])]

/-- How the rows of a table are laid out in files. Of a delimiter that is begun and does not go
on, the first word is passed over, and none may follow. -/
def rowFormat (d : Dialect) : G :=
  let heads : List (List String × G) :=
    (["FIELDS", "TERMINATED", "BY"], .both ident (opt (words ["ESCAPED", "BY"]) ident))
      :: delimiterWords.map fun (k, ks) => (k :: ks, ident)
  let headAhead : Ahead := fun ts => heads.findSome? fun (ks, _) => peek (words ks) ts
  let delimiters : G :=
    .both (.loop headAhead (choose (heads.map fun (ks, r) => (words ks, r)) .done))
      (optOneOf ("FIELDS" :: delimiterWords.map (·.1)))
  .both (kw "FORMAT")
    (choose [(word "SERDE", literalText d)] (.both (optKw "DELIMITED") delimiters))

/-- Where and how the rows of a table are stored. -/
def storage (d : Dialect) : G :=
  .loop
    (fun ts => (peek (anyOf ["ROW", "STORED", "LOCATION"]) ts).or
      (peek (words ["WITH", "SERDEPROPERTIES"]) ts))
    (choose
      [(word "ROW", rowFormat d),
       (word "STORED",
         .both (kw "AS")
           (choose [(word "INPUTFORMAT", seq [expr, kw "OUTPUTFORMAT", expr])] fileFormat)),
       (word "LOCATION", literalText d),
       (words ["WITH", "SERDEPROPERTIES"], optionList d)]
      .done)

/-- The columns that a table is partitioned by. -/
def optPartitioned : G :=
  opt (words ["PARTITIONED", "BY"]) (parens (commaSep (.call .columnDef)))

/-- A word behind a sign of equality. -/
def equalsWord : G :=
  .both (lit "=") (.take Token.isWord "identifier")

/-- A whole number of 32 bits behind a sign of equality that may be missing. -/
def offset : G :=
  .both (opt (sym "=") .done) (.take (isWholeBelow (Nat.pow 2 32)) "literal int")

/-- What happens to the rows at the end of a transaction. -/
def onCommit : G :=
  choose
    [(words ["DELETE", "ROWS"], .done), (words ["PRESERVE", "ROWS"], .done), (word "DROP", .done)]
    (.broken "Expecting DELETE ROWS, PRESERVE ROWS or DROP")

/-- The clauses behind the columns of a table, in their order. -/
def tableClauses (d : Dialect) : G :=
  seq
    [opt (words ["WITHOUT", "ROWID"]) .done, optPartitioned, storage d,
     optOptions d "WITH", optOptions d "TBLPROPERTIES",
     opt (word "ENGINE") (.both equalsWord optColumnList),
     opt (word "AUTO_INCREMENT") offset,
     opt (words ["ORDER", "BY"])
       (choose [(andThen (sym "(") (sym ")"), .done), (sym "(", .both exprs (lit ")"))] expr),
     opt (when (d == .postgres) (words ["PARTITION", "BY"])) expr,
     opt (words ["DEFAULT", "CHARSET"]) equalsWord,
     opt (word "COLLATE") equalsWord,
     opt (words ["ON", "COMMIT"]) onCommit,
     optKw "STRICT",
     opt (word "COMMENT") (.both (opt (sym "=") .done) (plainText "comment")),
     opt (word "AS") (.call .query)]

/-- The name of a table to be copied, in whose place any token is taken. -/
def copiedName : G :=
  opt nameOrToken .done

/-- A created table behind `CREATE TABLE`. -/
def createTable (d : Dialect) : G :=
  .node .table
    (seq [ifNotExists, .node .name objectName, optOnCluster,
      opt (anyOf ["LIKE", "ILIKE"]) copiedName, opt (word "CLONE") copiedName, columns,
      tableClauses d])

/-- A table whose rows are stored elsewhere, behind `CREATE EXTERNAL`. -/
def createExternalTable (d : Dialect) : G :=
  .both (kw "TABLE")
    (.node .table
      (seq [ifNotExists, .node .name objectName, columns, optPartitioned, storage d,
        optOptions d "TBLPROPERTIES"]))

end Grammar
end Sql
end SchemaMap
