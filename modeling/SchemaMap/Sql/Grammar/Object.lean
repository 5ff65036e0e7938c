/-
# Grammar of other declarations

Views, indexes, sequences, types, functions, triggers, roles, policies and the like: how they
are created, changed and dropped. Created schemas are kept by name.

Key definitions: `Sql.Grammar.create`, `Sql.Grammar.alter`, `Sql.Grammar.drop`.
-/
import SchemaMap.Sql.Grammar.Table

namespace SchemaMap
namespace Sql
namespace Grammar

open Rule Ahead

/-! ## Created objects -/

/-- A view behind `CREATE` and `MATERIALIZED`. -/
def createView (d : Dialect) : G :=
  let columns : G :=
    opt (sym "(") (choose [(sym ")", .done)] (.both (commaSep ident) (lit ")")))
  seq [kw "VIEW", objectName, columns, optOptions d "WITH",
    opt (word "CLUSTER") (.both (kw "BY") optColumnList), kw "AS", .call .query]

/-- An owner or a role. -/
def owner : G :=
  ident

/-- A policy behind `CREATE POLICY`. -/
def createPolicy : G :=
  seq [ident, kw "ON", objectName,
    opt (word "AS") (oneOf ["PERMISSIVE", "RESTRICTIVE"]),
    opt (word "FOR") (oneOf ["ALL", "SELECT", "INSERT", "UPDATE", "DELETE"]),
    opt (word "TO") (commaSep owner), opt (word "USING") parenExpr,
    opt (words ["WITH", "CHECK"]) parenExpr]

/-- A parameter of a function: a type, perhaps behind its name. A type that is no more than a
name stands for the name, and the type follows. -/
def functionParameter (d : Dialect) : G :=
  seq [optOneOf ["IN", "OUT", "INOUT"],
    choose [(builtinAhead d, .call .dataType)]
      (.both namedType (choose [(peek (sym "["), arraySuffix d)] (.call .dataType))),
    opt (orElse (word "DEFAULT") (sym "=")) expr]

/-- The parameters of a function in parentheses. -/
def functionParameters (d : Dialect) : G :=
  .both (lit "(") (choose [(sym ")", .done)] (.both (commaSep (functionParameter d)) (lit ")")))

/-- The name of a function, perhaps with its parameters. -/
def functionName (d : Dialect) : G :=
  .both objectName (opt (peek (sym "(")) (functionParameters d))

/-- A function of Postgres behind `CREATE FUNCTION`; each of its traits at most once. -/
def createFunction (d : Dialect) : G :=
  let isDollarText : Token → Bool := fun t =>
    match t with
    | .text (.dollar _) _ => true
    | _ => false
  let body : G := choose [(token isDollarText, .done)] (literalText d)
  let traits : G :=
    .eachOnce
      [[(word "AS", body), (word "RETURN", expr)],
       [(word "LANGUAGE", ident)],
       [(anyOf ["IMMUTABLE", "STABLE", "VOLATILE"], .done)],
       [(words ["CALLED", "ON", "NULL", "INPUT"], .done),
        (words ["RETURNS", "NULL", "ON", "NULL", "INPUT"], .done), (word "STRICT", .done)],
       [(word "PARALLEL",
         choose [(anyOf ["UNSAFE", "RESTRICTED", "SAFE"], .done)]
           (.wrong "one of UNSAFE | RESTRICTED | SAFE"))]]
  seq [objectName, functionParameters d, opt (word "RETURNS") (.call .dataType), traits]

/-- A trigger of Postgres behind `CREATE TRIGGER`. Any token is taken in the place of the table
that it refers to. -/
def createTrigger (d : Dialect) : G :=
  let event : G :=
    choose [(word "UPDATE", opt (word "OF") (commaSep ident))]
      (oneOf ["INSERT", "UPDATE", "DELETE", "TRUNCATE"])
  let tables : G :=
    .both
      (.loop (andThen (anyOf ["OLD", "NEW"]) (word "TABLE")) (.both (optKw "AS") objectName))
      (optOneOf ["OLD", "NEW"])
  seq [objectName,
    choose [(word "INSTEAD", kw "OF")] (oneOf ["BEFORE", "AFTER", "INSTEAD"]),
    event, .loop (word "OR") event, kw "ON", objectName,
    opt (andThen (word "FROM") nameOrToken) .done,
    characteristics, opt (word "REFERENCING") tables, kw "FOR", optKw "EACH",
    oneOf ["ROW", "STATEMENT"], opt (word "WHEN") expr, kw "EXECUTE",
    oneOf ["FUNCTION", "PROCEDURE"], functionName d]

/-- A store of credentials behind `CREATE SECRET`. Any token is taken in the place of a name. -/
def createSecret : G :=
  let store : G := opt (word "IN") optToken
  seq [ifNotExists,
    choose [(peek (sym "("), .done), (andThen (word "IN") (token Token.isNamePart), .done)]
      (seq [optKw "IN", optToken, store]),
    lit "(", kw "TYPE", ident, opt (sym ",") (commaSep (.both ident ident)), lit ")"]

/-- An extension behind `CREATE EXTENSION`. -/
def createExtension : G :=
  seq [ifNotExists, ident,
    opt (word "WITH")
      (seq [opt (word "SCHEMA") ident, opt (word "VERSION") ident, optKw "CASCADE"])]

/-- An index behind `CREATE INDEX`. -/
def createIndex (d : Dialect) : G :=
  let named : G := .both objectName (kw "ON")
  seq [optKw "CONCURRENTLY",
    choose [(words ["IF", "NOT", "EXISTS"], named), (word "ON", .done)] named,
    objectName, opt (word "USING") ident, parens orderList,
    opt (word "INCLUDE") (parens (commaSep ident)),
    opt (word "NULLS") (.both (optKw "NOT") (kw "DISTINCT")),
    opt (when (d == .postgres) (word "WITH")) (parens exprs), opt (word "WHERE") expr]

/-- A schema behind `CREATE SCHEMA`: a name, the name of its owner, or both. -/
def createSchema : G :=
  let owned : G := opt (word "AUTHORIZATION") ident
  .node .schema
    (.both ifNotExists
      (choose [(word "AUTHORIZATION", .node .name ident)] (.both (.node .name objectName) owned)))

/-- A database behind `CREATE DATABASE`. -/
def createDatabase (d : Dialect) : G :=
  seq [ifNotExists, objectName, .loop (anyOf ["LOCATION", "MANAGEDLOCATION"]) (literalText d)]

/-- A password, or none. -/
def password (d : Dialect) : G :=
  choose [(word "NULL", .done)] (value d)

/-- Roles behind `CREATE ROLE`. -/
def createRole (d : Dialect) : G :=
  let names : G := commaSep ident
  let options : List (List (Ahead × G)) :=
    match d with
    | .tsql => [[(word "AUTHORIZATION", objectName)]]
    | .postgres =>
      [[(anyOf ["LOGIN", "NOLOGIN"], .done)], [(anyOf ["INHERIT", "NOINHERIT"], .done)],
       [(anyOf ["BYPASSRLS", "NOBYPASSRLS"], .done)], [(word "PASSWORD", password d)],
       [(anyOf ["CREATEDB", "NOCREATEDB"], .done)],
       [(anyOf ["CREATEROLE", "NOCREATEROLE"], .done)],
       [(anyOf ["SUPERUSER", "NOSUPERUSER"], .done)],
       [(anyOf ["REPLICATION", "NOREPLICATION"], .done)],
       [(word "CONNECTION", .both (kw "LIMIT") numberValue)],
       [(word "VALID", .both (kw "UNTIL") (value d))],
       [(words ["IN", "ROLE"], names)], [(words ["IN", "GROUP"], names)],
       [(word "ROLE", names)], [(word "USER", names)], [(word "ADMIN", names)]]
  seq [ifNotExists, commaSep objectName, optKw "WITH", .eachOnce options]

/-- A sequence behind `CREATE SEQUENCE`. -/
def createSequence : G :=
  seq [ifNotExists, objectName, opt (word "AS") (.call .dataType), sequenceOptions,
    opt (words ["OWNED", "BY"]) (choose [(word "NONE", .done)] objectName)]

/-- A composite type behind `CREATE TYPE`; a closing comma is allowed. -/
def createType : G :=
  let field : G :=
    seq [ident, .call .dataType, opt (word "COLLATE") objectName]
  let last : G :=
    .both (opt (sym ",") .done) (.take (· == .symbol ")") "',' or ')' after attribute definition")
  let another : Ahead := fun ts =>
    match ts with
    | ⟨.symbol ",", _⟩ :: ⟨.symbol ")", _⟩ :: _ => none
    | _ => sym "," ts
  seq [objectName, kw "AS",
    choose
      [(andThen (sym "(") (sym ")"), .done),
       (sym "(", seq [field, .loop another field, last])]
      .done]

/-- An enumerated type of Postgres behind `CREATE TYPE name AS ENUM`. -/
def enumLabels : G :=
  .both
    (choose [(sym "(", .done)] (.wrong "'(' after CREATE TYPE AS ENUM"))
    (choose [(sym ")", .done)]
      (.both (commaSep ident)
        (choose [(sym ")", .done)] (.wrong "')' after CREATE TYPE AS ENUM"))))

/-- A procedure behind `CREATE PROCEDURE`, with its statements between `BEGIN` and `END`. -/
def createProcedure : G :=
  let parameter : G := opt (peek (token Token.isWord)) (.both ident (.call .dataType))
  let parameters : G :=
    choose
      [(andThen (sym "(") (sym ")"), .done),
       (sym "(", seq [parameter, .loop (sym ",") parameter,
         .take (· == .symbol ")") "',' or ')' after parameter definition"])]
      .done
  seq [objectName, parameters, kws ["AS", "BEGIN"], .call .script, kw "END"]

/-- A virtual table behind `CREATE VIRTUAL`. -/
def createVirtualTable : G :=
  seq [kw "TABLE", ifNotExists, objectName, kw "USING", ident,
    choose [(andThen (sym "(") (sym ")"), .done)] optColumnList]

/-- What is created is none of the known objects. -/
def noObject : G :=
  .wrong "an object type after CREATE"

/-- A created object, behind `CREATE`. -/
def create (d : Dialect) : G :=
  let pg := d == .postgres
  let others : G :=
    choose
      [(word "EXTENSION", createExtension),
       (word "INDEX", createIndex d),
       (words ["UNIQUE", "INDEX"], createIndex d),
       (word "VIRTUAL", createVirtualTable),
       (word "SCHEMA", createSchema),
       (word "DATABASE", createDatabase d),
       (word "ROLE", createRole d),
       (word "SEQUENCE", createSequence),
       (word "TYPE", createType),
       (word "PROCEDURE", createProcedure)]
      noObject
  let objects (other : G) : G :=
    seq [opt (words ["OR", "ALTER"]) .done, optKw "LOCAL", optKw "GLOBAL", optKw "TRANSIENT",
      optOneOf ["TEMP", "TEMPORARY"],
      choose
        [(word "TABLE", createTable d),
         (word "MATERIALIZED", createView d),
         (peek (word "VIEW"), createView d),
         (word "POLICY", createPolicy),
         (word "EXTERNAL", createExternalTable d),
         (when pg (word "FUNCTION"), createFunction d),
         (when pg (andThen (maybe (word "CONSTRAINT")) (word "TRIGGER")), createTrigger d),
         (peek (anyOf ["FUNCTION", "TRIGGER", "MACRO"]), noObject),
         (andThen (word "CONSTRAINT") (peek (word "TRIGGER")), noObject),
         (word "SECRET", createSecret)]
        other]
  let anyObject : G :=
    choose
      [(words ["OR", "REPLACE"],
        objects (.wrong
          "[EXTERNAL] TABLE or [MATERIALIZED] VIEW or FUNCTION after CREATE OR REPLACE"))]
      (objects others)
  let enum : G := seq [kw "TYPE", objectName, kws ["AS", "ENUM"]]
  match d with
  | .postgres => .attempt enum enumLabels anyObject
  | .tsql => anyObject

/-! ## Dropped objects -/

/-- The optional words for what depends on a dropped object. -/
def optBehaviour : G :=
  optOneOf ["CASCADE", "RESTRICT"]

/-- A dropped object, behind `DROP`. -/
def drop (d : Dialect) : G :=
  let names : G := .both ifExists (commaSep objectName)
  let functions : G := seq [ifExists, commaSep (functionName d), optBehaviour]
  let object : G :=
    seq [names,
      choose
        [(peek (words ["CASCADE", "RESTRICT"]),
          .broken "Cannot specify both CASCADE and RESTRICT in DROP")] optBehaviour,
      optKw "PURGE"]
  let role : G :=
    .both names
      (opt (peek (anyOf ["CASCADE", "RESTRICT", "PURGE"]))
        (.broken "Cannot specify CASCADE, RESTRICT, or PURGE in DROP ROLE"))
  let onTable : G := seq [kw "ON", objectName, optBehaviour]
  choose
    [(anyOf ["TABLE", "VIEW", "INDEX"], object), (word "ROLE", role),
     (anyOf ["SCHEMA", "DATABASE", "SEQUENCE", "STAGE", "TYPE"], object),
     (anyOf ["FUNCTION", "PROCEDURE"], functions),
     (word "POLICY", seq [ifExists, ident, onTable]),
     (word "SECRET", seq [ifExists, ident, opt (word "FROM") optToken]),
     (when (d == .postgres) (word "TRIGGER"), seq [ifExists, objectName, onTable]),
     (peek (word "TRIGGER"), .wrong "an object type after DROP")]
    (.wrong ("TABLE, VIEW, INDEX, ROLE, SCHEMA, DATABASE, FUNCTION, PROCEDURE, STAGE, TRIGGER, "
      ++ "SECRET, SEQUENCE, or TYPE after DROP"))

/-! ## Changed objects -/

/-- What is added to a table, behind `ADD`. -/
def addition (d : Dialect) : G :=
  let column : G :=
    seq [optKw "COLUMN", opt (when (d == .postgres) (words ["IF", "NOT", "EXISTS"])) .done,
      .call .columnDef]
  choose
    [(constraintAhead, .call .tableConstraint)]
    (.both ifNotExists
      (choose
        [(word "PARTITION", .both (parens exprs) (.loop (word "PARTITION") (parens exprs)))]
        column))

/-- What is dropped from a table, behind `DROP`. -/
def removal : G :=
  choose
    [(words ["IF", "EXISTS", "PARTITION"], parens exprs), (word "PARTITION", parens exprs),
     (word "CONSTRAINT", seq [ifExists, ident, optKw "CASCADE"])]
    (seq [opt (words ["PRIMARY", "KEY"]) .done, optKw "PROJECTION", optKw "COLUMN", ifExists, ident,
      optKw "CASCADE"])

/-- A change of a column, behind `ALTER`. -/
def columnChange (d : Dialect) : G :=
  let retype : G :=
    .both (.call .dataType) (opt (when (d == .postgres) (word "USING")) expr)
  let identity : G :=
    seq [choose [(word "ALWAYS", .done), (words ["BY", "DEFAULT"], .done)] .done,
      kws ["AS", "IDENTITY"], opt (sym "(") (.both sequenceOptions (lit ")"))]
  let refusal : String :=
    match d with
    | .postgres =>
      "SET/DROP NOT NULL, SET DEFAULT, SET DATA TYPE, or ADD GENERATED after ALTER COLUMN"
    | .tsql => "SET/DROP NOT NULL, SET DEFAULT, or SET DATA TYPE after ALTER COLUMN"
  seq [optKw "COLUMN", ident,
    choose
      [(words ["SET", "NOT", "NULL"], .done), (words ["DROP", "NOT", "NULL"], .done),
       (words ["SET", "DEFAULT"], expr), (words ["DROP", "DEFAULT"], .done),
       (words ["SET", "DATA", "TYPE"], retype),
       (when (d == .postgres) (word "TYPE"), retype),
       (words ["ADD", "GENERATED"], identity)]
      (.wrong refusal)]

/-- A rule or a trigger that is switched. -/
def switchArms : List (Ahead × G) :=
  [(words ["ROW", "LEVEL", "SECURITY"], .done), (word "RULE", ident), (word "TRIGGER", ident)]

/-- One change of a table. The words of a change that the dialects do not know are passed over,
and another change has to follow them. -/
def tableChange (d : Dialect) : G :=
  let pg := d == .postgres
  let rename : G :=
    choose
      [(when pg (word "CONSTRAINT"), seq [ident, kw "TO", ident]), (word "TO", objectName)]
      (seq [optKw "COLUMN", ident, kw "TO", ident])
  let enable : G :=
    choose
      ([(words ["ALWAYS", "RULE"], ident), (words ["ALWAYS", "TRIGGER"], ident),
        (words ["REPLICA", "RULE"], ident), (words ["REPLICA", "TRIGGER"], ident)] ++ switchArms)
      (.wrong "ALWAYS, REPLICA, ROW LEVEL SECURITY, RULE, or TRIGGER after ENABLE")
  let later : G :=
    choose
      [(word "DROP", removal),
       (word "PARTITION",
         seq [parens exprs, kws ["RENAME", "TO", "PARTITION"], parens exprs]),
       (word "CHANGE",
         seq [optKw "COLUMN", ident, ident, .call .dataType, .call .plainOptions]),
       (word "MODIFY", seq [optKw "COLUMN", ident, .call .dataType, .call .plainOptions]),
       (word "ALTER", columnChange d),
       (word "SWAP", .both (kw "WITH") objectName),
       (when pg (words ["OWNER", "TO"]), owner),
       (words ["SET", "TBLPROPERTIES"], optionList d)]
      (.wrong "ADD, RENAME, PARTITION, SWAP, DROP, or SET TBLPROPERTIES after ALTER TABLE")
  choose
    [(word "ADD", addition d),
     (word "RENAME", rename),
     (word "DISABLE",
       choose switchArms (.wrong "ROW LEVEL SECURITY, RULE, or TRIGGER after DISABLE")),
     (word "ENABLE", enable)]
    (seq [opt (words ["CLEAR", "PROJECTION"]) .done, opt (words ["MATERIALIZE", "PROJECTION"]) .done,
      later])

/-- Changes of a table behind `ALTER TABLE`. -/
def alterTable (d : Dialect) : G :=
  seq [ifExists, optKw "ONLY", objectName, optOnCluster, commaSep (tableChange d),
    choose [(word "LOCATION", ident), (words ["SET", "LOCATION"], ident)] .done]

/-- Changes of a role behind `ALTER ROLE`, in T-SQL. -/
def alterMembers : G :=
  let rename : G := .both (choose [(sym "=", .done)] (.wrong "= after WITH NAME ")) ident
  .both ident
    (choose
      [(words ["ADD", "MEMBER"], ident), (words ["DROP", "MEMBER"], ident),
       (words ["WITH", "NAME"], rename)]
      (.wrong "'ADD' or 'DROP' or 'WITH NAME'"))

/-- A trait of a role. -/
def roleTrait (d : Dialect) : G :=
  let traits : List String :=
    ["BYPASSRLS", "NOBYPASSRLS", "CREATEDB", "NOCREATEDB", "CREATEROLE", "NOCREATEROLE", "INHERIT",
     "NOINHERIT", "LOGIN", "NOLOGIN", "REPLICATION", "NOREPLICATION", "SUPERUSER", "NOSUPERUSER"]
  choose
    [(anyOf traits, .done),
     (word "CONNECTION", .both (kw "LIMIT") numberValue), (word "PASSWORD", password d),
     (word "VALID", .both (kw "UNTIL") (value d))]
    (.wrong "option")

/-- Changes of a role behind `ALTER ROLE`, in Postgres. -/
def alterRole (d : Dialect) : G :=
  let setting : G :=
    seq [objectName,
      choose
        [(words ["FROM", "CURRENT"], .done),
         (orElse (sym "=") (word "TO"), choose [(word "DEFAULT", .done)] expr)]
        (.wrong "'TO' or '=' or 'FROM CURRENT'")]
  seq [ident, opt (andThen (words ["IN", "DATABASE"]) nameOrToken) .done,
    choose
      [(word "RENAME", .both (choose [(word "TO", .done)] (.wrong "TO after RENAME")) ident),
       (word "SET", setting), (word "RESET", choose [(word "ALL", .done)] objectName)]
      (seq [optKw "WITH", roleTrait d, .many (roleTrait d)])]

/-- Changes of a policy behind `ALTER POLICY`. -/
def alterPolicy : G :=
  seq [ident, kw "ON", objectName,
    choose [(word "RENAME", .both (kw "TO") ident)]
      (seq [opt (word "TO") (commaSep owner), opt (word "USING") parenExpr,
        opt (words ["WITH", "CHECK"]) parenExpr])]

/-- A changed object, behind `ALTER`. -/
def alter (d : Dialect) : G :=
  choose
    [(word "VIEW",
      seq [objectName, optColumnList, optOptions d "WITH", kw "AS", .call .query]),
     (word "TABLE", alterTable d),
     (word "INDEX",
       seq [objectName, choose [(word "RENAME", .done)] (.wrong "RENAME after ALTER INDEX"),
         choose [(word "TO", .done)] (.wrong "TO after RENAME"), objectName]),
     (word "ROLE",
       match d with
       | .postgres => alterRole d
       | .tsql => alterMembers),
     (word "POLICY", alterPolicy)]
    (oneOf ["VIEW", "TABLE", "INDEX", "ROLE", "POLICY"])

end Grammar
end Sql
end SchemaMap
