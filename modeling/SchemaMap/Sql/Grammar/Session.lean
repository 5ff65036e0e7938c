/-
# Grammar of sessions

Statements about the session: settings, transactions, cursors, prepared statements, rights
and the like.

Key definitions: `Sql.Grammar.setVariable`, `Sql.Grammar.grant`, `Sql.Grammar.declare`,
`Sql.Grammar.execute`, `Sql.Grammar.explain`.
-/
import SchemaMap.Sql.Grammar.Change

namespace SchemaMap
namespace Sql
namespace Grammar

open Rule Ahead

/-! ## Transactions -/

/-- The modes of a transaction, perhaps with commas between. -/
def transactionModes : G :=
  let level : G :=
    choose
      [(words ["READ", "UNCOMMITTED"], .done), (words ["READ", "COMMITTED"], .done),
       (words ["REPEATABLE", "READ"], .done), (word "SERIALIZABLE", .done)]
      (.wrong "isolation level")
  let modeAhead : Ahead :=
    orElse (words ["ISOLATION", "LEVEL"]) (andThen (word "READ") (anyOf ["ONLY", "WRITE"]))
  let mode : G :=
    choose
      [(words ["ISOLATION", "LEVEL"], level), (words ["READ", "ONLY"], .done)]
      (kws ["READ", "WRITE"])
  let comma : G :=
    opt (sym ",") (choose [(peek modeAhead, .done)] (.wrong "transaction mode"))
  .loop (peek modeAhead) (.both mode comma)

/-- The end of a transaction, behind its keyword. -/
def chain : G :=
  .both (optOneOf ["TRANSACTION", "WORK"])
    (opt (word "AND") (.both (optKw "NO") (kw "CHAIN")))

/-- A transaction that is taken back, behind `ROLLBACK`. -/
def rollback : G :=
  .both chain (opt (word "TO") (.both (optKw "SAVEPOINT") ident))

/-! ## Settings -/

/-- A variable that is set, behind `SET`. -/
def setVariable (d : Dialect) : G :=
  let given : G := commaSep (choose [(queryAhead, .call .query)] expr)
  let assigned (other : G) : G :=
    choose [(sym "=", given), (word "TO", given)] other
  let alone : Ahead := fun ts =>
    match ts with
    | ⟨.symbol ".", _⟩ :: _ => none
    | _ => some 0
  let isWritten (w : String) (t : Token) : Bool :=
    match t with
    | .word text none _ => text == w
    | _ => false
  let named (session : Bool) : G :=
    choose
      [(words ["TIME", "ZONE"], assigned expr),
       (andThen (word "TIMEZONE") alone, assigned expr),
       (andThen (token (isWritten "CHARACTERISTICS")) alone,
         assigned (.both (kws ["AS", "TRANSACTION"]) transactionModes)),
       (when (!session) (andThen (token (isWritten "TRANSACTION")) alone),
         assigned (choose [(word "SNAPSHOT", value d)] transactionModes))]
      (.both objectName (assigned (.wrong "equals sign or TO")))
  let orRole (session : Bool) : G :=
    .attempt (.both (kw "ROLE") ident) .done (named session)
  choose
    [(anyOf ["SESSION", "LOCAL"], orRole true),
     (word "HIVEVAR", .both (lit ":") (named true))]
    (orRole false)

/-- What is shown, behind `SHOW`: objects of a kind, or a setting, whose name is all that follows
up to a sign of equality. -/
def showSetting (d : Dialect) : G :=
  let filter : G :=
    choose
      [(anyOf ["LIKE", "ILIKE"], literalText d), (word "WHERE", expr)]
      (opt (token (isLiteralText d)) .done)
  let inDatabase : G := opt (anyOf ["FROM", "IN"]) ident
  let columns : G :=
    seq [oneOf ["FROM", "IN"], objectName, inDatabase, filter]
  let refused : G :=
    .refused "EXTENDED/FULL are not supported with this type of SHOW query"
  let objects : List (Ahead × G) :=
    [(anyOf ["COLUMNS", "FIELDS"], columns), (word "TABLES", .both inDatabase filter),
     (words ["MATERIALIZED", "VIEWS"], .both inDatabase filter),
     (word "VIEWS", .both inDatabase filter), (word "FUNCTIONS", filter)]
  let created : G :=
    .both (oneOf ["TABLE", "TRIGGER", "FUNCTION", "PROCEDURE", "EVENT", "VIEW"]) objectName
  let named : G := .loop (token fun t => t != .symbol "=") .done
  let others : G :=
    choose [(word "CREATE", created), (word "COLLATION", filter)]
      (seq [optKw "VARIABLES", optKw "STATUS",
        choose [(anyOf ["DATABASES", "SCHEMAS"], filter)] named])
  let session (other : G) : G :=
    seq [optKw "SESSION", optKw "GLOBAL", choose objects other]
  choose
    [(andThen (maybe (word "EXTENDED")) (word "FULL"), session refused),
     (word "EXTENDED", session refused)]
    (session others)

/-- A setting of the database itself, behind `PRAGMA`. -/
def pragma (d : Dialect) : G :=
  let isSetting (t : Token) : Bool :=
    isText .plain t || isNumber t || isParameter t ||
      (match t with
      | .word _ (some _) _ => isConstant d t
      | _ => false)
  let setting : G :=
    choose [(anySym [":", "@"], markedParameter)]
      (.take isSetting "number or string or ? placeholder")
  .both objectName (choose [(sym "(", .both setting (lit ")")), (sym "=", setting)] .done)

/-! ## Rights -/

/-- The rights and the objects of a grant. -/
def rights : G :=
  let right : G :=
    choose
      [(anyOf ["INSERT", "REFERENCES", "SELECT", "UPDATE"], optColumnList),
       (anyOf ["CONNECT", "CREATE", "DELETE", "EXECUTE", "TEMPORARY", "TRIGGER", "TRUNCATE",
         "USAGE"], .done)]
      (.wrong "a privilege keyword")
  let objects : G :=
    .both
      (choose
        [(words ["ALL", "TABLES", "IN", "SCHEMA"], .done),
         (words ["ALL", "SEQUENCES", "IN", "SCHEMA"], .done)]
        (optOneOf ["SEQUENCE", "SCHEMA", "TABLE"]))
      (commaSep objectName)
  seq [choose [(word "ALL", optKw "PRIVILEGES")] (commaSep right), kw "ON", objects]

/-- The role in whose name rights are given. -/
def optGrantedBy : G :=
  opt (words ["GRANTED", "BY"]) ident

/-- Rights that are given, behind `GRANT`. -/
def grant : G :=
  seq [rights, kw "TO", commaSep ident, opt (words ["WITH", "GRANT", "OPTION"]) .done,
    optGrantedBy]

/-- Rights that are taken back, behind `REVOKE`. -/
def revoke : G :=
  seq [rights, kw "FROM", commaSep ident, optGrantedBy,
    choose
      [(peek (words ["CASCADE", "RESTRICT"]),
        .broken "Cannot specify both CASCADE and RESTRICT in REVOKE")]
      optBehaviour]

/-! ## Cursors and variables -/

/-- A declared variable or cursor, behind `DECLARE`. The list of variables takes the token
that ends it. -/
def declare (d : Dialect) : G :=
  let isVariable : Token → Bool := fun t =>
    match t with
    | .word w .. => w.toList.head? == some '@'
    | .text .plain s => s.toList.head? == some '@'
    | _ => false
  let declared : G :=
    seq [choose [(token isVariable, .done)]
        (.both ident (.refused "Invalid MsSql variable declaration.")),
      choose [(word "CURSOR", .done), (word "AS", .call .dataType)] (.call .dataType),
      opt (sym "=") expr]
  match d with
  | .tsql => seq [declared, .loop (sym ",") declared, optToken]
  | .postgres =>
    seq [ident, optKw "BINARY", optOneOf ["INSENSITIVE", "ASENSITIVE"],
      choose [(word "SCROLL", .done), (words ["NO", "SCROLL"], .done)] .done, kw "CURSOR",
      opt (anyOf ["WITH", "WITHOUT"]) (kw "HOLD"), kw "FOR", .call .query]

/-- Rows that are fetched from a cursor, behind `FETCH`. -/
def fetch : G :=
  let direction : G :=
    choose
      [(anyOf ["NEXT", "PRIOR", "FIRST", "LAST"], .done),
       (anyOf ["ABSOLUTE", "RELATIVE"], numberValue),
       (anyOf ["FORWARD", "BACKWARD"], choose [(word "ALL", .done)] numberValue),
       (word "ALL", .done)]
      numberValue
  seq [direction, oneOf ["FROM", "IN"], ident, opt (word "INTO") objectName]

/-! ## Prepared statements and calls -/

/-- A prepared statement, behind `PREPARE`. -/
def prepare : G :=
  seq [ident, opt (sym "(") (.both (commaSep (.call .dataType)) (lit ")")), kw "AS",
    .call .statement]

/-- A procedure or a prepared statement that is run, behind `EXECUTE`. -/
def execute : G :=
  let none : Ahead := orElse atEnd (peek (orElse (word "USING") (sym ";")))
  seq [objectName,
    choose
      [(andThen (sym "(") (sym ")"), .done), (sym "(", .both exprs (lit ")")), (none, .done)]
      exprs,
    opt (word "USING") exprs]

/-- A procedure that is called, behind `CALL`. -/
def call : G :=
  .both objectName (opt (peek (sym "(")) (.call .functionCall))

/-- A statement that is explained, or a table that is described. -/
def explain (options : Bool) (d : Dialect) : G :=
  let option : G :=
    .both ident (opt (absent (anySym [",", ")"])) expr)
  let format : G :=
    opt (word "FORMAT") (choose [(anyOf ["TEXT", "GRAPHVIZ", "JSON"], .done)] (.wrong "fileformat"))
  let described : G :=
    .both (optOneOf ["EXTENDED", "FORMATTED"]) objectName
  let explained : G :=
    choose
      [(peek (anyOf ["EXPLAIN", "DESCRIBE", "DESC"]),
        .attempt (.call .statement) (.refused "Explain must be root of the plan") described)]
      (.attempt (.call .statement) .done described)
  .both
    (choose
      [(when (options && d == .postgres) (sym "("), .both (commaSep option) (lit ")")),
       (words ["QUERY", "PLAN"], .done)]
      (seq [optKw "ANALYZE", optKw "VERBOSE", format]))
    explained

/-! ## Tables kept at hand -/

/-- The statistics of a table, behind `ANALYZE`. -/
def analyze : G :=
  let part : G :=
    choose
      [(word "PARTITION", parens exprs), (word "NOSCAN", .done),
       (word "FOR", .both (kw "COLUMNS") (.attempt (commaSep ident) .done .done)),
       (word "CACHE", kw "METADATA")]
      (kws ["COMPUTE", "STATISTICS"])
  seq [kw "TABLE", objectName,
    .loop (peek (anyOf ["PARTITION", "FOR", "CACHE", "NOSCAN", "COMPUTE"])) part]

/-- A table that is kept at hand, behind `CACHE`. -/
def cache (d : Dialect) : G :=
  let rows : G :=
    choose [(word "AS", .call .query), (peek (token Token.isWord), .call .query)]
      (.wrong "a QUERY statement")
  let kept : G :=
    .both objectName
      (choose [(atEnd, .done)] (.both (optOptions d "OPTIONS") (choose [(atEnd, .done)] rows)))
  choose [(word "TABLE", kept)]
    (.both objectName (choose [(word "TABLE", kept)] (.wrong "a \x60TABLE\x60 keyword")))

/-- A repaired table, behind `MSCK`. -/
def repair : G :=
  seq [optKw "REPAIR", kw "TABLE", objectName,
    .attempt (.both (optOneOf ["ADD", "DROP", "SYNC"]) (kw "PARTITIONS")) .done .done]

/-! ## The statements -/

/-- A remark on an object, behind `COMMENT`. -/
def comment (d : Dialect) : G :=
  seq [ifExists, kw "ON",
    choose [(anyOf ["COLUMN", "TABLE", "EXTENSION"], objectName)] (.wrong "comment object_type"),
    kw "IS", choose [(word "NULL", .done)] (literalText d)]

/-- The statements of a session, each behind its keyword. -/
def sessionArms (d : Dialect) : List (Ahead × G) :=
  let pg := d == .postgres
  let uncached : G :=
    choose [(word "TABLE", .both ifExists objectName)] (.wrong "a \x60TABLE\x60 keyword")
  [(word "KILL", .both (optOneOf ["CONNECTION", "QUERY"]) uint),
   (word "FLUSH", .broken "Unsupported statement FLUSH"),
   (anyOf ["DESC", "DESCRIBE"], explain false d),
   (word "EXPLAIN", explain true d),
   (word "ANALYZE", analyze),
   (word "ATTACH", seq [optKw "DATABASE", expr, kw "AS", ident]),
   (word "MSCK", repair),
   (word "CACHE", cache d),
   (word "UNCACHE", uncached),
   (word "DISCARD",
     choose [(anyOf ["ALL", "PLANS", "SEQUENCES", "TEMP", "TEMPORARY"], .done)]
       (.wrong "ALL, PLANS, SEQUENCES, TEMP or TEMPORARY after DISCARD")),
   (word "DECLARE", declare d),
   (word "FETCH", fetch),
   (word "REPLACE", .broken "Unsupported statement REPLACE"),
   (word "CALL", call),
   (word "CLOSE", choose [(word "ALL", .done)] ident),
   (word "SET", setVariable d),
   (word "SHOW", showSetting d),
   (word "USE", objectName),
   (word "GRANT", grant),
   (word "REVOKE", revoke),
   (word "START", .both (kw "TRANSACTION") transactionModes),
   (word "BEGIN", .both (optOneOf ["TRANSACTION", "WORK"]) transactionModes),
   (anyOf ["END", "COMMIT"], chain),
   (word "SAVEPOINT", ident),
   (word "RELEASE", .both (optKw "SAVEPOINT") ident),
   (word "ROLLBACK", rollback),
   (word "ASSERT", .both expr (opt (word "AS") expr)),
   (word "DEALLOCATE", .both (optKw "PREPARE") ident),
   (anyOf ["EXECUTE", "EXEC"], execute),
   (word "PREPARE", prepare),
   (when pg (word "LISTEN"), ident),
   (when pg (word "NOTIFY"), .both ident (opt (sym ",") (literalText d))),
   (word "PRAGMA", pragma d),
   (word "UNLOAD",
     seq [parens (.call .query), kw "TO", ident, optOptions d "WITH"]),
   (when pg (word "COMMENT"), comment d)]

end Grammar
end Sql
end SchemaMap
