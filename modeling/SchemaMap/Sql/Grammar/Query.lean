/-
# Grammar of queries

A query is a body with the tables it names in front and its order and limits behind. The
body is a selection, a list of rows, or several of these put together.

Key definitions: `Sql.Grammar.query`, `Sql.Grammar.queryBody`, `Sql.Grammar.select`,
`Sql.Grammar.selectItem`, `Sql.Grammar.tableAndJoins`, `Sql.Grammar.tableFactor`.
-/
import SchemaMap.Sql.Grammar.Expression

namespace SchemaMap
namespace Sql
namespace Grammar

open Rule Ahead

/-! ## Aliases -/

/-- The words that are no alias of a column. -/
def columnAliasStops : List String :=
  ["WITH", "EXPLAIN", "ANALYZE", "SELECT", "WHERE", "GROUP", "SORT", "HAVING", "ORDER", "TOP",
   "LATERAL", "VIEW", "LIMIT", "OFFSET", "FETCH", "UNION", "EXCEPT", "INTERSECT", "CLUSTER",
   "DISTRIBUTE", "RETURNING", "FROM", "INTO", "END"]

/-- The words that are no alias of a table. -/
def tableAliasStops : List String :=
  ["WITH", "EXPLAIN", "ANALYZE", "SELECT", "WHERE", "GROUP", "SORT", "HAVING", "ORDER", "PIVOT",
   "UNPIVOT", "TOP", "LATERAL", "VIEW", "LIMIT", "OFFSET", "FETCH", "UNION", "EXCEPT",
   "INTERSECT", "ON", "JOIN", "INNER", "CROSS", "FULL", "LEFT", "RIGHT", "NATURAL", "USING",
   "CLUSTER", "DISTRIBUTE", "GLOBAL", "OUTER", "SET", "QUALIFY", "WINDOW", "END", "FOR",
   "PARTITION", "PREWHERE", "SETTINGS", "FORMAT", "START", "CONNECT", "MATCH_RECOGNIZE"]

/-- Whether a token is an alias without `AS`. -/
def isAlias (stops : List String) (t : Token) : Bool :=
  isText .plain t || (t.isWord && !stops.any fun k => t.isKeyword k)

/-- An optional alias. -/
def optAlias (stops : List String) : G :=
  choose
    [(word "AS", .take Token.isNamePart "an identifier after AS"), (token (isAlias stops), .done)]
    .done

/-- An optional alias of a table, with names for its columns. -/
def optTableAlias : G :=
  choose
    [(word "AS", .both (.take Token.isNamePart "an identifier after AS") optColumnList),
     (token (isAlias tableAliasStops), optColumnList)]
    .done

/-! ## Tables -/

/-- The join of two tables: on a condition, on columns, or on nothing. -/
def joinConstraint : G :=
  choose [(word "ON", expr), (word "USING", columnList)] .done

/-- A join comes next, perhaps behind the word `GLOBAL`, which is taken. -/
def joinAhead : Ahead :=
  andThen (maybe (word "GLOBAL"))
    (peek (anyOf
      ["CROSS", "OUTER", "ASOF", "NATURAL", "INNER", "JOIN", "LEFT", "RIGHT", "FULL"]))

/-- One join. -/
def join : G :=
  let table : G := .call .tableFactor
  let side (k : String) : Ahead × G :=
    (word k,
      choose [(anyOf ["OUTER", "SEMI", "ANTI"], kw "JOIN"), (word "JOIN", .done)]
        (.refused ("expected OUTER, SEMI, ANTI or JOIN after " ++ k)))
  let kind (other : G) : G :=
    choose
      [(word "INNER", kw "JOIN"), (word "JOIN", .done), side "LEFT", side "RIGHT",
       (word "FULL", .both (optKw "OUTER") (kw "JOIN")),
       (peek (word "OUTER"), .wrong "LEFT, RIGHT, or FULL")]
      other
  choose
    [(word "CROSS",
      .both (choose [(anyOf ["JOIN", "APPLY"], .done)] (.wrong "JOIN or APPLY after CROSS")) table),
     (word "OUTER", .both (kw "APPLY") table),
     (word "ASOF",
       seq [kw "JOIN", table, kw "MATCH_CONDITION", parenExpr, joinConstraint]),
     (word "NATURAL", .both (kind (.wrong "a join type after NATURAL")) table)]
    (seq [kind (.wrong "a join"), table, joinConstraint])

/-- The joins behind a table. A last word `GLOBAL` without a join is passed over. -/
def joins : G :=
  .both (.loop joinAhead join) (optKw "GLOBAL")

/-- A table with the tables joined to it. -/
def tableAndJoins : G :=
  .both (.call .tableFactor) joins

/-- A query in place of a table, behind its opening parenthesis. -/
def derivedTable : G :=
  seq [.call .query, lit ")", optTableAlias]

/-- Rows turned into columns, and columns into rows. -/
def pivots : G :=
  let aggregate : G :=
    seq [.take Token.isWord "a function identifier", .call .functionCall, opt (word "AS") ident]
  let source : G :=
    choose [(word "ANY", optOrderBy), (queryAhead, .call .query)]
      (commaSep (.both expr (opt (word "AS") ident)))
  let pivot : G :=
    seq [lit "(", commaSep aggregate, kw "FOR", objectName, kw "IN", parens source,
      opt (words ["DEFAULT", "ON", "NULL"]) parenExpr, lit ")", optTableAlias]
  let unpivot : G :=
    seq [lit "(", ident, kw "FOR", ident, kw "IN", columnList, lit ")", optTableAlias]
  .loop (peek (anyOf ["PIVOT", "UNPIVOT"]))
    (choose [(word "PIVOT", pivot)] (.both (kw "UNPIVOT") unpivot))

/-- Tables joined between parentheses, behind the opening one and up to the closing one; a
single table may not stand there alone. -/
def nestedJoin : G :=
  let joined : G :=
    choose [(peek joinAhead, joins)] (.both (optKw "GLOBAL") (.wrong "joined table"))
  choose
    [(sym "(",
      .attempt derivedTable (.both pivots joined)
        (seq [.call .nestedJoin, lit ")", optTableAlias, joins]))]
    (.both (.call .tableFactor) joined)

/-- A column of a document that is read as a table, with what stands for missing or faulty
values; or a part of the document with columns of its own. -/
def documentColumn (d : Dialect) : G :=
  let columns : G := parens (commaSep (.call .documentColumn))
  let handled : G := .both (kw "ON") (oneOf ["EMPTY", "ERROR"])
  let handlings : G :=
    .loop (peek (anyOf ["NULL", "ERROR", "DEFAULT"]))
      (.both (choose [(word "DEFAULT", value d)] (oneOf ["NULL", "ERROR"])) handled)
  choose [(word "NESTED", seq [optKw "PATH", value d, kw "COLUMNS", columns])]
    (.both ident
      (choose [(word "FOR", kw "ORDINALITY")]
        (seq [.call .dataType, optKw "EXISTS", kw "PATH", value d, handlings])))

/-- A document that is read as a table, behind its opening parenthesis. -/
def documentTable (d : Dialect) : G :=
  seq [expr, lit ",", value d, kw "COLUMNS", parens (commaSep (documentColumn d)), lit ")",
    optTableAlias]

/-- A table, a query or a call in place of a table. -/
def tableFactor (d : Dialect) : G :=
  let arguments : G := choose [(sym ")", .done)] (.both (commaSep argument) (lit ")"))
  let named : G :=
    seq [objectName,
      opt (when (d == .tsql) (words ["FOR", "SYSTEM_TIME", "AS", "OF"])) expr,
      opt (sym "(") arguments,
      opt (words ["WITH", "ORDINALITY"]) .done,
      optTableAlias,
      opt (andThen (word "WITH") (sym "(")) (.both exprs (lit ")")),
      pivots]
  choose
    [(word "LATERAL",
      choose [(sym "(", derivedTable)]
        (seq [objectName, lit "(", arguments, optTableAlias])),
     (word "TABLE", .both parenExpr optTableAlias),
     (sym "(",
       .attempt derivedTable pivots (seq [.call .nestedJoin, lit ")", optTableAlias])),
     (when (d == .postgres) (word "UNNEST"),
       seq [parens exprs, opt (words ["WITH", "ORDINALITY"]) .done, optTableAlias,
         opt (word "WITH") (opt (word "OFFSET") (optAlias columnAliasStops))]),
     (andThen (word "JSON_TABLE") (sym "("), documentTable d)]
    named

/-! ## Selections -/

/-- The word `FROM` comes next and is no part of a longer expression. -/
def fromAlone (d : Dialect) : Ahead :=
  let goesOn : Ahead :=
    orElse (anySym [".", "("]) (orElse (word "COLLATE") (operatorAhead d))
  peek (andThen (word "FROM") (absent goesOn))

/-- A name that T-SQL gives to the expression behind a sign of equality. -/
def nameAhead (d : Dialect) : Ahead :=
  let equals : Ahead := andThen (anySym ["=", "=="]) (absent (anyOf quantifiers))
  when (d == .tsql)
    (andThen (absent (wordFormAhead d)) (andThen (token Token.isWord) equals))

/-- A selected expression with its alias, or a star. An expression that goes on behind the one
with a name is a comparison, and may have an alias. -/
def selectItem (d : Dialect) : G :=
  let named : G := optAlias columnAliasStops
  choose
    [(sym "*", .done), (qualifiedStar, .done),
     (fromAlone d, .broken "Expected an expression, found: from"),
     (nameAhead d,
       .both (.nested (operand d .comparison))
         (opt (operatorAhead d) (.both (.nested (.call (.operators 0))) named)))]
    (.both expr named)

/-- The first rows of a selection. -/
def topTail : G :=
  seq [choose [(sym "(", .both expr (lit ")"))] uint, optKw "PERCENT",
    opt (words ["WITH", "TIES"]) .done]

/-- The optional words for all or for distinct rows. -/
def optDistinct : G :=
  let distinct : G :=
    opt (word "ON") (.both (lit "(") (choose [(sym ")", .done)] (.both exprs (lit ")"))))
  choose
    [(peek (words ["ALL", "DISTINCT"]), .broken "Cannot specify both ALL and DISTINCT"),
     (word "ALL", .done), (word "DISTINCT", distinct)]
    .done

/-- An expression to group by. -/
def groupExpr (d : Dialect) : G :=
  let tuple (other : G) : G :=
    choose [(andThen (sym "(") (sym ")"), .done), (sym "(", .both exprs (lit ")"))] other
  match d with
  | .tsql => expr
  | .postgres =>
    choose
      [(words ["GROUPING", "SETS"], parens (commaSep (tuple (lit "(")))),
       (anyOf ["CUBE", "ROLLUP"], parens (commaSep (tuple expr))),
       (andThen (sym "(") (sym ")"), .done)]
      expr

/-- Named windows. -/
def namedWindows (d : Dialect) : G :=
  commaSep (seq [ident, kw "AS", lit "(", windowSpec d])

/-- The walk along a hierarchy. -/
def connectBy : G :=
  let walk : G := .both (kws ["CONNECT", "BY"]) (.walking exprs)
  let start : G := .both (kws ["START", "WITH"]) expr
  choose [(peek (words ["CONNECT", "BY"]), .both walk start)] (.both start walk)

/-- A selection behind `SELECT`. -/
def select (d : Dialect) : G :=
  let top : G := opt (word "TOP") topTail
  let filters : G :=
    seq [opt (word "WHERE") expr,
      opt (words ["GROUP", "BY"]) (choose [(word "ALL", .done)] (commaSep (groupExpr d))),
      opt (words ["CLUSTER", "BY"]) exprs,
      opt (words ["DISTRIBUTE", "BY"]) exprs,
      opt (words ["SORT", "BY"]) exprs,
      opt (word "HAVING") expr,
      choose
        [(word "WINDOW", .both (namedWindows d) (opt (word "QUALIFY") expr)),
         (word "QUALIFY", .both expr (opt (word "WINDOW") (namedWindows d)))]
        .done,
      opt (when (d == .tsql) (peek (anyOf ["START", "CONNECT"]))) connectBy]
  seq [optDistinct, top, commaSep (selectItem d),
    opt (word "INTO")
      (seq [optOneOf ["TEMP", "TEMPORARY"], optKw "UNLOGGED", optKw "TABLE", objectName]),
    opt (word "FROM") (commaSep (.call .tableAndJoins)),
    .loop (words ["LATERAL", "VIEW"])
      (seq [optKw "OUTER", expr, objectName,
        commaSep (optAlias ["WHERE", "GROUP", "CLUSTER", "HAVING", "LATERAL"])]),
    filters]

/-! ## Queries -/

/-- Rows of expressions. -/
def valueRows : G :=
  commaSep (seq [optKw "ROW", lit "(", exprs, lit ")"])

/-- A whole table by its name. Three tokens are taken, whatever the second and the third are,
unless the second is the point of a name. -/
def wholeTable : G :=
  let tableWord : G := .take Token.isWord "Table name"
  choose
    [(peek (andThen anyToken (sym ".")),
      seq [.take Token.isWord "Schema name", lit ".", tableWord])]
    (seq [tableWord, optToken, optToken])

/-- The body of a query, with the set operations that bind more strongly than `above`. -/
def queryBody (above : Nat) : G :=
  .both
    (choose
      [(word "SELECT", .call .select),
       (sym "(", .both (.call .query) (lit ")")),
       (word "VALUES", valueRows),
       (word "TABLE", wholeTable)]
      (.wrong "SELECT, VALUES, or a subquery in the query body"))
    (.call (.setOperations above))

/-- The set operations behind the body of a query. -/
def setOperations (above : Nat) : G :=
  let byName : Ahead := words ["BY", "NAME"]
  let rows : G :=
    choose [(byName, .done), (anyOf ["ALL", "DISTINCT"], opt byName .done)] .done
  let right (n : Nat) : G := .both (.call (.queryBody n)) (.call (.setOperations above))
  choose
    [(when (above < 10) (anyOf ["UNION", "EXCEPT"]), .both rows (right 10)),
     (when (above < 20) (word "INTERSECT"), .both rows (right 20))]
    .done

/-- A named query in front of another. -/
def namedQuery (d : Dialect) : G :=
  let kept : G :=
    opt (when (d == .postgres) fun ts =>
      (word "MATERIALIZED" ts).or (words ["NOT", "MATERIALIZED"] ts)) .done
  seq [ident, choose [(word "AS", .done)] (.both optColumnList (kw "AS")), kept,
    parens (.call .query), opt (word "FROM") ident]

/-- The number of rows to fetch. -/
def fetchTail (d : Dialect) : G :=
  seq [oneOf ["FIRST", "NEXT"],
    choose [(anyOf ["ROW", "ROWS"], .done)]
      (seq [value d, optKw "PERCENT", oneOf ["ROW", "ROWS"]]),
    choose [(word "ONLY", .done), (words ["WITH", "TIES"], .done)]
      (.wrong "one of ONLY or WITH TIES")]

/-- The form in which a query is given out, behind `FOR`. -/
def outputForms (d : Dialect) : List (Ahead × G) :=
  let root : G := seq [lit "(", literalText d, lit ")"]
  let element : G := opt (sym "(") (.both (literalText d) (lit ")"))
  let xmlOption : G :=
    choose
      [(word "ELEMENTS", .done), (word "BINARY", kw "BASE64"), (word "ROOT", root),
       (word "TYPE", .done)]
      .done
  let jsonOption : G :=
    choose
      [(word "ROOT", root), (anyOf ["INCLUDE_NULL_VALUES", "WITHOUT_ARRAY_WRAPPER"], .done)]
      .done
  [(word "XML",
      .both
        (choose [(anyOf ["RAW", "PATH"], element), (anyOf ["AUTO", "EXPLICIT"], .done)]
          (.refused "Expected FOR XML [RAW | AUTO | EXPLICIT | PATH ]"))
        (.loop (sym ",") xmlOption)),
   (word "JSON",
     .both
       (choose [(anyOf ["AUTO", "PATH"], .done)] (.refused "Expected FOR JSON [AUTO | PATH ]"))
       (.loop (sym ",") jsonOption)),
   (word "BROWSE", .done)]

/-- The locks that a query takes, and the form in which it is given out, which comes last. -/
def forClauses (d : Dialect) : G :=
  let forms := outputForms d
  let formAhead : Ahead := andThen (word "FOR") fun ts => (firstOf ts forms).map fun _ => 0
  let lock : G :=
    seq [oneOf ["UPDATE", "SHARE"], opt (word "OF") objectName,
      choose [(word "NOWAIT", .done), (words ["SKIP", "LOCKED"], .done)] .done]
  .both (.loop (andThen (absent formAhead) (word "FOR")) lock)
    (opt (word "FOR") (choose forms .done))

/-- The limits of a query, in up to `rounds` rounds of a limit and an offset; `limits` and
`offsets` tell which may still come. A limit to all rows is none. -/
def limitClauses (rounds : Nat) (limits offsets : Bool) : G :=
  match rounds with
  | 0 => .done
  | n + 1 =>
    let offset (limits : Bool) : G :=
      choose
        [(when offsets (word "OFFSET"),
          seq [expr, optOneOf ["ROW", "ROWS"], limitClauses n limits false])]
        (limitClauses n limits offsets)
    choose
      [(when limits (words ["LIMIT", "ALL"]), offset true),
       (when limits (word "LIMIT"), .both expr (offset false))]
      (offset limits)

/-- A query. -/
def query (d : Dialect) : G :=
  .nested (.both
    (opt (word "WITH") (.both (optKw "RECURSIVE") (commaSep (namedQuery d))))
    (choose
      [(word "INSERT", .call .insert), (word "UPDATE", .call .update)]
      (seq [.call (.queryBody 0), optOrderBy, limitClauses 2 true true,
        opt (word "FETCH") (fetchTail d), forClauses d])))

end Grammar
end Sql
end SchemaMap
