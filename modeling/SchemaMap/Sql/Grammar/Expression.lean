/-
# Grammar of expressions

An expression is a first part and the operators behind it that bind more strongly than the
operator in front of it. First parts are constants, names, calls, and the forms that start
with a word of their own.

Key definitions: `Sql.Grammar.Level`, `Sql.Grammar.strength`, `Sql.Grammar.subexpr`,
`Sql.Grammar.operators`, `Sql.Grammar.primary`, `Sql.Grammar.argumentList`.
-/
import SchemaMap.Sql.Grammar.Type

namespace SchemaMap
namespace Sql
namespace Grammar

open Rule Ahead

/-- The kinds of operators by how strongly they bind. -/
inductive Level where
  | conversion
  | bracket
  | collation
  | timeZone
  | product
  | sum
  | exclusive
  | ampersand
  | power
  | pipe
  | between
  | comparison
  | like
  | test
  | other
  | negation
  | conjunction
  | disjunction
deriving DecidableEq, Repr

/-- How strongly the operators of a kind bind. -/
def strength : Dialect → Level → Nat
  | .postgres, l =>
    match l with
    | .conversion => 140
    | .bracket => 130
    | .collation => 120
    | .timeZone => 110
    | .power => 100
    | .product => 90
    | .sum => 80
    | .exclusive => 75
    | .ampersand | .pipe | .other => 70
    | .between | .like => 60
    | .comparison => 50
    | .test => 40
    | .negation => 30
    | .conjunction => 20
    | .disjunction => 10
  | .tsql, l =>
    match l with
    | .conversion | .bracket | .collation => 50
    | .timeZone => 41
    | .product => 40
    | .sum => 30
    | .exclusive => 24
    | .ampersand => 23
    | .power => 22
    | .pipe => 21
    | .between | .comparison => 20
    | .like => 19
    | .test => 17
    | .other => 16
    | .negation => 15
    | .conjunction => 10
    | .disjunction => 5

/-- An expression of operators that bind more strongly than `above`. -/
def subexpr (above : Nat) : G :=
  .nested (.both (.call .primary) (.call (.operators above)))

/-- An expression behind an operator of the kind `l`. -/
def operand (d : Dialect) (l : Level) : G :=
  .call (.expr (strength d l))

/-! ## Operators -/

/-- A query comes next. -/
def queryAhead : Ahead :=
  peek (anyOf ["SELECT", "WITH"])

/-- The words that set an operator against a whole list. -/
def quantifiers : List String := ["ANY", "ALL", "SOME"]

/-- The right side of an operator with two sides; only a comparison may be set against all or
some of a list. -/
def rightSide (d : Dialect) (l : Level) (compares : Bool) : G :=
  let listed : G :=
    if compares then
      choose [(peek (andThen (sym "(") queryAhead), operand d l)]
        (seq [lit "(", operand d l, lit ")"])
    else .broken "Expected one of [=, >, <, =>, =<, !=] as comparison operator"
  choose [(anyOf quantifiers, listed)] (operand d l)

/-- The optional escape behind a pattern. -/
def optEscape (d : Dialect) : G :=
  opt (word "ESCAPE") (literalText d)

/-- What follows `IN`. -/
def inTail : G :=
  choose [(word "UNNEST", parenExpr)]
    (seq [lit "(", choose [(queryAhead, .call .query)] exprs, lit ")"])

/-- What follows `BETWEEN`. -/
def betweenTail (d : Dialect) : G :=
  seq [operand d .between, kw "AND", operand d .between]

/-- What follows `LIKE`. -/
def likeTail (d : Dialect) : G :=
  seq [optKw "ANY", operand d .like, optEscape d]

/-- What follows `SIMILAR TO`. -/
def similarTail (d : Dialect) : G :=
  .both (operand d .like) (optEscape d)

/-- What follows `IS`. -/
def isTail : G :=
  choose
    [(word "NULL", .done), (words ["NOT", "NULL"], .done), (word "TRUE", .done),
     (words ["NOT", "TRUE"], .done), (word "FALSE", .done), (words ["NOT", "FALSE"], .done),
     (word "UNKNOWN", .done), (words ["NOT", "UNKNOWN"], .done),
     (words ["DISTINCT", "FROM"], expr), (words ["NOT", "DISTINCT", "FROM"], expr)]
    (.wrong "[NOT] NULL or TRUE|FALSE or [NOT] DISTINCT FROM after IS")

/-- An element or a slice behind an opening bracket. -/
def subscript : G :=
  let upper : G :=
    choose [(sym "]", .done)]
      (.both expr
        (choose [(sym "]", .done)]
          (.both (lit ":") (choose [(sym "]", .done)] (.both expr (lit "]"))))))
  choose [(sym ":", upper)] (.both expr (choose [(sym "]", .done)] (.both (lit ":") upper)))

/-- The name of an operator in parentheses. -/
def operatorName : G :=
  let part : G := .take (fun _ => true) "an operator"
  seq [lit "(", part, .loop (sym ".") part, lit ")"]

/-- The symbols of comparisons. -/
def comparisons : List String :=
  ["=", "==", "<>", "!=", ">", ">=", "<", "<="]

/-- The symbols of comparisons with a pattern. -/
def patternSymbols : List String :=
  ["~", "~*", "!~", "!~*", "~~", "~~*", "!~~", "!~~*"]

/-- The operators on documents. -/
def documentSymbols : List String :=
  ["->", "->>", "#>", "#>>", "@>", "<@", "#-", "@?", "@@", "?", "?&", "?|"]

/-- Whether a token is an operator made of several characters. -/
def isOperator : Token → Bool
  | .operator _ => true
  | _ => false

/-- The operators that both dialects have, each with its kind and what follows it. -/
def commonOperators (d : Dialect) : List (Ahead × Level × G) :=
  let concat : Level := if d = .postgres then .other else .product
  let expression : G := seq [optKw "REGEXP", optKw "RLIKE", operand d .like]
  [(anySym comparisons, .comparison, rightSide d .comparison true),
   (anySym patternSymbols, .comparison, rightSide d .comparison false),
   (word "AND", .conjunction, rightSide d .conjunction false),
   (word "OR", .disjunction, rightSide d .disjunction false),
   (anySym ["+", "-"], .sum, rightSide d .sum false),
   (anySym ["*", "/", "%"], .product, rightSide d .product false),
   (sym "||", concat, rightSide d concat false),
   (word "IS", .test, isTail),
   (andThen (maybe (word "NOT")) (word "IN"), .between, inTail),
   (andThen (maybe (word "NOT")) (word "BETWEEN"), .between, betweenTail d),
   (andThen (maybe (word "NOT")) (anyOf ["LIKE", "ILIKE"]), .like, likeTail d),
   (andThen (maybe (word "NOT")) (peek (anyOf ["REGEXP", "RLIKE"])), .like, expression),
   (andThen (maybe (word "NOT")) (words ["SIMILAR", "TO"]), .like, similarTail d),
   (andThen (maybe (word "NOT")) (peek (word "SIMILAR")), .like,
     .wrong "IN or BETWEEN after NOT"),
   (words ["AT", "TIME", "ZONE"], .timeZone, operand d .timeZone),
   (sym "::", .conversion, .call .dataType),
   (sym "<=>", .comparison, rightSide d .comparison false),
   (sym "|", .pipe, rightSide d .pipe false),
   (sym "&", .ampersand, rightSide d .ampersand false),
   (sym "^", .power, rightSide d .power false),
   (word "XOR", .exclusive, rightSide d .exclusive false),
   (anySym documentSymbols, .other, rightSide d .other false)]

/-- An operator that binds but cannot be read. -/
def noOperator : G :=
  .broken "No infix parser for token"

/-- The operators of one dialect alone, and those that it cannot read. -/
def ownOperators : Dialect → List (Ahead × Level × G)
  | .postgres =>
    [(anySym ["#", ">>", "<<", "&&", "^@"], .other, rightSide .postgres .other false),
     (token isOperator, .other, rightSide .postgres .other false),
     (sym "!", .other, .done),
     (sym "[", .bracket, subscript),
     (word "OPERATOR", .between, .both operatorName (rightSide .postgres .between false)),
     (word "COLLATE", .collation, noOperator),
     (word "DIV", .product, noOperator)]
  | .tsql =>
    [(sym "!", .conversion, .done),
     (anySym ["&&", "^@"], .conversion, noOperator),
     (anySym ["#", ">>", "<<"], .power, noOperator),
     (word "OPERATOR", .between, noOperator),
     (word "DIV", .product, noOperator)]

/-- The operators, each with its kind and what follows it. -/
def operatorArms (d : Dialect) : List (Ahead × Level × G) :=
  commonOperators d ++ ownOperators d

/-- An operator comes next. -/
def operatorAhead (d : Dialect) : Ahead := fun ts =>
  if (operatorArms d).any fun (test, _, _) => (test ts).isSome then some 0 else none

/-- The operators behind an expression that bind more strongly than `above`. -/
def operators (d : Dialect) (above : Nat) : G :=
  choose
    (((operatorArms d).filter fun (_, l, _) => above < strength d l).map fun (test, _, r) =>
      (test, .both r (.call (.operators above))))
    .done

/-! ## Calls -/

/-- The expressions of an order, each with its direction and the place of nulls. -/
def orderExpr : G :=
  seq [expr, optOneOf ["ASC", "DESC"],
    choose [(words ["NULLS", "FIRST"], .done), (words ["NULLS", "LAST"], .done)] .done]

/-- An order behind `ORDER BY`. -/
def orderList : G :=
  commaSep orderExpr

/-- An optional order. -/
def optOrderBy : G :=
  opt (words ["ORDER", "BY"]) orderList

/-- A star behind a name and a point; its tokens are taken. -/
def qualifiedStar : Ahead
  | ⟨t, _⟩ :: ⟨.symbol ".", _⟩ :: ts =>
    if t.isNamePart then
      match ts with
      | ⟨.symbol "*", _⟩ :: _ => some 3
      | _ => (qualifiedStar ts).map (· + 2)
    else none
  | _ => none

/-- An expression, or a star, alone or behind a name. -/
def starOrExpr : G :=
  choose [(sym "*", .done), (qualifiedStar, .done)] expr

/-- An argument of a call, perhaps behind its name. -/
def argument : G :=
  choose [(peek (andThen anyToken (sym "=>")), seq [ident, lit "=>", starOrExpr])] starOrExpr

/-- What is done where a list gets too long. -/
def onOverflow : G :=
  let filler : G :=
    choose [(peek (anyOf ["WITH", "WITHOUT"]), .done),
      (peek (token fun t => match t with
        | .text (.dollar _) _ => false
        | .text .. => true
        | _ => false), expr)]
      (.wrong "either filler, WITH, or WITHOUT in LISTAGG")
  choose [(word "ERROR", .done)]
    (seq [kw "TRUNCATE", filler,
      choose [(anyOf ["WITH", "WITHOUT"], .done)] (.wrong "either WITH or WITHOUT in LISTAGG"),
      kw "COUNT"])

/-- The optional word for all or for distinct values. -/
def optDuplicates : G :=
  choose
    [(peek (words ["ALL", "DISTINCT"]), .broken "Cannot specify both ALL and DISTINCT")]
    (optOneOf ["ALL", "DISTINCT"])

/-- The arguments of a call, behind its opening parenthesis and with the closing one. -/
def argumentList : G :=
  choose [(sym ")", .done)]
    (seq [optDuplicates, commaSep argument,
      opt (words ["ORDER", "BY"]) orderList, opt (word "LIMIT") expr,
      opt (words ["ON", "OVERFLOW"]) onOverflow, lit ")"])

/-- The units of time. -/
def timeUnits : List String :=
  ["YEAR", "MONTH", "WEEK", "DAY", "DAYOFWEEK", "DAYOFYEAR", "DATE", "DATETIME", "HOUR", "HOURS",
   "MINUTE", "SECOND", "CENTURY", "DECADE", "DOY", "DOW", "EPOCH", "ISODOW", "ISOYEAR",
   "ISOWEEK", "JULIAN", "MICROSECOND", "MICROSECONDS", "MILLENIUM", "MILLENNIUM", "MILLISECOND",
   "MILLISECONDS", "NANOSECOND", "NANOSECONDS", "QUARTER", "TIME", "TIMEZONE", "TIMEZONE_ABBR",
   "TIMEZONE_HOUR", "TIMEZONE_MINUTE", "TIMEZONE_REGION"]

/-- The units of time that may follow an interval. -/
def intervalUnits : List String :=
  ["YEAR", "MONTH", "WEEK", "DAY", "HOUR", "MINUTE", "SECOND", "CENTURY", "DECADE", "DOW", "DOY",
   "EPOCH", "ISODOW", "ISOYEAR", "JULIAN", "MICROSECOND", "MICROSECONDS", "MILLENIUM",
   "MILLENNIUM", "MILLISECOND", "MILLISECONDS", "NANOSECOND", "NANOSECONDS", "QUARTER",
   "TIMEZONE", "TIMEZONE_HOUR", "TIMEZONE_MINUTE"]

/-- A unit of time; Postgres takes any word for one. -/
def timeUnit (d : Dialect) : G :=
  .take (fun t => timeUnits.any (fun k => t.isKeyword k) || (d == .postgres && t.isNamePart))
    "date/time field"

/-- An interval behind its keyword. -/
def interval (d : Dialect) : G :=
  let last : G :=
    opt (word "TO") (choose [(word "SECOND", optLength)] (timeUnit d))
  seq [.call .primary,
    choose [(word "SECOND", optPrecisionScale), (anyOf intervalUnits, .both optLength last)]
      (.both optLength last)]

/-- One end of a window frame. -/
def frameBound (d : Dialect) : G :=
  choose [(words ["CURRENT", "ROW"], .done)]
    (.both
      (choose [(word "UNBOUNDED", .done), (peek (token (isText .plain)), interval d)] expr)
      (choose [(anyOf ["PRECEDING", "FOLLOWING"], .done)] (.wrong "PRECEDING or FOLLOWING")))

/-- The frame of a window. -/
def windowFrame (d : Dialect) : G :=
  .both
    (choose [(anyOf ["ROWS", "RANGE", "GROUPS"], .done)] (.wrong "ROWS, RANGE, GROUPS"))
    (choose [(word "BETWEEN", seq [frameBound d, kw "AND", frameBound d])] (frameBound d))

/-- A window behind its opening parenthesis, with the closing one. -/
def windowSpec (d : Dialect) : G :=
  seq [opt (token fun t => t.isFreeWord) .done, opt (words ["PARTITION", "BY"]) exprs, optOrderBy,
    choose [(sym ")", .done)] (.both (windowFrame d) (lit ")"))]

/-- The words that filter the rows of a call. The words in front are taken also where the rest
does not follow. -/
def optFilter : G :=
  opt (word "FILTER") (opt (sym "(") (opt (word "WHERE") (.both expr (lit ")"))))

/-- A call from its opening parenthesis on, with what may follow it. -/
def functionCall (d : Dialect) : G :=
  let ordered : G := seq [lit "(", kws ["ORDER", "BY"], orderList, lit ")"]
  seq [lit "(", .call .argumentList, opt (words ["WITHIN", "GROUP"]) ordered,
    (match d with
      | .postgres => optFilter
      | .tsql => .done),
    opt (anyOf ["RESPECT", "IGNORE"]) (kw "NULLS"),
    opt (word "OVER") (choose [(sym "(", windowSpec d)] ident)]

/-- The methods that T-SQL calls on a value, one on the result of the other; all of them or
none. -/
def optMethods (d : Dialect) : G :=
  let method : G := .both (.take Token.isWord "identifier") (.call .functionCall)
  match d with
  | .postgres => .done
  | .tsql => .attempt (seq [lit ".", method, .loop (sym ".") method]) .done .done

/-! ## First parts -/

/-- What may follow the first word of a name: further parts, and arguments. -/
def nameTail (d : Dialect) : G :=
  let star : G :=
    if d = .postgres then .done else .wrong "an identifier after '.'"
  choose
    [(sym ".",
      choose
        [(token Token.isNamePart, .call .nameTail), (sym "*", star)]
        (.wrong "an identifier or a '*' after '.'")),
     (when (d == .tsql) (andThen (sym "(") (andThen (sym "+") (sym ")"))), .done),
     (peek (sym "("), .call .functionCall)]
    .done

/-- Whether a word names a character set in front of a text. -/
def isIntroducer : Token → Bool
  | .word w _ _ => w.toList.head? == some '_'
  | _ => false

/-- A word as a name, a call, or the character set of a text. -/
def plainWord : G :=
  let text : Ahead := token fun t => isText .plain t || isText .hexadecimal t
  choose [(andThen (token isIntroducer) text, .done)]
    (.both (.take Token.isWord "an expression") (.call .nameTail))

/-- A condition and its result. -/
def caseArm : G :=
  seq [expr, kw "THEN", expr]

/-- A choice between results. -/
def caseForm : G :=
  seq [choose [(word "WHEN", .done)] (.both expr (kw "WHEN")), caseArm,
    .loop (word "WHEN") caseArm, opt (word "ELSE") expr, kw "END"]

/-- A conversion by name. -/
def castForm (d : Dialect) : G :=
  seq [lit "(", expr, kw "AS", .call .dataType,
    opt (word "FORMAT")
      (.both (value d) (opt (words ["AT", "TIME", "ZONE"]) (value d))), lit ")"]

/-- A conversion in the manner of the dialect. -/
def convertForm (d : Dialect) : G :=
  match d with
  | .tsql => seq [lit "(", .call .dataType, lit ",", expr, opt (sym ",") exprs, lit ")"]
  | .postgres =>
    seq [lit "(", expr,
      choose [(word "USING", objectName)]
        (seq [lit ",", .call .dataType, opt (words ["CHARACTER", "SET"]) objectName]), lit ")"]

/-- A part of a time. -/
def extractForm (d : Dialect) : G :=
  seq [lit "(", timeUnit d,
    choose [(word "FROM", .done)] (.refused "Expected 'FROM' or ','"), expr, lit ")"]

/-- A rounding to a unit or a scale. -/
def roundForm (d : Dialect) : G :=
  let scale : G :=
    choose [(token isNumber, .done)]
      (.both (value d) (.refused "Scale field can only be of number type"))
  seq [lit "(", expr, choose [(word "TO", timeUnit d), (sym ",", scale)] .done, lit ")"]

/-- The place of a text in another. -/
def positionForm (d : Dialect) : G :=
  .attempt (seq [lit "(", operand d .between, kw "IN", expr, lit ")"]) .done (.call .functionCall)

/-- A part of a text. -/
def substringForm : G :=
  seq [lit "(", expr, opt (orElse (sym ",") (word "FROM")) expr,
    opt (orElse (word "FOR") (sym ",")) expr, lit ")"]

/-- A text with a part of it replaced. -/
def overlayForm : G :=
  seq [lit "(", expr, kw "PLACING", expr, kw "FROM", expr, opt (word "FOR") expr, lit ")"]

/-- A text without what stands at its ends; a comma behind it is passed over. -/
def trimForm : G :=
  seq [lit "(", optOneOf ["BOTH", "LEADING", "TRAILING"], expr,
    choose [(word "FROM", expr)] (opt (sym ",") .done), lit ")"]

/-- A negation. -/
def notForm (d : Dialect) : G :=
  choose [(word "EXISTS", parens (.call .query))] (operand d .negation)

/-- An array behind its opening bracket. -/
def arrayForm : G :=
  choose [(sym "]", .done)] (.both exprs (lit "]"))

/-- The words that stand for the user or the database in Postgres. -/
def sessionWords : List String :=
  ["CURRENT_CATALOG", "CURRENT_USER", "SESSION_USER", "USER"]

/-- The words that stand for the time. -/
def timeWords : List String :=
  ["CURRENT_TIMESTAMP", "CURRENT_TIME", "CURRENT_DATE", "LOCALTIME", "LOCALTIMESTAMP"]

/-- The forms that start with a word of their own. -/
def wordForms (d : Dialect) : List (Ahead × G) :=
  [(anyOf ["NULL", "TRUE", "FALSE"], .done),
   (when (d == .postgres) (anyOf sessionWords), .done),
   (anyOf timeWords, opt (sym "(") (.call .argumentList)),
   (word "CASE", caseForm),
   (word "CONVERT", convertForm d),
   (when (d == .tsql) (word "TRY_CONVERT"), convertForm d),
   (anyOf ["CAST", "TRY_CAST", "SAFE_CAST"], castForm d),
   (word "EXISTS", parens (.call .query)),
   (word "EXTRACT", extractForm d),
   (anyOf ["CEIL", "FLOOR"], roundForm d),
   (andThen (word "POSITION") (peek (sym "(")), positionForm d),
   (word "SUBSTRING", substringForm),
   (word "OVERLAY", overlayForm),
   (word "TRIM", trimForm),
   (word "INTERVAL", interval d),
   (andThen (word "ARRAY") (sym "["), arrayForm),
   (andThen (word "ARRAY") (peek (sym "(")), parens (.call .query)),
   (word "NOT", notForm d)]

/-- A form that starts with a word of its own comes next. -/
def wordFormAhead (d : Dialect) : Ahead := fun ts =>
  (firstOf ts (wordForms d)).map fun _ => 0

/-- A first part that starts with a word. On a walk along a hierarchy one word stands for the
row before. -/
def wordPrimary (d : Dialect) : G :=
  choose (wordForms d)
    (choose [(peek (word "PRIOR"), .onWalk (.both (kw "PRIOR") (operand d .sum)) plainWord)]
      plainWord)

/-- A constant behind the name of its type. -/
def typedConstant (d : Dialect) : G :=
  choose [(andThen (word "INTERVAL") (absent (sym "[")), interval d)]
    (.both (evidentType d) (literalText d))

/-- An expression, a list of them or a query behind an opening parenthesis. -/
def parenPrimary (d : Dialect) : G :=
  seq [choose [(queryAhead, .call .query)] exprs, lit ")", optMethods d,
    opt (sym ".") (.take Token.isWord "identifier")]

/-- The signs in front of an expression that only Postgres has. -/
def postgresSigns : List String := ["!!", "|/", "||/", "@", "~"]

/-- The first part of an expression. -/
def primaryForm (d : Dialect) : G :=
  choose
    [(peek (token Token.isWord), wordPrimary d),
     (sym "(", parenPrimary d),
     (sym "[", arrayForm),
     (anySym ["+", "-"], operand d .product),
     (when (d == .postgres) (anySym postgresSigns), operand d .sum),
     (token (isConstant d), .done),
     (anySym [":", "@"], markedParameter)]
    (.wrong "an expression:")

/-- The first part of an expression, with its methods and its collation. -/
def primary (d : Dialect) : G :=
  .attempt (typedConstant d) .done
    (seq [primaryForm d, optMethods d, opt (word "COLLATE") objectName])

end Grammar
end Sql
end SchemaMap
