/-
# Symbols and small rules of the grammar

The symbols stand for the rules that refer to each other. The small rules here are names,
lists in parentheses, numbers and texts, which every other part of the grammar is built of.

Key definitions: `Sql.Symbol`, `Sql.Grammar.objectName`, `Sql.Grammar.columnList`,
`Sql.Grammar.literalText`, `Sql.Grammar.value`.
-/
import SchemaMap.Sql.Rule
import SchemaMap.Sql.Keyword

namespace SchemaMap
namespace Sql

/-- The symbols of the grammar. -/
inductive Symbol where
  | script
  | scriptRest
  | statement
  | create
  | alter
  | drop
  | query
  | queryBody (above : Nat)
  | setOperations (above : Nat)
  | select
  | tableAndJoins
  | tableFactor
  | nestedJoin
  | documentColumn
  | expr (above : Nat)
  | operators (above : Nat)
  | primary
  | nameTail
  | argumentList
  | functionCall
  | dataType
  | elementType
  | columnDef
  | columnOptions
  | plainOptions
  | tableConstraint
  | insert
  | update
deriving DecidableEq, Repr

namespace Grammar

open Rule Ahead

/-- A rule of the grammar. -/
abbrev G := Rule Symbol

/-- A list of one or more, with commas between. -/
def commaSep (r : G) : G :=
  .both r (.loop (sym ",") r)

/-- A token, whatever it is, or nothing at the end of the text. -/
def optToken : G :=
  opt anyToken .done

/-- A rule between parentheses. -/
def parens (r : G) : G :=
  seq [lit "(", r, lit ")"]

/-- A name of one or more parts with points between. -/
def objectName : G :=
  .both ident (.loop (sym ".") ident)

/-- The tokens in the place of a name. Where there is no name, or no part of one
behind a point, one token is taken in its place, whatever it is. -/
def nameOrToken : Ahead
  | [] => some 0
  | t :: ts =>
    if t.token.isNamePart then
      match ts with
      | ⟨.symbol ".", _⟩ :: us => (nameOrToken us).map (· + 2)
      | _ => some 1
    else some 1

/-- A list of plain names in parentheses. -/
def columnList : G :=
  .look (sym "(") (seq [commaSep ident, lit ")"]) (.wrong "a list of columns in parentheses")

/-- A list of plain names in parentheses, or nothing. -/
def optColumnList : G :=
  opt (peek (sym "(")) columnList

/-- The words `IF NOT EXISTS`, or nothing. -/
def ifNotExists : G :=
  opt (words ["IF", "NOT", "EXISTS"]) .done

/-- The words `IF EXISTS`, or nothing. -/
def ifExists : G :=
  opt (words ["IF", "EXISTS"]) .done

/-- An optional keyword. -/
def optKw (k : String) : G :=
  opt (word k) .done

/-- One of the keywords, or nothing. -/
def optOneOf (ks : List String) : G :=
  opt (anyOf ks) .done

/-- Whether a token is a text in the given style. -/
def isText (style : TextStyle) : Token → Bool
  | .text s _ => s == style
  | _ => false

/-- Whether a token is a number. -/
def isNumber : Token → Bool
  | .number .. => true
  | _ => false

/-- Whether a token is a whole number below `bound`. -/
def isWholeBelow (bound : Nat) : Token → Bool
  | .number digits _ =>
    digits.toList.all Text.isAsciiDigit && Text.valueOfDigits digits.toList < bound
  | _ => false

/-- A whole number of 64 bits. -/
def uint : G :=
  .take (isWholeBelow (Nat.pow 2 64)) "literal int"

/-- A text in single quotes. -/
def plainText (what : String) : G :=
  .take (isText .plain) what

/-- Whether a token can stand for a text: a word that is no keyword, or a text. -/
def isLiteralText (d : Dialect) (t : Token) : Bool :=
  t.isFreeWord || isText .plain t || isText .unicode t || (d == .postgres && isText .escaped t)

/-- A text, which may also be given as a word. -/
def literalText (d : Dialect) : G :=
  .take (isLiteralText d) "literal string"

/-- Whether a token is a parameter. -/
def isParameter : Token → Bool
  | .parameter _ => true
  | _ => false

/-- A parameter that is named behind a mark. -/
def markedParameter : G :=
  .take (fun t => match t with
    | .word .. | .number _ false => true
    | _ => false) "placeholder"

/-- Whether a token is a constant by itself. -/
def isConstant (d : Dialect) (t : Token) : Bool :=
  match t with
  | .number .. | .parameter _ => true
  | .text .escaped _ => d == .postgres
  | .text .. => true
  | .word _ (some q) _ => q == '"'
  | .word _ none _ => t.isKeyword "NULL" || t.isKeyword "TRUE" || t.isKeyword "FALSE"
  | _ => false

/-- A constant. -/
def value (d : Dialect) : G :=
  choose
    [(anySym [":", "@"], markedParameter), (token (isConstant d), .done),
     (peek (token fun t => t.keyword?.isSome), .wrong "a concrete value"),
     (peek (token Token.isWord), .wrong "A value?")]
    (.wrong "a value")

/-- A number or a parameter. -/
def numberValue : G :=
  choose [(anySym [":", "@"], markedParameter)]
    (.take (fun t => isNumber t || isParameter t) "literal number")

/-- A number with an optional sign. -/
def signedNumber : G :=
  .both (opt (anySym ["+", "-"]) .done) numberValue

/-- An expression. -/
def expr : G :=
  .call (.expr 0)

/-- Expressions with commas between. -/
def exprs : G :=
  commaSep expr

/-- An expression in parentheses. -/
def parenExpr : G :=
  parens expr

end Grammar
end Sql
end SchemaMap
