/-
# Tokens of SQL

A statement is read as words, numbers, quoted texts and symbols. A word that is not quoted
has a keyword form, its letters in upper case; a quoted word has none. Every token knows
where it starts.

Key definitions: `Sql.Dialect`, `Sql.TextStyle`, `Sql.Token`, `Sql.Place`, `Sql.Placed`,
`Sql.Token.shown`.
-/
import SchemaMap.Text.Basic

namespace SchemaMap
namespace Sql

/-- The two dialects that are read by grammar. -/
inductive Dialect where
  | postgres
  | tsql
deriving DecidableEq, Repr, Inhabited

/-- How a text is quoted. -/
inductive TextStyle where
  | plain
  | national
  | escaped
  | unicode
  | hexadecimal
  /-- Between dollar signs, with a tag between each two of them. -/
  | dollar (tag : String)
deriving DecidableEq, Repr, Inhabited

/-- A token. -/
inductive Token where
  /-- A word with its opening quote, where it is quoted, and its keyword form. -/
  | word (text : String) (quote : Option Char) (keyword : Option String)
  | number (digits : String) (long : Bool)
  | text (style : TextStyle) (body : String)
  | symbol (spelling : String)
  /-- An operator made of several operator characters. -/
  | operator (spelling : String)
  /-- A parameter such as `$1` or `?`. -/
  | parameter (name : String)
deriving DecidableEq, Repr, Inhabited

/-- A place in a text: line and column, counted from one. -/
structure Place where
  line : Nat
  column : Nat
deriving DecidableEq, Repr, Inhabited

/-- The place behind a character. -/
def Place.after (p : Place) (c : Char) : Place :=
  if c = '\n' then ⟨p.line + 1, 1⟩ else ⟨p.line, p.column + 1⟩

/-- A place as it stands in a message. -/
def Place.shown (p : Place) : String :=
  " at Line: " ++ toString p.line ++ ", Column: " ++ toString p.column

/-- A token with the place it starts at. -/
structure Placed where
  token : Token
  place : Place
deriving DecidableEq, Repr, Inhabited

/-- The mark that closes a quoted word. -/
def closingQuote (opening : Char) : Char :=
  if opening = '[' then ']' else opening

/-- The letters of a word in upper case, as keywords are compared. The few other letters that
have one of `A` to `Z` as their upper case are included. -/
def keywordForm (cs : List Char) : String :=
  String.ofList (cs.flatMap upper)
where
  upper (c : Char) : List Char :=
    if c = '\u0131' then ['I']
    else if c = '\u017f' then ['S']
    else if c = '\u00df' then ['S', 'S']
    else if c = '\ufb00' then ['F', 'F']
    else if c = '\ufb01' then ['F', 'I']
    else if c = '\ufb02' then ['F', 'L']
    else if c = '\ufb03' then ['F', 'F', 'I']
    else if c = '\ufb04' then ['F', 'F', 'L']
    else if c = '\ufb05' ∨ c = '\ufb06' then ['S', 'T']
    else [Text.asciiUpper c]

/-- A word without quotes. -/
def Token.bare (cs : List Char) : Token :=
  .word (String.ofList cs) none (some (keywordForm cs))

namespace Token

/-- The keyword form of a token that is a word without quotes. -/
def keyword? : Token → Option String
  | .word _ _ k => k
  | _ => none

/-- Whether a token is the keyword `k`. -/
def isKeyword (k : String) (t : Token) : Bool :=
  t.keyword? == some k

/-- Whether a token is a word, quoted or not. -/
def isWord : Token → Bool
  | .word .. => true
  | _ => false

/-- Whether a token can be part of a name: it is a word or a text in plain quotes. -/
def isNamePart : Token → Bool
  | .word .. | .text .plain _ => true
  | _ => false

/-- What stands before the first quote of a text. -/
def textMark : TextStyle → String
  | .national => "N"
  | .escaped => "E"
  | .unicode => "U&"
  | .hexadecimal => "X"
  | _ => ""

/-- A token as it stands in a message; both signs for unequal are shown as one. -/
def shown : Token → String
  | .word w (some q) _ => q.toString ++ w ++ (closingQuote q).toString
  | .word w none _ => w
  | .number digits long => if long then digits ++ "L" else digits
  | .text (.dollar tag) body => "$" ++ tag ++ "$" ++ body ++ "$" ++ tag ++ "$"
  | .text style body => textMark style ++ "'" ++ body ++ "'"
  | .symbol s => if s = "!=" then "<>" else s
  | .operator s => s
  | .parameter s => s

end Token
end Sql
end SchemaMap
