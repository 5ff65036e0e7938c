/-
# From text to tokens

A text is cut into lexemes from the front. A lexeme is white space, a comment or one token;
`scan` finds its length and its token, if it has one, and `tokens` goes on behind it until
the text is used up. Only texts that end inside a quotation or a comment are refused.

Key definitions: `Sql.Flaw`, `Sql.Lexeme`, `Sql.scan`, `Sql.tokens`.
-/
import SchemaMap.Sql.Token

namespace SchemaMap
namespace Sql

open Text

/-- Why a text has no tokens, and how many characters behind the start of the lexeme that
shows. -/
structure Flaw where
  reason : String
  offset : Nat
deriving DecidableEq, Repr, Inhabited

/-- The length of a lexeme, and its token, if it has one. -/
structure Lexeme where
  length : Nat
  token : Option Token
deriving DecidableEq, Repr, Inhabited

/-- Whether a word may start with a character. -/
def startsWord (d : Dialect) (c : Char) : Bool :=
  isAlphabetic c || c == '_' || (d == .tsql && (c == '#' || c == '@'))

/-- Whether a word may go on with a character. -/
def continuesWord (d : Dialect) (c : Char) : Bool :=
  isAlphabetic c || isAsciiDigit c || c == '_' || c == '$'
    || (d == .tsql && (c == '#' || c == '@'))

/-- Whether a character may extend an operator. -/
def extendsOperator (d : Dialect) (c : Char) : Bool :=
  d == .postgres && "+-*/<>=~!@#%^&|`?".toList.contains c

/-- The symbols, a longer one before those it starts with, and whether further operator
characters may extend them. -/
def symbols : List (String × Bool) :=
  [("->>", true), ("->", true), ("-", true), ("/", false), ("+", false), ("*", false),
   ("%", true), ("|/", true), ("||/", true), ("||", true), ("|", true), ("=>", false),
   ("==", false), ("=", false), ("!=", false), ("!!", false), ("!~~*", false), ("!~~", false),
   ("!~*", false), ("!~", false), ("!", false), ("<=>", true), ("<=", true), ("<>", true),
   ("<<", true), ("<@", true), ("<", true), (">=", true), (">>", true), (">", true),
   ("::", false), (":=", false), (":", false), (";", false), ("\\", false), ("[", false),
   ("]", false), ("\x7b", false), ("\x7d", false), ("(", false), (")", false), (",", false),
   ("&&", true), ("&", true), ("^@", false), ("^", false), ("~*", true), ("~~*", true),
   ("~~", true), ("~", true), ("#-", true), ("#>>", true), ("#>", true), ("#", true),
   ("@>", false), ("@?", false), ("@@", false), ("@", false)]

/-- The body of a quotation up to the mark `close`, a doubled mark standing for one, and the
number of characters up to and with the closing mark. -/
def quotation? (close : Char) : List Char → Option (List Char × Nat)
  | [] => none
  | c :: cs =>
    if c = close then
      match cs with
      | d :: ds =>
        if d = close then (quotation? close ds).map fun (b, n) => (c :: b, n + 2) else some ([], 1)
      | [] => some ([], 1)
    else (quotation? close cs).map fun (b, n) => (c :: b, n + 1)

/-- The character that a backslash and the character `c` behind it stand for. -/
def slashed (c : Char) : Char :=
  match c with
  | '0' => '\x00'
  | 'a' => '\x07'
  | 'b' => '\x08'
  | 'f' => '\x0c'
  | 'n' => '\n'
  | 'r' => '\r'
  | 't' => '\t'
  | 'Z' => '\x1a'
  | c => c

/-- As `quotation?` for a single quote, with a meaning for a backslash and the character behind
it. -/
def slashQuotation? : List Char → Option (List Char × Nat)
  | [] => none
  | '\'' :: '\'' :: cs => (slashQuotation? cs).map fun (b, n) => ('\'' :: b, n + 2)
  | '\'' :: _ => some ([], 1)
  | '\\' :: c :: cs => (slashQuotation? cs).map fun (b, n) => (slashed c :: b, n + 2)
  | c :: cs => (slashQuotation? cs).map fun (b, n) => (c :: b, n + 1)

/-- The value of a digit in the bases up to sixteen. -/
def digitValue (c : Char) : Nat :=
  if isAsciiDigit c then c.toNat - '0'.toNat
  else if 'a' ≤ c && c ≤ 'f' then c.toNat - 'a'.toNat + 10
  else c.toNat - 'A'.toNat + 10

/-- The value of digits in the base `b`. -/
def valueOf (b : Nat) (cs : List Char) : Nat :=
  cs.foldl (fun n c => b * n + digitValue c) 0

/-- The character with the given code point, if it is one. -/
def charOf? (n : Nat) : Option Char :=
  if n.isValidChar then some (Char.ofNat n) else none

/-- The character of a byte that octal or hexadecimal digits give; digits in front of the last
eight bits are lost. -/
def charOfByte? (n : Nat) : Option Char :=
  if n % 256 < 128 then some (Char.ofNat (n % 256)) else none

/-- The value of `k` characters that are hexadecimal digits, of which the first may be a plus
sign. -/
def hexRun? (k : Nat) (cs : List Char) : Option Nat :=
  let ds := cs.take k
  let digits := if ds.head? = some '+' then ds.drop 1 else ds
  if ds.length = k && digits.all isHexDigit then some (valueOf 16 digits) else none

/-- The character that an escape stands for, given from behind its backslash, and the length
of the escape without the backslash. The null character cannot be escaped. -/
def escape? (cs : List Char) : Option (Char × Nat) :=
  (form cs).filter fun (c, _) => c != '\x00'
where
  form : List Char → Option (Char × Nat)
    | [] => none
    | 'b' :: _ => some ('\x08', 1)
    | 'f' :: _ => some ('\x0c', 1)
    | 'n' :: _ => some ('\n', 1)
    | 'r' :: _ => some ('\r', 1)
    | 't' :: _ => some ('\t', 1)
    | 'u' :: cs => (hexRun? 4 cs).bind fun n => (charOf? n).map (·, 5)
    | 'U' :: cs => (hexRun? 8 cs).bind fun n => (charOf? n).map (·, 9)
    | 'x' :: cs =>
      match (cs.take 2).takeWhile isHexDigit with
      | [] => some ('x', 1)
      | ds => (charOfByte? (valueOf 16 ds)).map (·, ds.length + 1)
    | c :: cs =>
      if '0' ≤ c && c ≤ '7' then
        let ds := c :: (cs.take 2).takeWhile fun x => '0' ≤ x && x ≤ '7'
        (charOfByte? (valueOf 8 ds)).map (·, ds.length)
      else some (c, 1)

/-- The body of a text with escapes, behind its opening quote, and the number of characters up
to and with the closing quote. -/
def escapedText? (fuel : Nat) (cs : List Char) : Option (List Char × Nat) :=
  match fuel, cs with
  | 0, _ => none
  | _, [] => none
  | fuel + 1, '\'' :: '\'' :: r => (escapedText? fuel r).map fun (b, n) => ('\'' :: b, n + 2)
  | _, '\'' :: _ => some ([], 1)
  | fuel + 1, '\\' :: r =>
    (escape? r).bind fun (c, k) =>
      (escapedText? fuel (r.drop k)).map fun (b, n) => (c :: b, n + k + 1)
  | fuel + 1, c :: r => (escapedText? fuel r).map fun (b, n) => (c :: b, n + 1)

/-- The character that `k` hexadecimal digits give, or the flaw with the number of characters
that show it. -/
def codePoint (k : Nat) (cs : List Char) : Except Flaw Char :=
  let ds := (cs.take k).takeWhile isHexDigit
  if ds.length = k then
    match charOf? (valueOf 16 ds) with
    | some c => .ok c
    | none =>
      let shown := String.ofList (Nat.toDigits 16 (valueOf 16 ds))
      .error ⟨"Invalid unicode character: " ++ shown, k⟩
  else
    match cs.drop ds.length with
    | [] =>
      .error ⟨"Unexpected EOF while parsing hex digit in escaped unicode string.", ds.length⟩
    | c :: _ =>
      .error ⟨"Invalid hex digit in escaped unicode string: " ++ c.toString, ds.length + 1⟩

/-- The character that stands behind a backslash in a text with code points, and the number of
characters it is given by. -/
def codePointEscape : List Char → Except Flaw (Char × Nat)
  | '\\' :: _ => .ok ('\\', 1)
  | '+' :: cs =>
    match codePoint 6 cs with
    | .ok c => .ok (c, 7)
    | .error f => .error { f with offset := f.offset + 1 }
  | cs => (codePoint 4 cs).map (·, 4)

/-- The body of a text with code points behind backslashes, from behind its first `n`
characters, and the number of characters up to and with the closing quote. -/
def unicodeText (fuel : Nat) (n : Nat) (cs : List Char) : Except Flaw (List Char × Nat) :=
  match fuel, cs with
  | 0, _ => .ok ([], n)
  | _, [] => .error ⟨"Unterminated unicode encoded string literal", n⟩
  | fuel + 1, '\'' :: '\'' :: r => (unicodeText fuel (n + 2) r).map fun (b, m) => ('\'' :: b, m)
  | _, '\'' :: _ => .ok ([], n + 1)
  | fuel + 1, '\\' :: r =>
    match codePointEscape r with
    | .error f => .error { f with offset := n + 1 + f.offset }
    | .ok (c, k) => (unicodeText fuel (n + 1 + k) (r.drop k)).map fun (b, m) => (c :: b, m)
  | fuel + 1, c :: r => (unicodeText fuel (n + 1) r).map fun (b, m) => (c :: b, m)

/-- The number of characters up to the end of a comment with `depth` more open around it, where
`last` is the character in front. Comments nest, and a character may end one mark and start the
next. -/
def commentLength? (depth : Nat) (last : Char) : List Char → Option Nat
  | [] => none
  | c :: cs =>
    if last = '/' ∧ c = '*' then (commentLength? (depth + 1) c cs).map (· + 1)
    else if last = '*' ∧ c = '/' then
      match depth with
      | 0 => some 1
      | d + 1 => (commentLength? d c cs).map (· + 1)
    else (commentLength? depth c cs).map (· + 1)

/-- The body of a text between double dollar signs, from behind the opening ones, and the number
of characters up to and with the closing ones; `pending` behind a dollar sign. -/
def dollarText? (pending : Bool) : List Char → Option (List Char × Nat)
  | [] => none
  | c :: cs =>
    if pending then
      if c = '$' then some ([], 1)
      else (dollarText? false cs).map fun (b, n) => ('$' :: c :: b, n + 1)
    else if c = '$' then (dollarText? true cs).map fun (b, n) => (b, n + 1)
    else (dollarText? false cs).map fun (b, n) => (c :: b, n + 1)

/-- The number of characters up to and with the closing tag of a text. The tag is looked for
behind each dollar sign, and a character that differs from it is passed over, also where it is a
dollar sign; `left` is what is still to come of a tag that has started. -/
def taggedLength? (tag : List Char) : Option (List Char) → List Char → Option Nat
  | _, [] => none
  | none, c :: cs => (taggedLength? tag (if c = '$' then some tag else none) cs).map (· + 1)
  | some [], c :: cs => if c = '$' then some 1 else (taggedLength? tag none cs).map (· + 1)
  | some (t :: left), c :: cs =>
    (taggedLength? tag (if c = t then some left else none) cs).map (· + 1)

/-- The exponent behind a number, if there is one. -/
def exponentPart : List Char → List Char
  | e :: cs =>
    if e = 'e' ∨ e = 'E' then
      let sign := cs.takeWhile fun c => c = '+' || c = '-'
      let sign := sign.take 1
      match (cs.drop sign.length).takeWhile isAsciiDigit with
      | [] => []
      | ds => e :: (sign ++ ds)
    else []
  | [] => []

/-- A number, or a single point. -/
def scanNumber (cs : List Char) : Lexeme :=
  let whole := cs.takeWhile isAsciiDigit
  let r := cs.drop whole.length
  if whole = ['0'] ∧ r.head? = some 'x' then
    let ds := (r.drop 1).takeWhile isHexDigit
    ⟨2 + ds.length, some (.text .hexadecimal (String.ofList ds))⟩
  else
    let point := if r.head? = some '.' then ['.'] else []
    let part := (r.drop point.length).takeWhile isAsciiDigit
    let plain := whole ++ point ++ part
    if plain = ['.'] then ⟨1, some (.symbol ".")⟩
    else
      let digits := plain ++ exponentPart (cs.drop plain.length)
      let long := (cs.drop digits.length).head? = some 'L'
      ⟨digits.length + (if long then 1 else 0), some (.number (String.ofList digits) long)⟩

/-- A text in dollar quotes, or a parameter, behind its first dollar sign. -/
def scanDollar (cs : List Char) : Except Flaw Lexeme :=
  let tag := cs.takeWhile fun c => isAlphanumeric c || c == '_'
  let text (body : List Char) : Token := .text (.dollar (String.ofList tag)) (String.ofList body)
  match tag, cs.drop tag.length with
  | [], '$' :: body =>
    match dollarText? false body with
    | some (b, n) => .ok ⟨n + 2, some (text b)⟩
    | none => .error ⟨"Unterminated dollar-quoted string", cs.length + 1⟩
  | _, '$' :: body =>
    match taggedLength? tag none body with
    | some n => .ok ⟨tag.length + n + 2, some (text (body.take (n - tag.length - 2)))⟩
    | none => .error ⟨"Unterminated dollar-quoted, expected $", cs.length + 1⟩
  | _, _ => .ok ⟨tag.length + 1, some (.parameter (String.ofList ('$' :: tag)))⟩

/-- The longest symbol of a list at the front of a text. -/
def scanSymbol? (d : Dialect) (cs : List Char) : List (String × Bool) → Option Lexeme
  | [] => none
  | (s, grows) :: more =>
    match after? s.toList cs with
    | none => scanSymbol? d cs more
    | some r =>
      let tail := if grows then r.takeWhile (extendsOperator d) else []
      some ⟨s.length + tail.length, some
        (if tail.isEmpty then .symbol s else .operator (s ++ String.ofList tail))⟩

/-- What starts with a question mark: in Postgres an operator, which takes the character behind it
whatever it is, and in T-SQL a parameter. -/
def scanQuestion (d : Dialect) (rest : List Char) : Lexeme :=
  match d with
  | .postgres =>
    let spelling :=
      match rest with
      | '|' :: _ => "?|"
      | '&' :: _ => "?&"
      | _ => "?"
    ⟨(rest.take 1).length + 1, some (.symbol spelling)⟩
  | .tsql =>
    let ds := rest.takeWhile isNumeric
    ⟨ds.length + 1, some (.parameter (String.ofList ('?' :: ds)))⟩

/-- A word that starts with `k` given characters. -/
def scanWord (d : Dialect) (k : Nat) (cs : List Char) : Lexeme :=
  let w := cs.take k ++ (cs.drop k).takeWhile (continuesWord d)
  ⟨w.length, some (.bare w)⟩

/-- A quoted text behind `k` characters in front of its opening quote. -/
def scanText (k : Nat) (style : TextStyle) (body : Option (List Char × Nat)) (flaw : String) :
    Except Flaw Lexeme :=
  match body with
  | some (b, n) => .ok ⟨k + 1 + n, some (.text style (String.ofList b))⟩
  | none => .error ⟨flaw, k⟩

/-- A word of T-SQL that starts with `@` or `#`, if one starts here: the character behind the
mark belongs to it whatever it is. -/
def scanMarked? (cs : List Char) : Option Lexeme :=
  match cs with
  | '@' :: '@' :: c :: _ => if c = ' ' then none else some (scanWord .tsql 3 cs)
  | '@' :: '@' :: [] => none
  | '@' :: c :: _ => if c = '>' ∨ c = '?' ∨ c = ' ' then none else some (scanWord .tsql 2 cs)
  | '#' :: c :: _ => if c = '-' ∨ c = '>' ∨ c = ' ' then none else some (scanWord .tsql 2 cs)
  | _ => none

/-- The lexeme at the front of a text that is neither blank, quoted nor a number. -/
def scanOther (d : Dialect) (cs : List Char) (c : Char) (rest : List Char) :
    Except Flaw Lexeme :=
  match if d = .tsql then scanMarked? cs else none with
  | some l => .ok l
  | none =>
    match scanSymbol? d cs symbols with
    | some l => .ok l
    | none =>
      if c = '?' then .ok (scanQuestion d rest)
      else if startsWord d c then .ok (scanWord d 1 cs)
      else if c = '$' then scanDollar rest
      else .ok ⟨1, some (.symbol c.toString)⟩

/-- The lexeme at the front of a text that starts with the character `c`. -/
def scan (d : Dialect) (c : Char) (rest : List Char) : Except Flaw Lexeme :=
  let unclosed := "Unterminated string literal"
  match c, rest with
  | '-', '-' :: r => .ok ⟨2 + (r.takeWhile (· ≠ '\n')).length, none⟩
  | '/', '*' :: r =>
    match commentLength? 0 ' ' r with
    | some n => .ok ⟨n + 2, none⟩
    | none => .error ⟨"Unexpected EOF while in a multi-line comment", r.length + 2⟩
  | 'n', '\'' :: r | 'N', '\'' :: r => scanText 1 .national (slashQuotation? r) unclosed
  | 'e', '\'' :: r | 'E', '\'' :: r =>
    (scanText 1 .escaped (escapedText? (r.length + 1) r) "Unterminated encoded string literal"
      ).mapError fun f => { f with offset := 0 }
  | 'x', '\'' :: r | 'X', '\'' :: r => scanText 1 .hexadecimal (slashQuotation? r) unclosed
  | '\'', r => scanText 0 .plain (quotation? '\'' r) unclosed
  | _, _ =>
    if isBlank c then .ok ⟨1, none⟩
    else if (c = '"' || (d == .tsql && c = '[')) then
      match quotation? (closingQuote c) rest with
      | some (b, n) => .ok ⟨n + 1, some (.word (String.ofList b) (some c) none)⟩
      | none =>
        .error ⟨"Expected close delimiter '" ++ (closingQuote c).toString ++ "' before EOF.", 0⟩
    else if isAsciiDigit c || c == '.' then .ok (scanNumber (c :: rest))
    else
      match d, c, rest with
      | .postgres, 'u', '&' :: '\'' :: r | .postgres, 'U', '&' :: '\'' :: r =>
        (unicodeText (r.length + 1) 3 r).map fun (b, n) =>
          ⟨n, some (.text .unicode (String.ofList b))⟩
      | _, _, _ => scanOther d (c :: rest) c rest

/-- The tokens of a text that starts at the place `p`; `fuel` is at least its length. -/
def tokensFrom (d : Dialect) (fuel : Nat) (p : Place) (cs : List Char) :
    Except (String × Place) (List Placed) :=
  match fuel, cs with
  | 0, _ => .ok []
  | _, [] => .ok []
  | fuel + 1, c :: rest =>
    match scan d c rest with
    | .error f => .error (f.reason, ((c :: rest).take f.offset).foldl Place.after p)
    | .ok l =>
      let q := ((c :: rest).take l.length).foldl Place.after p
      match tokensFrom d fuel q ((c :: rest).drop l.length) with
      | .error e => .error e
      | .ok ts =>
        match l.token with
        | some t => .ok (⟨t, p⟩ :: ts)
        | none => .ok ts

/-- The tokens of a text, without white space and comments. -/
def tokens (d : Dialect) (cs : List Char) : Except (String × Place) (List Placed) :=
  tokensFrom d cs.length ⟨1, 1⟩ cs

end Sql
end SchemaMap
