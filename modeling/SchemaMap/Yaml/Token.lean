/-
# Tokens of YAML

Tokens make the structure of a text explicit: where a collection is indented, it is opened by a
token in front of its first line and closed by one behind its last. That a scalar is a key is
known only when its colon has been seen, so places where a key may have started are kept.

Key definitions: `Yaml.Token`, `Yaml.Scan`, `Yaml.Scan.step?`, `Yaml.tokens?`.
-/
import SchemaMap.Text.Pattern
import SchemaMap.Yaml.Scalar

namespace SchemaMap
namespace Yaml

/-- A token. -/
inductive Token where
  | scalar (s : Scalar)
  | anchor (name : List Char)
  | reference (name : List Char)
  /-- A tag by its handle, which is empty where it has none. -/
  | tag (handle : List Char)
  /-- A collection starts that is shown by indentation. -/
  | openSequence
  | openMapping
  /-- A collection ends that is shown by indentation. -/
  | close
  | entry
  | key
  | value
  | leftBracket
  | rightBracket
  | leftBrace
  | rightBrace
  | comma
  /-- A line that says something of the document: its version, or a handle for tags. -/
  | directive (handle : Option (List Char))
  | documentStart
  | documentEnd
deriving DecidableEq, Repr, Inhabited

/-- A place where a key may have started. -/
structure Start where
  /-- The number of tokens in front of it. -/
  index : Nat
  line : Nat
  column : Nat
  /-- The number of bytes in front of it. -/
  offset : Nat
  /-- Whether nothing but a key can stand there. -/
  isRequired : Bool
deriving Repr, Inhabited

/-- What has been read of a text. -/
structure Scan where
  cursor : Cursor
  /-- The tokens, the last one first. -/
  tokens : List Token := []
  /-- The number of tokens. -/
  count : Nat := 0
  /-- The columns of the collections around the cursor that are shown by indentation, the
  innermost first. -/
  columns : List Nat := []
  /-- The last place where a key may have started, for each bracket around the cursor and for
  the text outside, the innermost first. -/
  starts : List (Option Start) := [none]
deriving Repr, Inhabited

/-- Whether a character may stand in a name. -/
def isNameChar (c : Char) : Bool :=
  Text.isAsciiLetter c || Text.isAsciiDigit c || c == '_' || c == '-'

namespace Scan

/-- Whether the cursor is inside brackets. -/
def inBrackets (s : Scan) : Bool :=
  1 < s.starts.length

/-- The column of the innermost collection that is shown by indentation, counted from one. -/
def around (s : Scan) : Nat :=
  match s.columns with
  | c :: _ => c + 1
  | [] => 0

/-- Adds a token behind the first `index` ones. -/
def insert (index : Nat) (t : Token) (s : Scan) : Scan :=
  let behind := s.count - index
  { s with
    tokens := s.tokens.take behind ++ t :: s.tokens.drop behind
    count := s.count + 1 }

/-- Adds a token behind all others. -/
def emit (t : Token) (s : Scan) : Scan :=
  s.insert s.count t

/-- Moves behind characters; `fresh` says whether a key may start there. -/
def skip (n : Nat) (fresh : Bool) (s : Scan) : Scan :=
  { s with cursor := { s.cursor.advance n with fresh } }

/-- Gives up the place where a key may have started; a key that is required must not be
missing. -/
def forget? (s : Scan) : Option Scan :=
  match s.starts with
  | some k :: more => if k.isRequired then none else some { s with starts := none :: more }
  | _ => some s

/-- Keeps the cursor as a place where a key may start. -/
def mark? (s : Scan) : Option Scan :=
  if s.cursor.fresh then
    s.forget?.map fun s =>
      { s with
        starts :=
          some ⟨s.count, s.cursor.line, s.cursor.column, s.cursor.offset,
            !s.inBrackets && s.around == s.cursor.column + 1⟩ :: s.starts.drop 1 }
  else some s

/-- Gives up the places too far in front of the cursor: a key has its colon on its line, and
within 1024 bytes. -/
def expire? (s : Scan) : Option Scan :=
  let isFar (k : Start) : Bool :=
    k.line < s.cursor.line || k.offset + 1024 < s.cursor.offset
  let far := s.starts.filterMap fun k => k.filter isFar
  if far.any (·.isRequired) then none
  else some { s with starts := s.starts.map fun k => k.filter fun k => !isFar k }

/-- Opens a collection at a column that is further in than those around it; its token is put
behind the first `index` ones. -/
def openAt (t : Token) (column index : Nat) (s : Scan) : Scan :=
  if !s.inBrackets && s.around ≤ column then
    { s.insert index t with columns := column :: s.columns }
  else s

/-- Closes the collections that are further in than a column, which is counted from one. -/
def closeTo (around : Nat) (s : Scan) : Scan :=
  if s.inBrackets then s
  else
    let closed := s.columns.takeWhile fun c => around < c + 1
    let s := closed.foldl (fun s _ => s.emit .close) s
    { s with columns := s.columns.drop closed.length }

/-- Skips white space, comments and line breaks. A tab is no white space where a key may start
outside of brackets. A line may start with a mark of the order of bytes. -/
def skipGap : Nat → Scan → Scan
  | 0, s => s
  | fuel + 1, s =>
    match s.cursor.rest with
    | [] => s
    | c :: _ =>
      if c = ' ' || (c = '\t' && (s.inBrackets || !s.cursor.fresh))
          || (c = '\uFEFF' && s.cursor.column = 0) then
        skipGap fuel (s.skip 1 s.cursor.fresh)
      else if c = '#' then
        let comment := s.cursor.rest.takeWhile fun c => !isBreak c
        skipGap fuel (s.skip comment.length s.cursor.fresh)
      else if isBreak c then skipGap fuel (s.skip 1 (s.cursor.fresh || !s.inBrackets))
      else s

/-! ## Lines about the document -/

/-- The handle of a tag, from its first mark on. -/
def handleOf (cs : List Char) : List Char :=
  match cs with
  | '!' :: r =>
    let name := r.takeWhile isNameChar
    if (r.drop name.length).head? = some '!' then '!' :: name ++ ['!'] else '!' :: name
  | _ => []

/-- Whether a character may stand in the name of a tag; commas and brackets only in some. -/
def isTagChar (withBrackets : Bool) (c : Char) : Bool :=
  isNameChar c || ";/?:@&=+$.!~*'()%".toList.contains c
    || (withBrackets && (c == ',' || c == '[' || c == ']'))

/-- The number of bytes behind the first byte of a character. -/
def followers? (byte : Nat) : Option Nat :=
  if byte < 0x80 then some 0
  else if byte / 32 = 6 then some 1
  else if byte / 16 = 14 then some 2
  else if byte / 8 = 30 then some 3
  else none

/-- The number of characters of the name of a tag. A percent sign stands in front of the two
digits of a byte, and the bytes make characters; `pending` of them are missing. -/
def tagLengthFrom? (withBrackets : Bool) (pending : Nat) : List Char → Option Nat
  | '%' :: a :: b :: cs =>
    if Text.isHexDigit a && Text.isHexDigit b then
      let byte := hexValue [a, b]
      let missing? :=
        if pending = 0 then followers? byte
        else if byte / 64 = 2 then some (pending - 1)
        else none
      missing?.bind fun n => (tagLengthFrom? withBrackets n cs).map (· + 3)
    else none
  | c :: cs =>
    if 0 < pending || c = '%' then none
    else if isTagChar withBrackets c then (tagLengthFrom? withBrackets 0 cs).map (· + 1)
    else some 0
  | [] => if pending = 0 then some 0 else none

/-- The number of characters of the name of a tag. -/
def tagLength? (withBrackets : Bool) (cs : List Char) : Option Nat :=
  tagLengthFrom? withBrackets 0 cs

/-- A version is known: one point one, or one point two. -/
def isKnownVersion (cs : List Char) : Bool :=
  let major := cs.takeWhile Text.isAsciiDigit
  let minor := cs.drop (major.length + 1)
  (cs.drop major.length).head? == some '.' && major.length ∈ [1, 2, 3, 4, 5, 6, 7, 8, 9]
    && minor.length ∈ [1, 2, 3, 4, 5, 6, 7, 8, 9] && minor.all Text.isAsciiDigit
    && Text.valueOfDigits major == 1 && Text.valueOfDigits minor ∈ [1, 2]

/-- The words of a line without its comment. -/
def wordsOf (line : List Char) : List (List Char) :=
  let words := (Text.splitOn ' ' (line.map fun c => if c = '\t' then ' ' else c)).filter (· ≠ [])
  words.takeWhile fun w => w.head? ≠ some '#'

/-- A line about the document. -/
def directive? (s : Scan) : Option Scan := do
  let s ← (s.closeTo 0).forget?
  let line := s.cursor.rest.takeWhile fun c => !isBreak c
  let s := s.skip (line.length + 1) false
  match wordsOf (line.drop 1) with
  | ['Y', 'A', 'M', 'L'] :: version :: more =>
    guard (more.isEmpty || version.contains '#')
    guard (isKnownVersion (version.takeWhile (· != '#')) && (line.drop 1).head? == some 'Y')
    return s.emit (.directive none)
  | [['T', 'A', 'G'], handle, name] =>
    guard (handleOf handle == handle && (handle == ['!'] || handle.getLast? == some '!'))
    guard (tagLength? true name == some name.length && (line.drop 1).head? == some 'T')
    return s.emit (.directive (some handle))
  | _ => failure

/-- A marker of the document. -/
def marker? (s : Scan) : Option Scan := do
  let s ← (s.closeTo 0).forget?
  let t := if s.cursor.rest.head? = some '-' then Token.documentStart else .documentEnd
  return (s.skip 3 false).emit t

/-! ## Marks of structure -/

/-- An opening bracket. -/
def openBracket? (t : Token) (s : Scan) : Option Scan := do
  let s ← s.mark?
  return { (s.skip 1 true).emit t with starts := none :: s.starts }

/-- A closing bracket. -/
def closeBracket? (t : Token) (s : Scan) : Option Scan := do
  let s ← s.forget?
  let starts := if s.inBrackets then s.starts.drop 1 else s.starts
  return { (s.skip 1 false).emit t with starts }

/-- A comma inside brackets. -/
def comma? (s : Scan) : Option Scan :=
  s.forget?.map fun s => (s.skip 1 true).emit .comma

/-- The mark of an item. -/
def entry? (s : Scan) : Option Scan := do
  guard (s.inBrackets || s.cursor.fresh)
  let s ← (s.openAt .openSequence s.cursor.column s.count).forget?
  return (s.skip 1 true).emit .entry

/-- The mark of a key. -/
def key? (s : Scan) : Option Scan := do
  guard (s.inBrackets || s.cursor.fresh)
  let s ← (s.openAt .openMapping s.cursor.column s.count).forget?
  return (s.skip 1 !s.inBrackets).emit .key

/-- The mark of a value. What stands in front of it has been the key, if a key may have started
there. -/
def value? (s : Scan) : Option Scan :=
  match s.starts with
  | some k :: more =>
    let s := { s.insert k.index .key with starts := none :: more }
    some (((s.openAt .openMapping k.column k.index).skip 1 false).emit .value)
  | _ => do
    guard (s.inBrackets || s.cursor.fresh)
    let s := s.openAt .openMapping s.cursor.column s.count
    return (s.skip 1 !s.inBrackets).emit .value

/-! ## Nodes -/

/-- An anchor or an alias. -/
def name? (make : List Char → Token) (s : Scan) : Option Scan := do
  let s ← s.mark?
  let name := (s.cursor.rest.drop 1).takeWhile isNameChar
  let behind := s.cursor.rest.drop (name.length + 1)
  guard (!name.isEmpty && (blankNext behind || behind.head?.any "?:,]\x7d%@\x60".toList.contains))
  return (s.skip (name.length + 1) false).emit (make name)

/-- The handle of a tag, and the number of its characters. -/
def tagAt? : List Char → Option (List Char × Nat)
  | '!' :: '<' :: r => do
    let n ← tagLength? true r
    guard (n ≠ 0 && (r.drop n).head? == some '>')
    return ([], n + 3)
  | cs => do
    let handle := handleOf cs
    let n ← tagLength? false (cs.drop handle.length)
    if 1 < handle.length && handle.getLast? == some '!' then
      guard (n ≠ 0)
      return (handle, handle.length + n)
    else return (if handle.length + n = 1 then [] else ['!'], handle.length + n)

/-- A tag. -/
def tag? (s : Scan) : Option Scan := do
  let s ← s.mark?
  let (handle, n) ← tagAt? s.cursor.rest
  let behind := s.cursor.rest.drop n
  guard (blankNext behind || (s.inBrackets && behind.head? == some ','))
  return (s.skip n false).emit (.tag handle)

/-- A scalar that may be a key. -/
def flowScalar? (read : Cursor → Option (Scalar × Cursor)) (s : Scan) : Option Scan := do
  let s ← s.mark?
  let (x, cursor) ← read s.cursor
  return { s with cursor }.emit (.scalar x)

/-- A scalar that is a block of lines. -/
def blockScalar? (s : Scan) : Option Scan := do
  let s ← s.forget?
  let (x, cursor) ← block s.around s.cursor
  return { s with cursor }.emit (.scalar x)

/-- Whether a plain scalar may start with a character, in front of others. -/
def startsPlain (inBrackets : Bool) (c : Char) (cs : List Char) : Bool :=
  if c = '-' then !(cs.head?.any isSpace)
  else if c = '?' || c = ':' then !inBrackets && !blankNext cs
  else !(isSpace c || isBreak c || ",[]\x7b\x7d#&*!|>'\"%@\x60".toList.contains c)

/-- Reads one token. -/
def step? (s : Scan) : Option Scan :=
  match s.cursor.rest with
  | [] => none
  | c :: cs =>
    if s.cursor.column = 0 && c = '%' then s.directive?
    else if atMarker s.cursor then s.marker?
    else if c = '[' then s.openBracket? .leftBracket
    else if c = '\x7b' then s.openBracket? .leftBrace
    else if c = ']' then s.closeBracket? .rightBracket
    else if c = '\x7d' then s.closeBracket? .rightBrace
    else if c = ',' then s.comma?
    else if c = '-' && blankNext cs then s.entry?
    else if c = '?' && (s.inBrackets || blankNext cs) then s.key?
    else if c = ':' && (s.inBrackets || blankNext cs) then s.value?
    else if c = '*' then s.name? .reference
    else if c = '&' then s.name? .anchor
    else if c = '!' then s.tag?
    else if !s.inBrackets && (c = '|' || c = '>') then s.blockScalar?
    else if c = '\'' then s.flowScalar? singleQuoted
    else if c = '"' then s.flowScalar? doubleQuoted
    else if startsPlain s.inBrackets c cs then
      s.flowScalar? (plain s.inBrackets s.around)
    else none

/-- Reads tokens to the end. -/
def run? : Nat → Scan → Option (List Token)
  | 0, _ => none
  | fuel + 1, s =>
    (s.skipGap (s.cursor.rest.length + 1)).expire?.bind fun s =>
      if s.cursor.rest.isEmpty then (s.closeTo 0).forget?.map (·.tokens.reverse)
      else ((s.closeTo (s.cursor.column + 1)).step?).bind (run? fuel)

end Scan

/-- The text with the same break behind each line. -/
def withPlainBreaks : List Char → List Char
  | [] => []
  | '\r' :: '\n' :: cs => '\n' :: withPlainBreaks cs
  | c :: cs => (if c = '\r' || c = '\u0085' then '\n' else c) :: withPlainBreaks cs

/-- Whether a character may stand in a text at all. -/
def isAllowed (c : Char) : Bool :=
  c == '\t' || c == '\n' || c == '\r' || c == '\u0085' || (' ' ≤ c && c ≤ '~')
    || (0xA0 ≤ c.toNat && c.toNat ≤ 0xFFFD) || 0x10000 ≤ c.toNat

/-- The tokens of a text. A mark of the order of bytes in front of it does not count. -/
def tokens? (text : List Char) : Option (List Token) :=
  let text := Text.skipChar '\uFEFF' text
  if text.all isAllowed then
    let text := withPlainBreaks text
    ({ cursor := { rest := text } } : Scan).run? (text.length + 2)
  else none

end Yaml
end SchemaMap
