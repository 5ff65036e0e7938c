/-
# Scalars of YAML

Scalars are plain, quoted or blocks of lines. Line breaks inside a plain or quoted scalar are
folded: one break becomes a blank, and of several the first is dropped.

Key definitions: `Yaml.Cursor`, `Yaml.Scalar`, `Yaml.plain`, `Yaml.singleQuoted`,
`Yaml.doubleQuoted`, `Yaml.block`.
-/
import SchemaMap.Text.Basic

namespace SchemaMap
namespace Yaml

/-- Whether a character ends a line. Returns are line breaks already. -/
def isBreak (c : Char) : Bool :=
  c == '\n' || c == '\u2028' || c == '\u2029'

/-- What is left of a text, the place in it, and whether a key may start there. -/
structure Cursor where
  rest : List Char
  line : Nat := 0
  column : Nat := 0
  /-- The number of bytes in front of the place. -/
  offset : Nat := 0
  fresh : Bool := true
deriving Repr, Inhabited

namespace Cursor

/-- The cursor behind the first `n` characters. -/
def advance : Nat → Cursor → Cursor
  | 0, s => s
  | n + 1, s =>
    match s.rest with
    | [] => s
    | c :: cs =>
      let s := { s with rest := cs, offset := s.offset + c.utf8Size }
      if isBreak c then advance n { s with line := s.line + 1, column := 0 }
      else advance n { s with column := s.column + 1 }

end Cursor

/-- A scalar: its text, and whether it is plain. -/
structure Scalar where
  text : List Char
  isPlain : Bool
deriving DecidableEq, Repr, Inhabited

/-- Whether a character is a blank or a tab. -/
def isSpace (c : Char) : Bool :=
  c == ' ' || c == '\t'

/-- Whether a line break or the end of the text is next. -/
def breakNext : List Char → Bool
  | [] => true
  | c :: _ => isBreak c

/-- Whether white space or the end of the text is next. -/
def blankNext : List Char → Bool
  | [] => true
  | c :: _ => isSpace c || isBreak c

/-- Whether a line with a marker of the document starts here. -/
def atMarker (s : Cursor) : Bool :=
  s.column == 0 &&
    match s.rest with
    | '-' :: '-' :: '-' :: cs | '.' :: '.' :: '.' :: cs => blankNext cs
    | _ => false

/-- The characters that have a meaning of their own inside brackets. -/
def isBracketMark (c : Char) : Bool :=
  c == ',' || c == '[' || c == ']' || c == '\x7b' || c == '\x7d'

/-- The text of line breaks: a first break is dropped, and stands for a blank if it is alone. -/
def folded : List Char → List Char
  | ['\n'] => [' ']
  | '\n' :: more => more
  | breaks => breaks

/-- White space inside a scalar: the blanks if it is on one line, else the line breaks. -/
structure Gap where
  blanks : List Char
  breaks : List Char
  behind : Cursor

/-- The white space at a cursor, behind blanks and breaks that are given from the last on. -/
def gapFrom (blanks breaks : List Char) : Nat → Cursor → Gap
  | 0, s => ⟨blanks.reverse, breaks.reverse, s⟩
  | fuel + 1, s =>
    match s.rest with
    | c :: _ =>
      if isBreak c then gapFrom [] (c :: breaks) fuel (s.advance 1)
      else if isSpace c then
        gapFrom (if breaks.isEmpty then c :: blanks else []) breaks fuel (s.advance 1)
      else ⟨blanks.reverse, breaks.reverse, s⟩
    | [] => ⟨blanks.reverse, breaks.reverse, s⟩

/-- The white space at a cursor. -/
def gapAt (s : Cursor) : Gap :=
  gapFrom [] [] s.rest.length s

/-- The text that a gap stands for. -/
def Gap.text (g : Gap) : List Char :=
  if g.breaks.isEmpty then g.blanks else folded g.breaks

/-- Whether the white space at a cursor has a tab in front of the column `indent` of a further
line. -/
def hasStrayTab (indent : Nat) : Bool → Nat → Cursor → Bool
  | _, 0, _ => false
  | newLine, fuel + 1, s =>
    match s.rest with
    | c :: _ =>
      if isBreak c then hasStrayTab indent true fuel (s.advance 1)
      else if isSpace c then
        (newLine && c == '\t' && s.column < indent)
          || hasStrayTab indent newLine fuel (s.advance 1)
      else false
    | [] => false

/-! ## Plain scalars -/

/-- Whether a plain scalar ends in front of these characters. -/
def endsPlain (inBrackets : Bool) : List Char → Bool
  | [] => true
  | c :: cs =>
    isSpace c || isBreak c || (c == ':' && blankNext cs) || (inBrackets && isBracketMark c)

/-- The characters of a plain scalar up to white space or its end. Inside brackets a colon may
not stand in front of a bracket, a comma or a question mark. -/
def plainRun? (inBrackets : Bool) : List Char → Option (List Char)
  | [] => some []
  | c :: cs =>
    let strayColon :=
      c == ':' &&
        match cs with
        | d :: _ => isBracketMark d || d == '?'
        | [] => false
    if inBrackets && strayColon then none
    else if endsPlain inBrackets (c :: cs) then some []
    else (plainRun? inBrackets cs).map (c :: ·)

/-- A plain scalar from one of its words on, behind `text`. Outside of brackets its further lines
start at the column `indent` or behind. -/
def plainFrom (inBrackets : Bool) (indent : Nat) : Nat → List Char → Cursor →
    Option (Scalar × Cursor)
  | 0, _, _ => none
  | fuel + 1, text, s => do
    let run ← plainRun? inBrackets s.rest
    let text := text ++ run
    let s := s.advance run.length
    let g := gapAt s
    guard !(hasStrayTab indent false s.rest.length s)
    let isBroken := !g.breaks.isEmpty
    let next := g.behind
    let goesOn ←
      if (g.blanks.isEmpty && !isBroken) || atMarker next || next.rest.head? == some '#'
          || (isBroken && !inBrackets && next.column < indent) then some false
      else (plainRun? inBrackets next.rest).map fun more => !more.isEmpty
    if goesOn then plainFrom inBrackets indent fuel (text ++ g.text) next
    else return (⟨text, true⟩, { next with fresh := isBroken })

/-- A plain scalar. -/
def plain (inBrackets : Bool) (indent : Nat) (s : Cursor) : Option (Scalar × Cursor) :=
  plainFrom inBrackets indent (s.rest.length + 1) [] s

/-! ## Quoted scalars -/

/-- White space inside quotes; a marker of the document may not stand behind it. -/
def quotedGap? (s : Cursor) : Option Gap :=
  let g := gapAt s
  if !g.breaks.isEmpty && atMarker g.behind then none else some g

/-- A scalar in single quotes, behind the opening one; `seen` is its text from the last
character on. -/
def singleQuotedFrom : Nat → List Char → Cursor → Option (Scalar × Cursor)
  | 0, _, _ => none
  | fuel + 1, seen, s =>
    match s.rest with
    | [] => none
    | '\'' :: '\'' :: _ => singleQuotedFrom fuel ('\'' :: seen) (s.advance 2)
    | '\'' :: _ => some (⟨seen.reverse, false⟩, { s.advance 1 with fresh := false })
    | c :: _ =>
      if isSpace c || isBreak c then
        (quotedGap? s).bind fun g => singleQuotedFrom fuel (g.text.reverse ++ seen) g.behind
      else singleQuotedFrom fuel (c :: seen) (s.advance 1)

/-- A scalar in single quotes. -/
def singleQuoted (s : Cursor) : Option (Scalar × Cursor) :=
  singleQuotedFrom (s.rest.length + 1) [] (s.advance 1)

/-- The characters that stand for one other character behind a backslash. -/
def shortEscapes : List (Char × Char) :=
  [('0', '\x00'), ('a', '\x07'), ('b', '\x08'), ('t', '\t'), ('\t', '\t'), ('n', '\n'),
   ('v', '\x0b'), ('f', '\x0c'), ('r', '\r'), ('e', '\x1b'), (' ', ' '), ('"', '"'), ('/', '/'),
   ('\\', '\\'), ('N', '\u0085'), ('_', '\u00a0'), ('L', '\u2028'), ('P', '\u2029')]

/-- The numbers of digits of the escapes by number. -/
def numberEscapes : List (Char × Nat) :=
  [('x', 2), ('u', 4), ('U', 8)]

/-- The value of hexadecimal digits. -/
def hexValue (cs : List Char) : Nat :=
  cs.foldl (fun n c => 16 * n + digit c) 0
where
  /-- The value of a hexadecimal digit. -/
  digit (c : Char) : Nat :=
    if Text.isAsciiDigit c then c.toNat - '0'.toNat
    else if 'a' ≤ c then c.toNat - 'a'.toNat + 10
    else c.toNat - 'A'.toNat + 10

/-- The character of an escape behind its backslash, with the number of its characters. -/
def escape? : List Char → Option (Char × Nat)
  | [] => none
  | c :: cs =>
    match shortEscapes.lookup c, numberEscapes.lookup c with
    | some d, _ => some (d, 1)
    | none, some n =>
      let ds := cs.take n
      let v := hexValue ds
      if ds.length = n && ds.all Text.isHexDigit && Nat.isValidChar v then
        some (Char.ofNat v, n + 1)
      else none
    | none, none => none

/-- A scalar in double quotes, behind the opening one; `seen` is its text from the last
character on. A line break behind a backslash stands for nothing. -/
def doubleQuotedFrom : Nat → List Char → Cursor → Option (Scalar × Cursor)
  | 0, _, _ => none
  | fuel + 1, seen, s =>
    match s.rest with
    | [] => none
    | '"' :: _ => some (⟨seen.reverse, false⟩, { s.advance 1 with fresh := false })
    | '\\' :: cs =>
      if breakNext cs then
        (quotedGap? (s.advance 1)).bind fun g =>
          doubleQuotedFrom fuel ((g.breaks.drop 1).reverse ++ seen) g.behind
      else
        (escape? cs).bind fun (c, n) => doubleQuotedFrom fuel (c :: seen) (s.advance (n + 1))
    | c :: _ =>
      if isSpace c || isBreak c then
        (quotedGap? s).bind fun g => doubleQuotedFrom fuel (g.text.reverse ++ seen) g.behind
      else doubleQuotedFrom fuel (c :: seen) (s.advance 1)

/-- A scalar in double quotes. -/
def doubleQuoted (s : Cursor) : Option (Scalar × Cursor) :=
  doubleQuotedFrom (s.rest.length + 1) [] (s.advance 1)

/-! ## Blocks of lines -/

/-- What is done with the line breaks at the end of a block. -/
inductive Chomp where
  | strip
  | clip
  | keep
deriving DecidableEq, Repr, Inhabited

/-- The marks behind the sign of a block: an indentation and what is done at its end. -/
def header? : List Char → Option (Option Nat × Chomp × Nat)
  | cs =>
    let chompOf (c : Char) : Option Chomp :=
      if c = '+' then some .keep else if c = '-' then some .strip else none
    let indentOf (c : Char) : Option Nat :=
      if Text.isAsciiDigit c then some (c.toNat - '0'.toNat) else none
    match cs with
    | a :: b :: _ =>
      match chompOf a, indentOf b, indentOf a, chompOf b with
      | some k, some n, _, _ | _, _, some n, some k => if n = 0 then none else some (some n, k, 2)
      | some k, none, _, _ => some (none, k, 1)
      | none, _, some n, none => if n = 0 then none else some (some n, .clip, 1)
      | none, _, none, _ => some (none, .clip, 0)
    | [a] =>
      match chompOf a, indentOf a with
      | some k, _ => some (none, k, 1)
      | none, some n => if n = 0 then none else some (some n, .clip, 1)
      | none, none => some (none, .clip, 0)
    | [] => some (none, .clip, 0)

/-- Empty lines in front of a line of a block: their breaks from the last on, the largest
indentation seen, and what follows. While the indentation is not known, all blanks count. -/
def emptyLines (indent : Option Nat) : Nat → List Char → Nat → Cursor →
    Option (List Char × Nat × Cursor)
  | 0, _, _, _ => none
  | fuel + 1, breaks, widest, s =>
    let blanks := (s.rest.takeWhile (· == ' ')).length
    let s := s.advance ((indent.map fun n => min blanks (n - s.column)).getD blanks)
    let widest := max widest s.column
    match s.rest with
    | c :: _ =>
      if c = '\t' && (indent.all fun n => s.column < n) then none
      else if isBreak c then emptyLines indent fuel (c :: breaks) widest (s.advance 1)
      else some (breaks, widest, s)
    | [] => some (breaks, widest, s)

/-- What has been read of a block of lines. -/
structure Lines where
  text : List Char := []
  /-- The break behind the last line. -/
  lastBreak : List Char := []
  /-- The empty lines behind that. -/
  empty : List Char := []
  /-- Whether the last line starts with white space. -/
  isIndented : Bool := false

/-- The lines of a block from the column `indent` on. In a folded block, the break between two
lines that do not start with white space stands for a blank. -/
def blockLines (isLiteral : Bool) (indent : Nat) : Nat → Lines → Cursor →
    Option (Lines × Cursor)
  | 0, _, _ => none
  | fuel + 1, seen, s =>
    if s.column ≠ indent || s.rest.isEmpty then some (seen, s)
    else
      let isIndented := (s.rest.head?.map isSpace).getD false
      let joint :=
        if !isLiteral && seen.lastBreak == ['\n'] && !seen.isIndented && !isIndented then
          if seen.empty.isEmpty then [' '] else []
        else seen.lastBreak
      let line := s.rest.takeWhile fun c => !isBreak c
      let s := s.advance line.length
      let text := seen.text ++ joint ++ seen.empty ++ line
      let lastBreak := s.rest.take 1
      (emptyLines (some indent) (s.rest.length + 1) [] 0 (s.advance 1)).bind
        fun (breaks, _, s) =>
          blockLines isLiteral indent fuel ⟨text, lastBreak, breaks.reverse, isIndented⟩ s

/-- A block of lines from its sign on. Its lines start behind the column of the block around
it, which is counted from one. -/
def block (around : Nat) (s : Cursor) : Option (Scalar × Cursor) := do
  let isLiteral := s.rest.head? == some '|'
  let (given, chomp, n) ← header? (s.rest.drop 1)
  let s := s.advance (n + 1)
  let s := s.advance (s.rest.takeWhile isSpace).length
  let s :=
    if s.rest.head? == some '#' then s.advance (s.rest.takeWhile fun c => !isBreak c).length
    else s
  guard (breakNext s.rest)
  let s := s.advance 1
  let known := given.map fun n => (around - 1) + n
  let (breaks, widest, s) ← emptyLines known (s.rest.length + 1) [] 0 s
  let indent := known.getD (max widest (max around 1))
  let (lines, s) ←
    blockLines isLiteral indent (s.rest.length + 2) { empty := breaks.reverse } s
  let text :=
    match chomp with
    | .strip => lines.text
    | .clip => lines.text ++ lines.lastBreak
    | .keep => lines.text ++ lines.lastBreak ++ lines.empty
  return (⟨text, false⟩, { s with fresh := true })

end Yaml
end SchemaMap
