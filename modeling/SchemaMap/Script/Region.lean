/-
# Regions of a script

Every character of a script is code, part of a quotation, or part of a comment. Quotations
are those of all dialects together: single, double and back quotes, square brackets and
dollar tags; a quotation ends at the next closing mark, so a doubled mark reads as two
quotations side by side. Comments run from two dashes to the end of the line, or between
`/*` and `*/`; they do not nest. A quotation or comment that is not closed runs to the end.

Key definitions: `Region`, `Script.dollarTag?`, `Script.mark`, `Script.tagged`,
`Script.withoutComments`.
-/
import SchemaMap.Text.Pattern

namespace SchemaMap

/-- What a character of a script is part of. -/
inductive Region where
  | code
  | quoted
  | comment
deriving DecidableEq, Repr, Inhabited

namespace Script

/-- A script whose characters carry their regions. -/
abbrev Tagged := List (Char × Region)

/-- Where the reader of a script stands. -/
inductive Mark where
  /-- In code, behind the given character. -/
  | code (previous : Option Char)
  /-- In a region that goes on for `opening` characters at least and then up to the first
  occurrence of `stop`, which is part of it. -/
  | inside (region : Region) (opening : Nat) (stop : List Char)
  /-- In a region that ends after `left` more characters and one. -/
  | closing (region : Region) (left : Nat)
  /-- In a comment that ends before the next line feed. -/
  | line (opening : Nat)
deriving Repr

/-- Whether a character may stand in a dollar tag, at its start or behind it. -/
def isTagChar (first : Bool) (c : Char) : Bool :=
  c == '_' || Text.isAlphabetic c || (Text.isAsciiDigit c && !first)

/-- The rest of a dollar tag behind its first `$`, with the closing `$`. -/
def tagRest? (first : Bool) : List Char → Option (List Char)
  | [] => none
  | '$' :: _ => some ['$']
  | c :: cs => if isTagChar first c then (tagRest? false cs).map (c :: ·) else none

/-- Whether a `$` behind this character goes on with a word. -/
def continuesWord (c : Char) : Bool :=
  Text.isAlphanumeric c || c == '_' || c == '$'

/-- The dollar tag that starts with a `$` in front of `rest`, unless the `$` goes on with a
word. -/
def dollarTag? (previous : Option Char) (rest : List Char) : Option (List Char) :=
  if previous.any continuesWord then none else (tagRest? true rest).map ('$' :: ·)

/-- The region of the character `c` in code, in front of `rest`, and where the reader stands
behind it. -/
def opened (previous : Option Char) (c : Char) (rest : List Char) : Region × Mark :=
  match c, rest with
  | '-', '-' :: _ => (.comment, .line 1)
  | '/', '*' :: _ => (.comment, .inside .comment 1 ['*', '/'])
  | '\'', _ => (.quoted, .inside .quoted 0 ['\''])
  | '"', _ => (.quoted, .inside .quoted 0 ['"'])
  | '`', _ => (.quoted, .inside .quoted 0 ['`'])
  | '[', _ => (.quoted, .inside .quoted 0 [']'])
  | '$', _ =>
    match dollarTag? previous rest with
    | some tag => (.quoted, .inside .quoted (tag.length - 1) tag)
    | none => (.code, .code (some c))
  | _, _ => (.code, .code (some c))

/-- The region of one character, in front of `rest`, and where the reader stands behind it. -/
def step (m : Mark) (c : Char) (rest : List Char) : Region × Mark :=
  match m with
  | .code previous => opened previous c rest
  | .inside region (n + 1) stop => (region, .inside region n stop)
  | .inside region 0 stop =>
    match Text.after? stop (c :: rest) with
    | none => (region, .inside region 0 stop)
    | some _ =>
      match stop.length - 1 with
      | 0 => (region, .code (some c))
      | n + 1 => (region, .closing region n)
  | .closing region 0 => (region, .code (some c))
  | .closing region (n + 1) => (region, .closing region n)
  | .line (n + 1) => (.comment, .line n)
  | .line 0 => if c = '\n' then (.code, .code (some c)) else (.comment, .line 0)

/-- Every character of a text with its region, for a reader that stands at `m`. -/
def mark (m : Mark) : List Char → Tagged
  | [] => []
  | c :: cs => (c, (step m c cs).1) :: mark (step m c cs).2 cs

/-- Every character of a script with its region. -/
def tagged (cs : List Char) : Tagged :=
  mark (.code none) cs

/-- The characters without their regions. -/
def chars (t : Tagged) : List Char :=
  t.map (·.1)

/-- A character is blanked out in a comment, unless it ends the line. -/
def blanked (x : Char × Region) : Char :=
  if x.2 = .comment ∧ x.1 ≠ '\n' then ' ' else x.1

/-- A script with its comments blanked out, line by line as long as before. -/
def withoutComments (cs : List Char) : List Char :=
  (tagged cs).map blanked

end Script
end SchemaMap
