/-
# Statements of a script

A script is cut at the semicolons that stand in code. A statement starts at its first
character that is neither white space nor in a comment, and knows its line. Inside a
statement, text is cut in the same way at separators outside quotations and parentheses.

Key definitions: `Chunk`, `Script.chunks`, `Script.parts`.
-/
import SchemaMap.Script.Region

namespace SchemaMap

/-- A part of a script with the line it starts on, counted from one. -/
structure Chunk where
  line : Nat
  text : List Char
deriving DecidableEq, Repr, Inhabited

namespace Script

/-- Whether a character ends a statement. -/
def endsStatement (x : Char × Region) : Bool :=
  x.2 == .code && x.1 == ';'

/-- Whether a statement may start at a character. -/
def startsStatement (x : Char × Region) : Bool :=
  x.2 != .comment && !Text.isBlank x.1

/-- The line behind a character on the line `n`. -/
def lineAfter (c : Char) (n : Nat) : Nat :=
  if c = '\n' then n + 1 else n

/-- The statement whose characters, latest first, are `seen`. -/
def closeChunk : Option (Nat × List Char) → List Chunk
  | none => []
  | some (at_, seen) => [⟨at_, seen.reverse⟩]

/-- The statements of a script from the line `line` on, where `current` is the one begun. -/
def chunksFrom (line : Nat) (current : Option (Nat × List Char)) : Tagged → List Chunk
  | [] => closeChunk current
  | x :: more =>
    if endsStatement x then
      closeChunk current ++ chunksFrom (lineAfter x.1 line) none more
    else
      match current with
      | some (at_, seen) => chunksFrom (lineAfter x.1 line) (some (at_, x.1 :: seen)) more
      | none =>
        if startsStatement x then
          chunksFrom (lineAfter x.1 line) (some (line, [x.1])) more
        else chunksFrom (lineAfter x.1 line) none more

/-- The statements of a script in order; empty ones are left out. -/
def chunks (cs : List Char) : List Chunk :=
  chunksFrom 1 none (tagged cs)

/-- The parenthesis depth behind a character. -/
def depthAfter (x : Char × Region) (depth : Nat) : Nat :=
  if x.2 ≠ .code then depth
  else if x.1 = '(' then depth + 1
  else if x.1 = ')' then depth - 1
  else depth

/-- The parts of a text between the separators that stand in code outside parentheses. -/
def cutAt (sep : Char → Bool) (depth : Nat) : Tagged → List (List Char)
  | [] => [[]]
  | x :: more =>
    if x.2 == .code && depth == 0 && x.1 != '(' && x.1 != ')' && sep x.1 then
      [] :: cutAt sep depth more
    else
      match cutAt sep (depthAfter x depth) more with
      | [] => [[x.1]]
      | part :: parts => (x.1 :: part) :: parts

/-- The parts of a text between the separators outside quotations and parentheses, trimmed,
without the empty ones. -/
def parts (sep : Char → Bool) (cs : List Char) : List (List Char) :=
  ((cutAt sep 0 (tagged cs)).map Text.trim).filter fun part => !part.isEmpty

end Script
end SchemaMap
