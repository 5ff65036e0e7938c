/-
# Batches of a T-SQL script

A T-SQL script is cut into batches by lines that hold only `GO`, perhaps with repeat counts
and semicolons. A batch starts at its first line that is not blank. Where a batch has to be
cut further, it is cut into pieces at the lines that begin with a statement keyword.

Key definitions: `Script.isSeparator`, `Script.batches`, `Script.beginsStatement`,
`Script.pieces`.
-/
import SchemaMap.Script.Statement

namespace SchemaMap
namespace Script

open Text

/-- Whether a line ends a batch: the word `GO` with nothing behind it but numbers and closing
semicolons. -/
def isSeparator (line : List Char) : Bool :=
  match words (dropEndWhile (· == ';') (trim line)) with
  | [] => false
  | w :: ws => sameLetters w ['G', 'O'] && ws.all fun n => n.all isAsciiDigit

/-- The batch that holds `text`, latest character first, from the line `start` on. -/
def closeBatch : Option (Nat × List Char) → List Chunk
  | none => []
  | some (start, text) => [⟨start, text.reverse⟩]

/-- A line behind the text of a batch, latest character first. -/
def addLine (text line : List Char) : List Char :=
  '\n' :: (line.reverse ++ text)

/-- The batches of the lines from the line `n` on, where `current` is the one begun. -/
def batchesFrom (n : Nat) (current : Option (Nat × List Char)) : List (List Char) → List Chunk
  | [] => closeBatch current
  | line :: more =>
    if isSeparator line then closeBatch current ++ batchesFrom (n + 1) none more
    else
      match current with
      | some (start, text) => batchesFrom (n + 1) (some (start, addLine text line)) more
      | none =>
        if isBlankText line then batchesFrom (n + 1) none more
        else batchesFrom (n + 1) (some (n, addLine [] line)) more

/-- The batches of a script in order; empty ones are left out. -/
def batches (cs : List Char) : List Chunk :=
  batchesFrom 1 none (lines cs)

/-- The words that begin a statement on a line of its own. -/
def statementWords : List String :=
  ["CREATE", "ALTER", "DROP", "SET", "USE", "INSERT", "EXEC", "EXECUTE", "GRANT", "PRINT"]

/-- Whether the first word of a line begins a statement. -/
def beginsStatement (line : List Char) : Bool :=
  match words line with
  | [] => false
  | w :: _ => statementWords.any fun k => sameLetters k.toList w

/-- A piece, unless it is blank. -/
def closePiece (start : Nat) (text : List Char) : List Chunk :=
  if isBlankText text then [] else [⟨start, text.reverse⟩]

/-- The pieces of the lines from the line `n` on, where `text`, latest character first, has
been begun on the line `start`. -/
def piecesFrom (n start : Nat) (text : List Char) : List (List Char) → List Chunk
  | [] => closePiece start text
  | line :: more =>
    if isBlankText text then piecesFrom (n + 1) n (addLine text line) more
    else if beginsStatement line then
      closePiece start text ++ piecesFrom (n + 1) n (addLine [] line) more
    else piecesFrom (n + 1) start (addLine text line) more

/-- The pieces of a batch in order. -/
def pieces (batch : Chunk) : List Chunk :=
  piecesFrom batch.line batch.line [] (lines batch.text)

end Script
end SchemaMap
