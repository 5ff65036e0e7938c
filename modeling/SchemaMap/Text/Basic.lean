/-
# Lines, words and fields of a text

A text is a list of characters. This module cuts texts at line feeds, at white space
and at single characters, trims them, and replaces parts of them.

Key definitions: `Text.trim`, `Text.lines`, `Text.words`, `Text.splitOn`,
`Text.undouble`, `Text.after?`, `Text.find?`.
-/
import SchemaMap.Text.Class

namespace SchemaMap
namespace Text

/-- The text without the characters of the class `p` at its end. -/
def dropEndWhile (p : Char → Bool) : List Char → List Char
  | [] => []
  | c :: cs =>
    match dropEndWhile p cs with
    | [] => if p c then [] else [c]
    | d :: ds => c :: d :: ds

/-- The text without the white space at its two ends. -/
def trim (cs : List Char) : List Char :=
  dropEndWhile isBlank (cs.dropWhile isBlank)

/-- Whether a text holds nothing but white space. -/
def isBlankText (cs : List Char) : Bool :=
  cs.all isBlank

/-- The parts of a text between the occurrences of the character `sep`; never none. -/
def splitOn (sep : Char) : List Char → List (List Char)
  | [] => [[]]
  | c :: cs =>
    match splitOn sep cs with
    | [] => [[c]]
    | part :: parts => if c = sep then [] :: part :: parts else (c :: part) :: parts

/-- One carriage return less at the end, if there is one. -/
def dropReturn : List Char → List Char
  | [] => []
  | ['\r'] => []
  | c :: cs => c :: dropReturn cs

/-- The lines of a text, each without its line feed and one carriage return before that;
what follows the last line feed is a line only if it is not empty. -/
def lines (cs : List Char) : List (List Char) :=
  ended (splitOn '\n' cs)
where
  ended : List (List Char) → List (List Char)
    | [] => []
    | [last] => if last.isEmpty then [] else [last]
    | line :: more => dropReturn line :: ended more

/-- The maximal runs of characters outside the class `p`, in order. -/
def runs (p : Char → Bool) : List Char → List (List Char)
  | [] => []
  | c :: cs =>
    if p c then runs p cs
    else
      match cs with
      | [] => [[c]]
      | d :: _ =>
        if p d then [c] :: runs p cs
        else
          match runs p cs with
          | [] => [[c]]
          | w :: ws => (c :: w) :: ws

/-- The words of a text: its maximal runs of characters other than white space. -/
def words (cs : List Char) : List (List Char) :=
  runs isBlank cs

/-- Each pair of `c` becomes a single one, read from the left. -/
def undouble (c : Char) : List Char → List Char
  | a :: b :: cs => if a = c ∧ b = c then c :: undouble c cs else a :: undouble c (b :: cs)
  | cs => cs

/-- What follows `head` in a text that starts with it. -/
def after? : (head : List Char) → List Char → Option (List Char)
  | [], cs => some cs
  | _ :: _, [] => none
  | h :: hs, c :: cs => if h = c then after? hs cs else none

/-- What follows the first occurrence of `part` in a text, and what is from it on. -/
def find? (part : List Char) : List Char → Option (List Char)
  | [] => if part.isEmpty then some [] else none
  | c :: cs => if (after? part (c :: cs)).isSome then some (c :: cs) else find? part cs

/-- Whether two texts are equal when the case of ASCII letters is ignored. -/
def sameLetters (a b : List Char) : Bool :=
  a.map asciiUpper == b.map asciiUpper

/-- The decimal digits of a number. -/
def digits (n : Nat) : String :=
  String.ofList (Nat.toDigits 10 n)

/-- The value of decimal digits. -/
def valueOfDigits (cs : List Char) : Nat :=
  cs.foldl (fun n c => 10 * n + (c.toNat - '0'.toNat)) 0

/-- The parts joined with `sep` between each two. -/
def join (sep : String) (parts : List String) : String :=
  String.intercalate sep parts

end Text
end SchemaMap
