/-
# Matching at the front of a text

Small patterns that read from the front of a text and give what is left: required and
optional white space, words in which case is ignored, runs of word characters, and one
character. A pattern that does not match gives nothing.

Key definitions: `Text.blanks?`, `Text.keyword?`, `Text.keywords?`, `Text.orSkip`,
`Text.wordRun?`, `Text.char?`.
-/
import SchemaMap.Text.Basic

namespace SchemaMap
namespace Text

/-- What is left after the white space at the front. -/
def skipBlanks (cs : List Char) : List Char :=
  cs.dropWhile isBlank

/-- At least one character of white space, and all that follows it. -/
def blanks? : List Char → Option (List Char)
  | [] => none
  | c :: cs => if isBlank c then some (skipBlanks cs) else none

/-- The letters of `word`, given in upper case, each in either case. -/
def keyword? : (word : List Char) → List Char → Option (List Char)
  | [], cs => some cs
  | _ :: _, [] => none
  | w :: ws, c :: cs => if caseFold c = w then keyword? ws cs else none

/-- The words in order, each followed by white space. -/
def keywords? : (words : List String) → List Char → Option (List Char)
  | [], cs => some cs
  | w :: ws, cs => (keyword? w.toList cs).bind fun r => (blanks? r).bind (keywords? ws)

/-- The first of the words that is followed by white space. -/
def oneKeyword? : (words : List String) → List Char → Option (List Char)
  | [], _ => none
  | w :: ws, cs => (keywords? [w] cs).or (oneKeyword? ws cs)

/-- What is left after an optional part. -/
def orSkip (p : List Char → Option (List Char)) (cs : List Char) : List Char :=
  (p cs).getD cs

/-- A longest run, not empty, of characters of the class `p`, and what is left. -/
def run? (p : Char → Bool) (cs : List Char) : Option (List Char × List Char) :=
  match cs.takeWhile p with
  | [] => none
  | w => some (w, cs.dropWhile p)

/-- A longest run of word characters, and what is left. -/
def wordRun? (cs : List Char) : Option (List Char × List Char) :=
  run? isWord cs

/-- The character `c`. -/
def char? (c : Char) : List Char → Option (List Char)
  | [] => none
  | d :: cs => if c = d then some cs else none

/-- What is left after the character `c`, if it comes first. -/
def skipChar (c : Char) (cs : List Char) : List Char :=
  orSkip (char? c) cs

end Text
end SchemaMap
