/-
# Quoted texts in a generated file

Names and types stand in a generated file between double quotes, with quotes, backslashes and
control characters spelled out. A quoted text ends at its first quote without a backslash, and
its body is decoded escape by escape.

Key definitions: `Artifact.quoted`, `Artifact.literal?`, `Artifact.decoded`.
-/
import SchemaMap.Text.Escaped
import SchemaMap.Fault

namespace SchemaMap
namespace Artifact

/-- A character as it stands between quotes. -/
def quotedChar (c : Char) : List Char :=
  if c = '"' then ['\\', '"']
  else if c = '\\' then ['\\', '\\']
  else if c = '\n' then ['\\', 'n']
  else if c = '\r' then ['\\', 'r']
  else if c = '\t' then ['\\', 't']
  else if c.toNat < 0x20 ∨ c.toNat = 0x7f then '\\' :: 'x' :: Text.hexPadded 2 c.toNat
  else [c]

/-- A text between quotes. -/
def quoted (cs : List Char) : List Char :=
  '"' :: (cs.flatMap quotedChar ++ ['"'])

/-- The body of a quoted text behind its opening quote, as it is written, and what follows the
closing quote. A backslash goes with the character behind it, which is no line feed. -/
def literalBody? : List Char → Option (List Char × List Char)
  | [] => none
  | '"' :: cs => some ([], cs)
  | ['\\'] => none
  | '\\' :: c :: cs =>
    if c = '\n' then none
    else (literalBody? cs).map fun (body, rest) => ('\\' :: c :: body, rest)
  | c :: cs => (literalBody? cs).map fun (body, rest) => (c :: body, rest)

/-- The body of a quoted text at the front, as it is written, and what follows it. -/
def literal? : List Char → Option (List Char × List Char)
  | '"' :: cs => literalBody? cs
  | _ => none

/-- The character of one or two hexadecimal digits; a plus sign may stand in front. -/
def byteChar? (cs : List Char) : Option Char :=
  let ds :=
    match cs with
    | '+' :: ds => ds
    | ds => ds
  if ds.isEmpty || !ds.all Text.isHexDigit then none
  else some (Char.ofNat (ds.foldl (fun n c => 16 * n + hexValue c) 0))
where
  /-- The value of a hexadecimal digit. -/
  hexValue (c : Char) : Nat :=
    if Text.isAsciiDigit c then c.toNat - '0'.toNat
    else if 'a' ≤ c then c.toNat - 'a'.toNat + 10
    else c.toNat - 'A'.toNat + 10

/-- The character that a single letter behind a backslash stands for. -/
def shortEscape? (c : Char) : Option Char :=
  if c = '"' then some '"'
  else if c = '\\' then some '\\'
  else if c = 'n' then some '\n'
  else if c = 'r' then some '\r'
  else if c = 't' then some '\t'
  else none

/-- The refusal of digits that stand for no character. -/
def badEscape (digits : List Char) : Fault :=
  .render ("bad escape \\x" ++ String.ofList digits)

/-- The refusal of an escape that is not known. -/
def unsupportedEscape (cs : List Char) : Fault :=
  .render ("unsupported escape \\" ++ String.ofList cs)

/-- A character in front of a decoded text. -/
def behind (c : Char) : Except Fault (List Char) → Except Fault (List Char)
  | .ok cs => .ok (c :: cs)
  | .error e => .error e

/-- The text that the body of a quoted text stands for. -/
def decoded : List Char → Except Fault (List Char)
  | [] => .ok []
  | ['\\'] => .error (unsupportedEscape [])
  | ['\\', 'x'] => .error (badEscape [])
  | ['\\', 'x', a] =>
    match byteChar? [a] with
    | some c => .ok [c]
    | none => .error (badEscape [a])
  | '\\' :: 'x' :: a :: b :: cs =>
    match byteChar? [a, b] with
    | some c => behind c (decoded cs)
    | none => .error (badEscape [a, b])
  | '\\' :: c :: cs =>
    match shortEscape? c with
    | some d => behind d (decoded cs)
    | none => .error (unsupportedEscape [c])
  | c :: cs => behind c (decoded cs)

end Artifact
end SchemaMap
