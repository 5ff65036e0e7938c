/-
# Texts shown in messages

A text is shown between double quotes with its invisible characters spelled out, so
that a message stays on one line and tells apart what looks alike.

Key definitions: `Text.hex`, `Text.escapedChar`, `Text.escaped`.
-/
import SchemaMap.Text.Basic

namespace SchemaMap
namespace Text

/-- The hexadecimal digits of a number, in lower case and without leading zeros. -/
def hex (n : Nat) : List Char :=
  Nat.toDigits 16 n

/-- The hexadecimal digits of a number, with zeros in front up to the width `w`. -/
def hexPadded (w n : Nat) : List Char :=
  List.replicate (w - (hex n).length) '0' ++ hex n

/-- One character as it is shown: the two quoting characters and the usual controls after a
backslash, any other character that is not shown as itself by its code point. -/
def escapedChar (c : Char) : List Char :=
  if c = '\x00' then ['\\', '0']
  else if c = '\t' then ['\\', 't']
  else if c = '\r' then ['\\', 'r']
  else if c = '\n' then ['\\', 'n']
  else if c = '"' then ['\\', '"']
  else if c = '\\' then ['\\', '\\']
  else if isShown c then [c]
  else ['\\', 'u', '\x7b'] ++ hex c.toNat ++ ['\x7d']

/-- A text as it is shown in a message. -/
def escaped (s : String) : String :=
  String.ofList ('"' :: s.toList.flatMap escapedChar ++ ['"'])

end Text
end SchemaMap
