/-
# JSON values and their text

A value is written without white space, or with a line for each item and member. The members
of an object keep their order.

Key definitions: `Json.Value`, `Json.quoted`, `Json.Value.compact`, `Json.Value.pretty`.
-/
import SchemaMap.Decimal.Double
import SchemaMap.Text.Escaped

namespace SchemaMap
namespace Json

/-- A JSON value. -/
inductive Value where
  | null
  | bool (b : Bool)
  | whole (n : Nat)
  | decimal (x : Double)
  | string (s : String)
  | array (items : List Value)
  | object (members : List (String × Value))
deriving Repr, Inhabited

/-- A character as it stands in a quoted text. -/
def escapedChar (c : Char) : List Char :=
  if c = '"' then ['\\', '"']
  else if c = '\\' then ['\\', '\\']
  else if c = '\n' then ['\\', 'n']
  else if c = '\r' then ['\\', 'r']
  else if c = '\t' then ['\\', 't']
  else if c = '\x08' then ['\\', 'b']
  else if c = '\x0c' then ['\\', 'f']
  else if c.toNat < 0x20 then ['\\', 'u', '0', '0'] ++ Text.hexPadded 2 c.toNat
  else [c]

/-- A text between quotes. -/
def quoted (cs : List Char) : List Char :=
  '"' :: (cs.flatMap escapedChar ++ ['"'])

/-- A line break with an indentation of `n` steps. -/
def indented (n : Nat) : List Char :=
  '\n' :: List.replicate (2 * n) ' '

namespace Value

/-- The text of a value that has no parts. -/
def leafText : Value → List Char
  | .null => ['n', 'u', 'l', 'l']
  | .bool true => ['t', 'r', 'u', 'e']
  | .bool false => ['f', 'a', 'l', 's', 'e']
  | .whole n => Nat.toDigits 10 n
  | .decimal x => x.text
  | .string s => quoted s.toList
  | .array _ => ['[', ']']
  | .object _ => ['\x7b', '\x7d']

mutual

/-- The text of a value, without white space. -/
def compact : Value → List Char
  | .array items => '[' :: (compactItems items ++ [']'])
  | .object members => '\x7b' :: (compactMembers members ++ ['\x7d'])
  | v => v.leafText

/-- Items with commas between. -/
def compactItems : List Value → List Char
  | [] => []
  | [v] => v.compact
  | v :: more => v.compact ++ ',' :: compactItems more

/-- Members with commas between. -/
def compactMembers : List (String × Value) → List Char
  | [] => []
  | [(k, v)] => quoted k.toList ++ ':' :: v.compact
  | (k, v) :: more => quoted k.toList ++ ':' :: (v.compact ++ ',' :: compactMembers more)

end

mutual

/-- The text of a value, with a line for each part; `n` is the indentation of the value. -/
def prettyAt (n : Nat) : Value → List Char
  | .array (v :: more) =>
    '[' :: (indented (n + 1) ++ v.prettyAt (n + 1) ++ prettyItems n more ++ indented n ++ [']'])
  | .object ((k, v) :: more) =>
    '\x7b' :: (indented (n + 1) ++ quoted k.toList ++ [':', ' '] ++ v.prettyAt (n + 1)
      ++ prettyMembers n more ++ indented n ++ ['\x7d'])
  | v => v.leafText

/-- The items behind the first. -/
def prettyItems (n : Nat) : List Value → List Char
  | [] => []
  | v :: more => ',' :: (indented (n + 1) ++ v.prettyAt (n + 1) ++ prettyItems n more)

/-- The members behind the first. -/
def prettyMembers (n : Nat) : List (String × Value) → List Char
  | [] => []
  | (k, v) :: more =>
    ',' :: (indented (n + 1) ++ quoted k.toList ++ [':', ' '] ++ v.prettyAt (n + 1)
      ++ prettyMembers n more)

end

/-- The text of a value, with a line for each part. -/
def pretty (v : Value) : List Char :=
  v.prettyAt 0

/-- The value of the first member with a name. -/
def get? (key : String) : Value → Option Value
  | .object members => members.lookup key
  | _ => none

end Value
end Json
end SchemaMap
