/-
# Classes of characters

The classes that scripts and generated files are read with: white space, letters,
word characters, and the characters that cannot be shown as they are. Each answers
for every code point; the part up to U+007F is written out, the rest is looked up.

Key definitions: `Text.isBlank`, `Text.isAlphabetic`, `Text.isAlphanumeric`,
`Text.isWord`, `Text.isShown`, `Text.caseFold`.
-/
import SchemaMap.Text.Bounds

namespace SchemaMap
namespace Text

/-- White space: the controls U+0009 to U+000D, the blank, and the separators of
the property `White_Space` above them. -/
def isBlank (c : Char) : Bool :=
  let n := c.toNat
  (9 ≤ n && n ≤ 13) || n == 32 || n == 0x85 || n == 0xA0 || n == 0x1680
    || (0x2000 ≤ n && n ≤ 0x200A) || n == 0x2028 || n == 0x2029 || n == 0x202F
    || n == 0x205F || n == 0x3000

/-- A letter `a` to `z`, of either case. -/
def isAsciiLetter (c : Char) : Bool :=
  ('a' ≤ c && c ≤ 'z') || ('A' ≤ c && c ≤ 'Z')

/-- A digit `0` to `9`. -/
def isAsciiDigit (c : Char) : Bool :=
  '0' ≤ c && c ≤ '9'

/-- A hexadecimal digit of either case. -/
def isHexDigit (c : Char) : Bool :=
  isAsciiDigit c || ('a' ≤ c && c ≤ 'f') || ('A' ≤ c && c ≤ 'F')

/-- The property `Alphabetic`. -/
def isAlphabetic (c : Char) : Bool :=
  if c.toNat < 128 then isAsciiLetter c else inBounds alphabeticBounds c.toNat

/-- A character of some number system: a decimal digit, a letter number or another number. -/
def isNumeric (c : Char) : Bool :=
  if c.toNat < 128 then isAsciiDigit c else inBounds numericBounds c.toNat

/-- A letter or a number of any script. -/
def isAlphanumeric (c : Char) : Bool :=
  isAlphabetic c || isNumeric c

/-- A word character: alphabetic, a mark, a decimal digit, a connector such as `_`,
or a join control, each as of Unicode 16. -/
def isWord (c : Char) : Bool :=
  if c.toNat < 128 then isAsciiLetter c || isAsciiDigit c || c == '_'
  else
    (inBounds alphabeticBounds c.toNat || inBounds markBounds c.toNat)
      && !inBounds recentBounds c.toNat

/-- A character that is shown as itself: neither a control, a format character, a separator
other than the blank, a filler, an unassigned code point, nor a mark that joins the character
before it. -/
def isShown (c : Char) : Bool :=
  if c.toNat < 128 then 32 ≤ c.toNat && c.toNat < 127
  else !inBounds unprintableBounds c.toNat && !inBounds extenderBounds c.toNat

/-- The upper case form of the letters `a` to `z`; every other character is kept. -/
def asciiUpper (c : Char) : Char :=
  if 'a' ≤ c && c ≤ 'z' then Char.ofNat (c.toNat - 32) else c

/-- The letter that a character stands for when case is ignored in a pattern of ASCII letters:
besides the two cases of a letter, the long s counts as `S` and the kelvin sign as `K`. -/
def caseFold (c : Char) : Char :=
  if c == '\u017f' then 'S' else if c == '\u212a' then 'K' else asciiUpper c

end Text
end SchemaMap
