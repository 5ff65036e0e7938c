/-
# Reading JSON

A text is read from the front into a tree with places. Reading never fails: a text that is not
JSON gives a tree that ends in a fault.

Key definitions: `Json.stringBody`, `Json.numeral`, `Json.nodeAt`, `Json.Document.ofText`.
-/
import SchemaMap.Json.Node

namespace SchemaMap
namespace Json

open Text

/-- What is left of a text, and where that starts. -/
structure Cursor where
  place : Mark
  rest : List Char
deriving Inhabited

namespace Cursor

/-- Whether a character is white space in JSON. -/
def isSpace (c : Char) : Bool :=
  c == ' ' || c == '\n' || c == '\t' || c == '\r'

/-- The cursor behind the first `n` characters. -/
def advance : Nat → Cursor → Cursor
  | 0, s => s
  | n + 1, s =>
    match s.rest with
    | [] => s
    | c :: cs => advance n ⟨s.place.after c, cs⟩

/-- The cursor behind white space. -/
def skipSpace (s : Cursor) : Cursor :=
  s.advance (s.rest.takeWhile isSpace).length

/-- The place behind the next byte. -/
def first (s : Cursor) : Mark :=
  s.place.first s.rest

/-- The place behind the next `n` bytes, or the end of the text. -/
def behindBytes : Nat → Mark → List Char → Mark
  | _, m, [] => m
  | n, m, c :: cs =>
    if n = 0 then m
    else if c.utf8Size ≤ n then behindBytes (n - c.utf8Size) (m.after c) cs
    else ⟨m.line, m.column + n⟩

end Cursor

/-! ## Strings -/

/-- The number of four hexadecimal digits. -/
def hexNumber? : List Char → Option Nat
  | a :: b :: c :: d :: _ =>
    if [a, b, c, d].all isHexDigit then
      some ([a, b, c, d].foldl (fun n x => 16 * n + hexValue x) 0)
    else none
  | _ => none
where
  /-- The value of a hexadecimal digit. -/
  hexValue (c : Char) : Nat :=
    if isAsciiDigit c then c.toNat - '0'.toNat
    else if 'a' ≤ c then c.toNat - 'a'.toNat + 10
    else c.toNat - 'A'.toNat + 10

/-- Whether a number is the first half of a pair that stands for one character. -/
def isLeading (n : Nat) : Bool :=
  0xd800 ≤ n && n < 0xdc00

/-- Whether a number is the second half of a pair that stands for one character. -/
def isTrailing (n : Nat) : Bool :=
  0xdc00 ≤ n && n < 0xe000

/-- The character of a pair. -/
def pairChar (a b : Nat) : Char :=
  Char.ofNat (0x10000 + (a - 0xd800) * 0x400 + (b - 0xdc00))

/-- The characters that stand for one other character behind a backslash. -/
def shortEscapes : List (Char × Char) :=
  [('"', '"'), ('\\', '\\'), ('/', '/'), ('b', '\x08'), ('f', '\x0c'), ('n', '\n'), ('r', '\r'),
   ('t', '\t')]

/-- What an escape stands for, with the number of its characters; a half of a pair stands for
no character. -/
inductive Escape where
  | char (c : Char) (length : Nat)
  | half (defect : Defect)
  | faulty (defect : Defect)
deriving Inhabited

/-- The defect of an escape without its four digits, where `s` is the cursor at the digits. -/
def missingDigits (s : Cursor) : Defect :=
  let bytes := (s.rest.take 4).foldl (fun n c => n + c.utf8Size) 0
  ⟨if bytes < 4 then .endInString else .badEscape, Cursor.behindBytes 4 s.place s.rest⟩

/-- An escape of four digits, from its digits on, where `s` is the cursor at the digits. -/
def numberEscape (s : Cursor) : Escape :=
  match hexNumber? s.rest with
  | none => .faulty (missingDigits s)
  | some a =>
    let s' := s.advance 4
    if isTrailing a then .half ⟨.loneSurrogate, s'.place⟩
    else if isLeading a then
      match s'.rest with
      | [] | ['\\'] => .faulty ⟨.endInString, (s'.advance 1).place⟩
      | '\\' :: 'u' :: more =>
        match hexNumber? more with
        | some b =>
          if isTrailing b then .char (pairChar a b) 12
          else .half ⟨.loneSurrogate, (s'.advance 6).place⟩
        | none => .faulty (missingDigits (s'.advance 2))
      | '\\' :: _ => .half ⟨.unfinishedPair, (s'.advance 1).first⟩
      | _ => .half ⟨.unfinishedPair, s'.first⟩
    else .char (Char.ofNat a) 6

/-- An escape behind its backslash, where `s` is the cursor behind the backslash. -/
def escapeAt (s : Cursor) : Escape :=
  match s.rest with
  | [] => .faulty ⟨.endInString, s.place⟩
  | 'u' :: _ => numberEscape (s.advance 1)
  | c :: _ =>
    match shortEscapes.lookup c with
    | some d => .char d 2
    | none => .faulty ⟨.badEscape, s.first⟩

/-- A string behind its opening quote: its text, or the first escape in it that stands for no
character, and what follows its closing quote. Where the string is passed over, such escapes do
not count, and a character that may not stand in it is not reached. -/
def stringBody : Nat → List Char → Option Defect → Cursor →
    Except Break (Except Defect String × Cursor)
  | 0, _, _, s => .error (.plain .endInString s.place)
  | fuel + 1, seen, half, s =>
    let broken (used skipped : Defect) : Break := ⟨half.getD used, skipped⟩
    match s.rest with
    | [] => .error (broken ⟨.endInString, s.place⟩ ⟨.endInString, s.place⟩)
    | '"' :: _ =>
      let body : Except Defect String :=
        match half with
        | some f => .error f
        | none => .ok (String.ofList seen.reverse)
      .ok (body, s.advance 1)
    | '\\' :: _ =>
      match escapeAt (s.advance 1) with
      | .char c n => stringBody fuel (c :: seen) half (s.advance n)
      | .half f => stringBody fuel seen (half.or (some f)) (s.advance 6)
      | .faulty f => .error (broken f f)
    | c :: _ =>
      if c.toNat < 0x20 then
        .error (broken ⟨.controlCharacter, s.first⟩ ⟨.controlCharacter, s.place⟩)
      else stringBody fuel (c :: seen) half (s.advance 1)

/-- A string behind its opening quote. -/
def readString (s : Cursor) : Except Break (Except Defect String × Cursor) :=
  stringBody (s.rest.length + 1) [] none s

/-! ## Numbers and words -/

/-- The digits at a cursor, and what follows them. -/
def digitRun (s : Cursor) : List Char × Cursor :=
  let ds := s.rest.takeWhile isAsciiDigit
  (ds, s.advance ds.length)

/-- A number without digits where they have to stand. -/
def missingDigit (s : Cursor) : Break :=
  ⟨⟨if s.rest.isEmpty then .endInValue else .badNumber, s.first⟩, ⟨.badNumber, s.first⟩⟩

/-- The digits behind a point, if there is one. -/
def fractionAt (s : Cursor) : Except Break (Option (List Char) × Cursor) :=
  match s.rest with
  | '.' :: _ =>
    match digitRun (s.advance 1) with
    | ([], s') => .error (missingDigit s')
    | (ds, s') => .ok (some ds, s')
  | _ => .ok (none, s)

/-- The sign and the digits of an exponent, if there is one. -/
def exponentAt (s : Cursor) : Except Break (Option (Bool × List Char) × Cursor) :=
  let signed (s : Cursor) : Bool × Cursor :=
    match s.rest with
    | '-' :: _ => (true, s.advance 1)
    | '+' :: _ => (false, s.advance 1)
    | _ => (false, s)
  match s.rest with
  | c :: _ =>
    if c == 'e' || c == 'E' then
      let (negative, s') := signed (s.advance 1)
      match digitRun s' with
      | ([], s') => .error (missingDigit s')
      | (ds, s') => .ok (some (negative, ds), s')
    else .ok (none, s)
  | [] => .ok (none, s)

/-- A number behind its sign. -/
def unsignedNumeral (negative : Bool) (s : Cursor) : Except Break (Numeral × Cursor) :=
  match digitRun s with
  | ([], s') => .error (missingDigit s')
  | ('0' :: _ :: _, _) => .error (.plain .badNumber (s.advance 1).first)
  | (ds, s') =>
    match fractionAt s' with
    | .error f => .error f
    | .ok (fraction, s') =>
      match exponentAt s' with
      | .error f => .error f
      | .ok (exponent, s') => .ok (⟨negative, ds, fraction, exponent⟩, s')

/-- A number. -/
def numeral (s : Cursor) : Except Break (Numeral × Cursor) :=
  match s.rest with
  | '-' :: _ => unsignedNumeral true (s.advance 1)
  | _ => unsignedNumeral false s

/-- What follows a word that is spelled as given. -/
def wordAt : List Char → Cursor → Except Break Cursor
  | [], s => .ok s
  | c :: cs, s =>
    match s.rest with
    | [] => .error (.plain .endInValue s.place)
    | d :: _ => if c = d then wordAt cs (s.advance 1) else .error (.plain .noWord s.first)

/-! ## Values -/

/-- A value read at a cursor, and what follows it, unless a break ends the reading. -/
abbrev Outcome := Node × Option Cursor

/-- A break in place of a value. -/
def breakAt (s : Cursor) (b : Break) : Outcome :=
  (.broken ⟨s.place, s.first, s.place⟩ b, none)

/-- A value without parts. -/
def leafAt (s : Cursor) : Outcome :=
  let span (s' : Cursor) : Span := ⟨s.place, s.first, s'.place⟩
  let word (w : String) (v : Span → Node) : Outcome :=
    match wordAt w.toList s with
    | .error b => breakAt s b
    | .ok s' => (v (span s'), some s')
  match s.rest with
  | [] => breakAt s (.plain .endInValue s.place)
  | 'n' :: _ => word "null" .null
  | 't' :: _ => word "true" (.bool · true)
  | 'f' :: _ => word "false" (.bool · false)
  | '"' :: _ =>
    match readString (s.advance 1) with
    | .error b => breakAt s b
    | .ok (body, s') => (.string (span s') body, some s')
  | c :: _ =>
    if c == '-' || isAsciiDigit c then
      match numeral s with
      | .error b => breakAt s b
      | .ok (x, s') => (.number (span s') x, some s')
    else breakAt s (.plain .noValue s.first)

/-- Whether an item comes next in an array, and where it starts. -/
def itemAt (isFirst : Bool) (s : Cursor) : Except Ending Cursor :=
  let s := s.skipSpace
  match s.rest with
  | [] => .error (.faulty (.plain .endInArray s.place))
  | ']' :: _ => .error (.closed (s.advance 1).place)
  | c :: _ =>
    if isFirst then .ok s
    else if c = ',' then
      let s := (s.advance 1).skipSpace
      match s.rest with
      | [] => .error (.faulty (.plain .endInValue s.place))
      | ']' :: _ => .error (.faulty ⟨⟨.trailingComma, s.first⟩, ⟨.noValue, s.first⟩⟩)
      | _ => .ok s
    else .error (.faulty (.plain .noArrayComma s.first))

/-- Whether a key comes next in an object, and where it starts. -/
def keyAt (isFirst : Bool) (s : Cursor) : Except Ending Cursor :=
  let s := s.skipSpace
  match s.rest with
  | [] => .error (.faulty (.plain .endInObject s.place))
  | '\x7d' :: _ => .error (.closed (s.advance 1).place)
  | c :: _ =>
    if isFirst then .ok s
    else if c = ',' then
      let s := (s.advance 1).skipSpace
      match s.rest with
      | [] => .error (.faulty ⟨⟨.endInValue, s.place⟩, ⟨.endInObject, s.place⟩⟩)
      | '\x7d' :: _ => .error (.faulty ⟨⟨.trailingComma, s.first⟩, ⟨.noKey, s.first⟩⟩)
      | _ => .ok s
    else .error (.faulty (.plain .noObjectComma s.first))

/-- The place behind a key and a closing bracket that follows it. -/
def behindKey (s : Cursor) : Mark :=
  match s.rest with
  | '\x7d' :: _ => (s.advance 1).place
  | _ => s.place

/-- What follows the colon behind a key. -/
def behindColon (s : Cursor) : Except Break Cursor :=
  match s.rest with
  | [] => .error (.plain .endInObject s.place)
  | ':' :: _ => .ok (s.advance 1).skipSpace
  | _ => .error (.plain .noColon s.first)

/-- The place at which the reading has stopped. -/
def endOf (s : Cursor) : Ending → Option Cursor
  | .closed _ => some (s.skipSpace.advance 1)
  | .faulty _ => none

mutual

/-- The value at a cursor that is not at white space. -/
def nodeAt : Nat → Cursor → Outcome
  | 0, s => breakAt s (.plain .endInValue s.place)
  | fuel + 1, s =>
    match s.rest with
    | '[' :: _ =>
      let (items, ending, next) := itemsAt fuel true (s.advance 1)
      let stop := (next.getD s).place
      (.array ⟨s.place, s.first, stop⟩ items ending, next)
    | '\x7b' :: _ =>
      let (members, ending, next) := membersAt fuel true (s.advance 1)
      let stop := (next.getD s).place
      (.object ⟨s.place, s.first, stop⟩ members ending, next)
    | _ => leafAt s

/-- The items of an array up to its end. -/
def itemsAt : Nat → Bool → Cursor → List Node × Ending × Option Cursor
  | 0, _, s => ([], .faulty (.plain .endInArray s.place), none)
  | fuel + 1, isFirst, s =>
    match itemAt isFirst s with
    | .error ending => ([], ending, endOf s ending)
    | .ok s' =>
      match nodeAt fuel s' with
      | (v, none) => ([v], .faulty (.plain .endInArray s'.place), none)
      | (v, some s'') =>
        let (more, ending, next) := itemsAt fuel false s''
        (v :: more, ending, next)

/-- The members of an object up to its end. -/
def membersAt : Nat → Bool → Cursor → List (Key × Node) × Ending × Option Cursor
  | 0, _, s => ([], .faulty (.plain .endInObject s.place), none)
  | fuel + 1, isFirst, s =>
    match keyAt isFirst s with
    | .error ending => ([], ending, endOf s ending)
    | .ok s =>
      let cut : Ending := .faulty (.plain .endInObject s.place)
      match s.rest with
      | '"' :: _ =>
        match readString (s.advance 1) with
        | .error b => ([], .faulty b, none)
        | .ok (name, behind) =>
          let s := behind.skipSpace
          let key : Mark → Key := .text name behind.place (behindKey s)
          match behindColon s with
          | .error b => ([(key s.place, (breakAt s b).1)], .faulty b, none)
          | .ok s' =>
            match nodeAt fuel s' with
            | (v, none) => ([(key s'.place, v)], cut, none)
            | (v, some s'') =>
              let (more, ending, next) := membersAt fuel false s''
              ((key s''.skipSpace.place, v) :: more, ending, next)
      | _ => ([(.other ⟨.noKey, s.first⟩, (nodeAt fuel s).1)], cut, none)

end

/-- A text as one value, and the fault of what follows the value, if anything does. -/
structure Document where
  root : Node
  surplus : Option Defect
deriving Inhabited

/-- Reads a text. -/
def Document.ofText (cs : List Char) : Document :=
  let (v, next) := nodeAt (2 * cs.length + 2) (Cursor.skipSpace ⟨⟨1, 0⟩, cs⟩)
  match next with
  | none => ⟨v, none⟩
  | some s =>
    let s := s.skipSpace
    ⟨v, if s.rest.isEmpty then none else some ⟨.trailingText, s.first⟩⟩

end Json
end SchemaMap
