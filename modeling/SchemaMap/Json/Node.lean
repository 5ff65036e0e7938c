/-
# JSON with places

A text is kept as a tree of values that know where they stand. Where the text breaks off or
goes wrong, the tree ends in a flaw with its place, so that what stands before it can still be
used, and the first fault of a text is the one that is reported.

Key definitions: `Json.Mark`, `Json.Flaw`, `Json.Failure`, `Json.Break`, `Json.Node`,
`Json.Node.skip`.
-/
import SchemaMap.Json.Numeral

namespace SchemaMap
namespace Json

/-- A place in a text: a line, counted from one, and the bytes before it on the line. -/
structure Mark where
  line : Nat := 1
  column : Nat := 0
deriving DecidableEq, Repr, Inhabited

namespace Mark

/-- The place behind a character. -/
def after (m : Mark) (c : Char) : Mark :=
  if c = '\n' then ⟨m.line + 1, 0⟩ else ⟨m.line, m.column + c.utf8Size⟩

/-- The place behind the first byte of a text; the end of the text is behind itself. -/
def first (m : Mark) : List Char → Mark
  | [] => m
  | c :: _ => if c = '\n' then ⟨m.line + 1, 0⟩ else ⟨m.line, m.column + 1⟩

end Mark

/-- What is wrong with a text that is not JSON. -/
inductive Flaw where
  | endInValue
  | endInArray
  | endInObject
  | endInString
  | noValue
  | noWord
  | noColon
  | noArrayComma
  | noObjectComma
  | noKey
  | trailingComma
  | trailingText
  | badNumber
  | numberTooLarge
  | controlCharacter
  | badEscape
  | loneSurrogate
  | unfinishedPair
deriving DecidableEq, Repr, Inhabited

/-- The wording of a flaw. -/
def Flaw.message : Flaw → String
  | .endInValue => "EOF while parsing a value"
  | .endInArray => "EOF while parsing a list"
  | .endInObject => "EOF while parsing an object"
  | .endInString => "EOF while parsing a string"
  | .noValue => "expected value"
  | .noWord => "expected ident"
  | .noColon => "expected \x60:\x60"
  | .noArrayComma => "expected \x60,\x60 or \x60]\x60"
  | .noObjectComma => "expected \x60,\x60 or \x60\x7d\x60"
  | .noKey => "key must be a string"
  | .trailingComma => "trailing comma"
  | .trailingText => "trailing characters"
  | .badNumber => "invalid number"
  | .numberTooLarge => "number out of range"
  | .controlCharacter =>
    "control character (\\u0000-\\u001F) found while parsing a string"
  | .badEscape => "invalid escape"
  | .loneSurrogate => "lone leading surrogate in hex escape"
  | .unfinishedPair => "unexpected end of hex escape"

/-- A flaw with its place. -/
structure Defect where
  flaw : Flaw
  place : Mark
deriving DecidableEq, Repr, Inhabited

/-- Why a text is refused, and where that shows. -/
structure Failure where
  reason : String
  place : Mark
deriving DecidableEq, Repr, Inhabited

/-- The wording of a failure. -/
def Failure.message (f : Failure) : String :=
  f.reason ++ " at line " ++ toString f.place.line ++ " column " ++ toString f.place.column

/-- The failure of a defect. -/
def Defect.failure (f : Defect) : Failure :=
  ⟨f.flaw.message, f.place⟩

/-- The end of what can be read: the defect that shows in a value that is used, and the one that
shows where the value is only passed over. -/
structure Break where
  used : Defect
  skipped : Defect
deriving DecidableEq, Repr, Inhabited

/-- A break that shows in the same way in both cases. -/
def Break.plain (flaw : Flaw) (place : Mark) : Break :=
  ⟨⟨flaw, place⟩, ⟨flaw, place⟩⟩

/-- Where a value stands: its start, the place behind its first byte, and its end. -/
structure Span where
  start : Mark
  first : Mark
  stop : Mark
deriving DecidableEq, Repr, Inhabited

/-- How a list of items or members ends: with its bracket, the place behind which is given, or
with a break. -/
inductive Ending where
  | closed (behind : Mark)
  | faulty (b : Break)
deriving DecidableEq, Repr, Inhabited

/-- The key of a member. -/
inductive Key where
  /-- A text, which may hold escapes that stand for no character. It is given with the place
  behind it, the place that is reached when it is refused, and the place of what follows the
  member. -/
  | text (name : Except Defect String) (stop behind next : Mark)
  /-- Something else in the place of a key. -/
  | other (defect : Defect)
deriving Inhabited

/-- A value with its places. -/
inductive Node where
  | null (span : Span)
  | bool (span : Span) (b : Bool)
  | number (span : Span) (x : Numeral)
  | string (span : Span) (body : Except Defect String)
  | array (span : Span) (items : List Node) (ending : Ending)
  | object (span : Span) (members : List (Key × Node)) (ending : Ending)
  /-- No value, because of a break; the span is that of the next character. -/
  | broken (span : Span) (b : Break)
deriving Inhabited

namespace Node

/-- Where a value stands. -/
def span : Node → Span
  | .null s | .bool s _ | .number s _ | .string s _ | .array s _ _ | .object s _ _
  | .broken s _ => s

end Node

/-- The end of a list whose items are passed over. -/
def Ending.skip : Ending → Except Failure Unit
  | .closed _ => .ok ()
  | .faulty b => .error b.skipped.failure

mutual

/-- Passes over a value: only its form counts. -/
def Node.skip : Node → Except Failure Unit
  | .array _ items ending => skipItems items ending
  | .object _ members ending => skipMembers members ending
  | .broken _ b => .error b.skipped.failure
  | _ => .ok ()

/-- Passes over items. -/
def skipItems : List Node → Ending → Except Failure Unit
  | [], ending => ending.skip
  | v :: more, ending =>
    match v.skip with
    | .error e => .error e
    | .ok () => skipItems more ending

/-- Passes over members. -/
def skipMembers : List (Key × Node) → Ending → Except Failure Unit
  | [], ending => ending.skip
  | (.other f, _) :: _, _ => .error f.failure
  | (.text .., v) :: more, ending =>
    match v.skip with
    | .error e => .error e
    | .ok () => skipMembers more ending

end

end Json
end SchemaMap
