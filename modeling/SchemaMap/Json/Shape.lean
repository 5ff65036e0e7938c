/-
# Shapes of JSON values

A shape says which values are expected at a place of a text. A text is read against a shape in
the order in which it stands there, so that its first fault is the one that is reported. Names
that a record does not know are passed over; a record may also be given as the list of its
fields.

Key definitions: `Json.Shape`, `Json.Shape.readNode`, `Json.Shape.readText`.
-/
import SchemaMap.Json.Reader
import SchemaMap.Json.Value

namespace SchemaMap
namespace Json

/-- The values that are expected. -/
inductive Shape where
  | flag
  /-- A whole number that is not negative. -/
  | count
  | decimal
  /-- A text that passes a test; `expected` is said of values that are no text, and `refused`
  of texts that do not pass. -/
  | text (expected : String) (test : String → Bool) (refused : String)
  /-- One of some words. -/
  | choice (words : List String)
  | optional (inner : Shape)
  | list (item : Shape)
  /-- Fields in order, each with its shape and the value it has when it is missing. -/
  | record (name : String) (fields : List (String × Shape × Option Value))
deriving Inhabited

/-- Any text. -/
def Shape.anyText : Shape :=
  .text "a string" (fun _ => true) ""

/-- Items with the word `or` in front of the last, between marks. -/
def listed : List String → String
  | [] => "there are no variants"
  | [a] => "expected \x60" ++ a ++ "\x60"
  | [a, b] => "expected \x60" ++ a ++ "\x60 or \x60" ++ b ++ "\x60"
  | as => "expected one of " ++ Text.join ", " (as.map fun a => "\x60" ++ a ++ "\x60")

namespace Node

/-- The refusal of a number that is too large, at the last digit of it that is read. -/
def tooLarge (s : Span) (x : Numeral) : Failure :=
  Defect.failure ⟨.numberTooLarge, ⟨s.stop.line, s.stop.column - x.unread⟩⟩

/-- What is found in a message about a value of another kind, and the place that is reached
when the value is refused. -/
def found : Node → Except Failure (String × Mark)
  | .null s => .ok ("null", s.stop)
  | .bool s b => .ok (if b then "boolean \x60true\x60" else "boolean \x60false\x60", s.stop)
  | .number s x =>
    match x.kind with
    | .natural n => .ok ("integer \x60" ++ toString n ++ "\x60", s.stop)
    | .negative n => .ok ("integer \x60-" ++ toString n ++ "\x60", s.stop)
    | .double y => .ok ("floating point \x60" ++ String.ofList y.text ++ "\x60", s.stop)
    | .outOfRange => .error (tooLarge s x)
  | .string _ (.error f) => .error f.failure
  | .string s (.ok body) => .ok ("string " ++ Text.escaped body, s.stop)
  | .array s _ _ => .ok ("sequence", s.start)
  | .object s _ _ => .ok ("map", s.start)
  | .broken _ b => .error b.used.failure

/-- The refusal of a value of another kind. -/
def refuse (v : Node) (expected : String) : Failure :=
  match v.found with
  | .error e => e
  | .ok (what, place) => ⟨"invalid type: " ++ what ++ ", expected " ++ expected, place⟩

/-- A text. -/
def text (v : Node) (expected : String) : Except Failure (String × Mark) :=
  match v with
  | .string s (.ok body) => .ok (body, s.stop)
  | v => .error (v.refuse expected)

/-- A whole number of 64 bits. -/
def count (v : Node) : Except Failure Nat :=
  match v with
  | .number s x =>
    match x.kind with
    | .natural n => .ok n
    | .negative n =>
      .error ⟨"invalid value: integer \x60-" ++ toString n ++ "\x60, expected usize", s.stop⟩
    | _ => .error (v.refuse "usize")
  | v => .error (v.refuse "usize")

/-- A number of double precision. -/
def decimal (v : Node) : Except Failure Double :=
  match v with
  | .number s x =>
    match x.toDouble? with
    | some y => .ok y
    | none => .error (tooLarge s x)
  | v => .error (v.refuse "f64")

/-- The failure of a break in the place of a word: a break in a text is found when the text is
read, and what starts like any other value is no word at all. -/
def noWord (s : Span) (b : Break) : Failure :=
  match b.used.flaw with
  | .noWord | .badNumber => ⟨Flaw.message .noValue, s.first⟩
  | .endInValue =>
    if s.first = s.start then b.used.failure else ⟨Flaw.message .noValue, s.first⟩
  | _ => b.used.failure

/-- One of some words, as a text or as the name of a member that is null. -/
def choice (v : Node) (words : List String) : Except Failure String :=
  let known (name : String) (place : Mark) : Except Failure String :=
    if words.contains name then .ok name
    else .error ⟨"unknown variant \x60" ++ name ++ "\x60, " ++ listed words, place⟩
  match v with
  | .string s (.ok body) => known body s.stop
  | .string _ (.error f) => .error f.failure
  | .object _ ((.other _, value) :: _) _ => .error (value.refuse "variant identifier")
  | .object _ ((.text (.error f) .., _) :: _) _ => .error f.failure
  | .object _ ((.text (.ok name) stop _ next, value) :: more) ending =>
    match known name stop with
    | .error e => .error e
    | .ok word =>
      match value, more, ending with
      | .null _, [], .closed _ => .ok word
      | .null _, [], .faulty ⟨⟨.endInObject, place⟩, _⟩ => .error ⟨Flaw.message .endInObject, place⟩
      | .null _, _, _ => .error ⟨Flaw.message .noValue, next⟩
      | other, _, _ => .error (other.refuse "unit")
  | .object _ [] (.faulty ⟨⟨.endInObject, place⟩, _⟩) => .error ⟨Flaw.message .endInValue, place⟩
  | .object _ [] (.faulty b) => .error b.used.failure
  | .object _ [] (.closed place) => .error ⟨Flaw.message .noValue, place⟩
  | .broken s b => .error (noWord s b)
  | v => .error ⟨Flaw.message .noValue, v.span.first⟩

end Node

/-! ## Values of any shape -/

/-- The value of a number; negative whole numbers have double precision. -/
def Numeral.value? (x : Numeral) : Option Value :=
  match x.kind with
  | .natural n => some (.whole n)
  | .double y => some (.decimal y)
  | .negative _ => x.toDouble?.map .decimal
  | .outOfRange => none

mutual

/-- The value of a tree without defects. -/
def Node.value? : Node → Option Value
  | .null _ => some .null
  | .bool _ b => some (.bool b)
  | .number _ x => x.value?
  | .string _ (.ok s) => some (.string s)
  | .string _ (.error _) => none
  | .array _ items (.closed _) => (itemValues? items).map .array
  | .array _ _ (.faulty _) => none
  | .object _ members (.closed _) => (memberValues? members).map .object
  | .object _ _ (.faulty _) => none
  | .broken _ _ => none

/-- The values of items. -/
def itemValues? : List Node → Option (List Value)
  | [] => some []
  | v :: more =>
    match v.value?, itemValues? more with
    | some x, some xs => some (x :: xs)
    | _, _ => none

/-- The names and values of members. -/
def memberValues? : List (Key × Node) → Option (List (String × Value))
  | [] => some []
  | (.text (.ok name) .., v) :: more =>
    match v.value?, memberValues? more with
    | some x, some xs => some ((name, x) :: xs)
    | _, _ => none
  | _ :: _ => none

end

/-- The value that a text holds, of whatever shape. -/
def Value.ofText? (cs : List Char) : Option Value :=
  let d := Document.ofText cs
  if d.surplus.isSome then none else d.root.value?

/-! ## Records -/

/-- A number of fields in words. -/
def elementsText (n : Nat) : String :=
  toString n ++ if n = 1 then " element" else " elements"

/-- What is said where a list goes on behind its last field. -/
def surplusFailure (more : List Node) : Ending → Except Failure Unit
  | .closed _ =>
    match more with
    | [] => .ok ()
    | v :: _ => .error ⟨Flaw.message .trailingText, v.span.first⟩
  | .faulty b =>
    match more with
    | v :: _ => .error ⟨Flaw.message .trailingText, v.span.first⟩
    | [] =>
      match b.used.flaw with
      | .noArrayComma | .endInValue => .error ⟨Flaw.message .trailingText, b.used.place⟩
      | _ => .error b.used.failure

/-- The fields that have been read, with the values of those that are missing. -/
def complete (found : List (String × Value)) :
    List (String × Shape × Option Value) → Except String (List (String × Value))
  | [] => .ok []
  | (name, _, default) :: more =>
    match found.lookup name, default with
    | some v, _ | none, some v => (complete found more).map ((name, v) :: ·)
    | none, none => .error name

/-- The shape of a field. -/
def fieldShape? (fields : List (String × Shape × Option Value)) (name : String) : Option Shape :=
  (fields.lookup name).map (·.1)

/-- Reads the members of a record in order, where `found` has been read. -/
def readMembers (read : Shape → Node → Except Failure Value)
    (fields : List (String × Shape × Option Value)) (found : List (String × Value)) :
    List (Key × Node) → Ending → Except Failure (List (String × Value))
  | [], .faulty b => .error b.used.failure
  | [], .closed behind =>
    match complete found fields with
    | .ok members => .ok members
    | .error name => .error ⟨"missing field \x60" ++ name ++ "\x60", behind⟩
  | (.other f, _) :: _, _ | (.text (.error f) .., _) :: _, _ => .error f.failure
  | (.text (.ok name) _ behind _, v) :: more, ending =>
    match fieldShape? fields name with
    | none =>
      match v.skip with
      | .error e => .error e
      | .ok () => readMembers read fields found more ending
    | some shape =>
      if (found.lookup name).isSome then
        .error ⟨"duplicate field \x60" ++ name ++ "\x60", behind⟩
      else
        match read shape v with
        | .error e => .error e
        | .ok x => readMembers read fields (found ++ [(name, x)]) more ending

/-- Reads the fields of a record from a list, where `index` of `total` have been read. -/
def readFields (read : Shape → Node → Except Failure Value) (record : String) (total : Nat)
    (index : Nat) (ending : Ending) :
    List (String × Shape × Option Value) → List Node → Except Failure (List (String × Value))
  | [], more => (surplusFailure more ending).map fun _ => []
  | (name, shape, _) :: fields, v :: more =>
    match read shape v with
    | .error e => .error e
    | .ok x =>
      (readFields read record total (index + 1) ending fields more).map ((name, x) :: ·)
  | (name, _, default) :: fields, [] =>
    match ending, default with
    | .faulty b, _ => .error b.used.failure
    | .closed _, some x =>
      (readFields read record total (index + 1) ending fields []).map ((name, x) :: ·)
    | .closed behind, none =>
      .error ⟨"invalid length " ++ toString index ++ ", expected struct " ++ record ++ " with "
        ++ elementsText total, behind⟩

/-- Reads the items of a list in order. -/
def readItems (read : Node → Except Failure Value) (ending : Ending) :
    List Node → Except Failure (List Value)
  | [] =>
    match ending with
    | .closed _ => .ok []
    | .faulty b => .error b.used.failure
  | v :: more =>
    match read v with
    | .error e => .error e
    | .ok x => (readItems read ending more).map (x :: ·)

/-- The value that a tree holds, read against a shape. Its depth is bounded by that of the
shape, which `fuel` stands for. -/
def Shape.readNode : Nat → Shape → Node → Except Failure Value
  | 0, _, v => .error (v.refuse "another value")
  | fuel + 1, shape, v =>
    match shape with
    | .flag =>
      match v with
      | .bool _ b => .ok (.bool b)
      | v => .error (v.refuse "a boolean")
    | .count => v.count.map .whole
    | .decimal => v.decimal.map .decimal
    | .text expected test refused =>
      match v.text expected with
      | .error e => .error e
      | .ok (s, place) => if test s then .ok (.string s) else .error ⟨refused, place⟩
    | .choice words => (v.choice words).map .string
    | .optional inner =>
      match v with
      | .null _ => .ok .null
      | v => readNode fuel inner v
    | .list item =>
      match v with
      | .array _ items ending => (readItems (readNode fuel item) ending items).map .array
      | v => .error (v.refuse "a sequence")
    | .record name fields =>
      match v with
      | .object _ members ending =>
        (readMembers (readNode fuel) fields [] members ending).map .object
      | .array _ items ending =>
        (readFields (readNode fuel) name fields.length 0 ending fields items).map .object
      | v => .error (v.refuse ("struct " ++ name))

mutual

/-- The depth of a shape. -/
def Shape.depth : Shape → Nat
  | .optional inner => inner.depth + 1
  | .list item => item.depth + 1
  | .record _ fields => fieldsDepth fields + 1
  | _ => 1

/-- The depth of the deepest of some fields. -/
def fieldsDepth : List (String × Shape × Option Value) → Nat
  | [] => 0
  | (_, s, _) :: more => max s.depth (fieldsDepth more)

end

/-- The value that a text holds, read against a shape. Missing fields have their values, and
fields stand in the order of the shape. -/
def Shape.readText (shape : Shape) (cs : List Char) : Except Failure Value :=
  let d := Document.ofText cs
  match shape.readNode shape.depth d.root, d.surplus with
  | .error e, _ => .error e
  | .ok _, some f => .error f.failure
  | .ok v, none => .ok v

end Json
end SchemaMap
