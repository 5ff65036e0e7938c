/-
# Codecs

A codec says how the values of a type are written in JSON, which shape is expected when they
are read, and what the value that was read stands for.

Key definitions: `Json.Codec`, `Json.Codec.list`, `Json.Codec.write`, `Json.Codec.read`.
-/
import SchemaMap.Json.Shape
import SchemaMap.Fault

namespace SchemaMap
namespace Json

/-- How the values of a type are written and read. -/
structure Codec (α : Type) where
  shape : Shape
  encode : α → Value
  /-- The value that a JSON value of the shape stands for. -/
  decode? : Value → Option α

namespace Value

/-- The text of a member. -/
def text? (key : String) (v : Value) : Option String :=
  match v.get? key with
  | some (.string s) => some s
  | _ => none

/-- The number of a member. -/
def count? (key : String) (v : Value) : Option Nat :=
  match v.get? key with
  | some (.whole n) => some n
  | _ => none

/-- The truth value of a member. -/
def flag? (key : String) (v : Value) : Option Bool :=
  match v.get? key with
  | some (.bool b) => some b
  | _ => none

/-- The text of a member that may be missing or null. -/
def optionalText? (key : String) (v : Value) : Option (Option String) :=
  match v.get? key with
  | none | some .null => some none
  | some (.string s) => some (some s)
  | _ => none

/-- The number of a member that may be missing or null. -/
def optionalCount? (key : String) (v : Value) : Option (Option Nat) :=
  match v.get? key with
  | none | some .null => some none
  | some (.whole n) => some (some n)
  | _ => none

/-- The items of an array. -/
def items? : Value → Option (List Value)
  | .array items => some items
  | _ => none

end Value

/-- A member, unless there is nothing to write. -/
def optionalMember (key : String) : Option Value → List (String × Value)
  | some v => [(key, v)]
  | none => []

namespace Codec

variable {α : Type}

/-- Lists of values. -/
def list (c : Codec α) : Codec (List α) where
  shape := .list c.shape
  encode xs := .array (xs.map c.encode)
  decode? v := v.items?.bind fun items => items.mapM c.decode?

/-- Words that stand for values. -/
def words (all : List α) (word : α → String) : Codec α where
  shape := .choice (all.map word)
  encode x := .string (word x)
  decode? v :=
    match v with
    | .string s => all.find? fun x => word x == s
    | _ => none

/-- The values of a list in a member. -/
def member? (c : Codec α) (key : String) (v : Value) : Option (List α) :=
  (v.get? key).bind c.list.decode?

/-- The text of a value, without white space. -/
def write (c : Codec α) (x : α) : String :=
  String.ofList (c.encode x).compact

/-- The value that a text stands for. -/
def read (c : Codec α) (text : String) : Except SchemaMap.Fault α :=
  match c.shape.readText text.toList with
  | .error e => .error (.json e.message)
  | .ok v =>
    match c.decode? v with
    | some x => .ok x
    | none => .error (.json "unexpected value")

end Codec
end Json
end SchemaMap
