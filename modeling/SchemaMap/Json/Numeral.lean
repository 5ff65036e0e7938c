/-
# Numbers as they are written in JSON

A number is a sign, the digits in front of the point, those behind it and an exponent. It is
whole if it has neither point nor exponent and fits into 64 bits; otherwise it is a number of
double precision, computed from its first digits and a power of ten.

Key definitions: `Json.Numeral`, `Json.Numeral.kind`, `Json.Numeral.toDouble?`.
-/
import SchemaMap.Decimal.Double

namespace SchemaMap
namespace Json

/-- A number as it is written. -/
structure Numeral where
  negative : Bool := false
  whole : List Char
  fraction : Option (List Char) := none
  /-- Whether the exponent is negative, and its digits. -/
  exponent : Option (Bool × List Char) := none
deriving DecidableEq, Repr, Inhabited

namespace Numeral

/-- The largest whole number that is kept exactly. -/
def maxWhole : Nat := Nat.pow 2 64 - 1

/-- A number and a digit behind it, if that still fits. -/
def extended? (n : Nat) (c : Char) : Option Nat :=
  let m := 10 * n + (c.toNat - '0'.toNat)
  if m ≤ maxWhole then some m else none

/-- The digits in front of the point that fit, with the number of those that do not. -/
def wholePart (n : Nat) : List Char → Nat × Nat
  | [] => (n, 0)
  | c :: cs =>
    match extended? n c with
    | some m => wholePart m cs
    | none => (n, cs.length + 1)

/-- The digits behind the point as far as they fit, with their number. -/
def fractionPart (n count : Nat) : List Char → Nat × Nat
  | [] => (n, count)
  | c :: cs =>
    match extended? n c with
    | some m => fractionPart m (count + 1) cs
    | none => (n, count)

/-- The leading digits of a number, and the power of ten they are counted in. -/
def scaled (x : Numeral) : Nat × Int :=
  let (n, dropped) := wholePart 0 x.whole
  let (n, taken) := fractionPart n 0 (x.fraction.getD [])
  let e : Int :=
    match x.exponent with
    | none => 0
    | some (true, ds) => -(Text.valueOfDigits ds : Nat)
    | some (false, ds) => Text.valueOfDigits ds
  (n, e + dropped - taken)

/-- `x * 10 ^ e`, step by step where the power is too small for one step; none where the
result is too large. -/
def timesPower (x : Float) (e : Int) : Nat → Option Float
  | 0 => some 0
  | fuel + 1 =>
    if e.natAbs ≤ 308 then
      let power := Float.ofScientific 1 false e.natAbs
      if 0 ≤ e then
        let y := x * power
        if y.isInf then none else some y
      else some (x / power)
    else if x == 0 then some x
    else if 0 ≤ e then none
    else timesPower (x / Float.ofScientific 1 false 308) (e + 308) fuel

/-- The number in double precision; none where it is too large. -/
def toDouble? (x : Numeral) : Option Double :=
  let (n, e) := x.scaled
  (timesPower n.toUInt64.toFloat e 4).map fun y =>
    Double.ofFloat (if x.negative then -y else y)

/-- The largest exponent that is read to its last digit. -/
def maxExponent : Nat := Nat.pow 2 31 - 1

/-- The number of digits behind the one that makes an exponent too large. -/
def digitsBehindExponent (n : Nat) : List Char → Nat
  | [] => 0
  | c :: cs =>
    let m := 10 * n + (c.toNat - '0'.toNat)
    if m ≤ maxExponent then digitsBehindExponent m cs else cs.length

/-- The number of last digits that are not read where a number is too large. -/
def unread (x : Numeral) : Nat :=
  match x.exponent with
  | none => 0
  | some (_, ds) => digitsBehindExponent 0 ds

/-- What a number is taken for. -/
inductive Kind where
  | natural (n : Nat)
  /-- The negative of a number above zero. -/
  | negative (n : Nat)
  | double (x : Double)
  | outOfRange
deriving DecidableEq, Repr, Inhabited

/-- What a number is taken for: whole if it is written so and fits, and of double precision
otherwise. -/
def kind (x : Numeral) : Kind :=
  let n := Text.valueOfDigits x.whole
  let isWhole := x.fraction.isNone && x.exponent.isNone
  if isWhole && !x.negative && n ≤ maxWhole then .natural n
  else if isWhole && x.negative && 0 < n && n ≤ Nat.pow 2 63 then .negative n
  else
    match x.toDouble? with
    | some y => .double y
    | none => .outOfRange

end Numeral
end Json
end SchemaMap
