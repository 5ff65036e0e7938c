/-
# Binary fractions in decimal

A number of double precision is kept as its bits. It stands for a whole number times a power
of two, and it is written with the fewest decimal digits that no other such number is nearer
to.

Key definitions: `Double`, `Double.scaled`, `Double.shortest`, `Double.text`.
-/
import SchemaMap.Text.Basic

namespace SchemaMap

/-- A number of double precision, as its bits: sign, exponent and fraction. -/
structure Double where
  bits : UInt64
deriving DecidableEq, Repr, Inhabited

namespace Double

/-- The number of a floating-point value. -/
def ofFloat (x : Float) : Double :=
  ⟨x.toBits⟩

/-- Whether the number has a minus sign. -/
def isNegative (x : Double) : Bool :=
  Nat.pow 2 63 ≤ x.bits.toNat

/-- The exponent bits. -/
def exponentBits (x : Double) : Nat :=
  x.bits.toNat / Nat.pow 2 52 % Nat.pow 2 11

/-- The fraction bits. -/
def fractionBits (x : Double) : Nat :=
  x.bits.toNat % Nat.pow 2 52

/-- The whole number `m` and the exponent `q` with which the number is `m * 2 ^ q`, its sign
apart. -/
def scaled (x : Double) : Nat × Int :=
  if x.exponentBits = 0 then (x.fractionBits, -1074)
  else (x.fractionBits + Nat.pow 2 52, (x.exponentBits : Int) - 1075)

/-- The number of digits in front of the point of `num / den`; zero or less where the fraction
is below one tenth. -/
def magnitude (num den : Nat) : Int :=
  if den ≤ num then (Nat.toDigits 10 (num / den)).length
  else 1 - (smallest 400 num : Nat)
where
  /-- The least power of ten that brings the fraction up to one. -/
  smallest : Nat → Nat → Nat
    | 0, _ => 0
    | fuel + 1, num => if den ≤ num then 0 else smallest fuel (10 * num) + 1

/-- The whole number `c` for which `c * 10 ^ k` is nearest to the number among those that no
other number of double precision is nearer to, if there is one. -/
def nearestOn (x : Double) (k : Int) : Option Nat :=
  let (m, q) := x.scaled
  let scale := Nat.pow 2 q.toNat * Nat.pow 10 (-k).toNat
  let unit := Nat.pow 2 (-q).toNat * Nat.pow 10 k.toNat
  let below := if x.fractionBits = 0 ∧ 1 < x.exponentBits then 1 else 2
  let low := (4 * m - below) * scale
  let high := (4 * m + 2) * scale
  let value := 4 * m * scale
  let inside (c : Nat) : Bool :=
    let p := 4 * c * unit
    if m % 2 = 0 then low ≤ p && p ≤ high else low < p && p < high
  let c := value / (4 * unit)
  let toLower := value - 4 * c * unit
  let toUpper := 4 * (c + 1) * unit - value
  let upper : Bool := toUpper < toLower || (toUpper == toLower && c % 2 == 1)
  match inside c, inside (c + 1) with
  | true, true => if upper then some (c + 1) else some c
  | true, false => some c
  | false, true => some (c + 1)
  | false, false => none

/-- The digits of a number without the zeros at its end, and the number of these. -/
def withoutZeros (fuel c : Nat) : Nat × Nat :=
  match fuel with
  | 0 => (c, 0)
  | fuel + 1 =>
    if c ≠ 0 ∧ c % 10 = 0 then
      let (d, n) := withoutZeros fuel (c / 10)
      (d, n + 1)
    else (c, 0)

/-- The fewest digits that stand for the number, and the power of ten they are counted in. -/
def shortest (x : Double) : Nat × Int :=
  let (m, q) := x.scaled
  if m = 0 then (0, 0)
  else
    let top := magnitude (m * Nat.pow 2 q.toNat) (Nat.pow 2 (-q).toNat)
    let found := (List.range 17).findSome? fun (n : Nat) =>
      (x.nearestOn (top - 1 - n)).map fun c => (c, top - 1 - n)
    match found with
    | some (c, k) =>
      let (d, n) := withoutZeros 20 c
      (d, k + n)
    | none => (m, q)

/-- The digits of `d * 10 ^ k` with a point: in full between a hundred thousandth and ten to
the sixteenth, with a signed exponent outside. -/
def positional (d : Nat) (k : Int) : List Char :=
  let ds := Nat.toDigits 10 d
  let point : Int := ds.length + k
  if 0 ≤ k ∧ point ≤ 16 then ds ++ List.replicate k.toNat '0' ++ ['.', '0']
  else if 0 < point ∧ point ≤ 16 then ds.take point.toNat ++ '.' :: ds.drop point.toNat
  else if -5 < point ∧ point ≤ 0 then
    ['0', '.'] ++ List.replicate (-point).toNat '0' ++ ds
  else
    let exponent :=
      'e' :: (if point ≤ 0 then '-' else '+') :: Nat.toDigits 10 (point - 1).natAbs
    match ds with
    | [c] => c :: exponent
    | c :: cs => c :: '.' :: cs ++ exponent
    | [] => exponent

/-- The text of a number; zero keeps its sign. -/
def text (x : Double) : List Char :=
  let (d, k) := x.shortest
  (if x.isNegative then ['-'] else []) ++ positional d k

end Double
end SchemaMap
