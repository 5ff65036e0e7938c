/-
# Instants

An instant is a number of seconds from the start of 1970 in universal time, with its
nanoseconds. It is written as a date and a time with as many places as it needs, and read with
an offset from universal time.

Key definitions: `Instant`, `Instant.text`, `Instant.ofText?`.
-/
import SchemaMap.Text.Pattern

namespace SchemaMap

/-- An instant in universal time. In a leap second the nanoseconds count on. -/
structure Instant where
  seconds : Int
  nanoseconds : Nat
deriving DecidableEq, Repr, Inhabited

namespace Instant

/-- The number of days from the start of 1970 to a date. -/
def daysOf (year : Int) (month day : Nat) : Int :=
  let y := if month ≤ 2 then year - 1 else year
  let era := y.fdiv 400
  let yearOfEra := y - era * 400
  let m := if month ≤ 2 then month + 9 else month - 3
  let dayOfYear : Int := (153 * m + 2) / 5 + day - 1
  let dayOfEra := yearOfEra * 365 + yearOfEra / 4 - yearOfEra / 100 + dayOfYear
  era * 146097 + dayOfEra - 719468

/-- The date of a number of days from the start of 1970: year, month and day. -/
def dateOf (days : Int) : Int × Nat × Nat :=
  let z := days + 719468
  let era := z.fdiv 146097
  let dayOfEra := (z - era * 146097).toNat
  let yearOfEra := (dayOfEra - dayOfEra / 1460 + dayOfEra / 36524 - dayOfEra / 146096) / 365
  let dayOfYear := dayOfEra - (365 * yearOfEra + yearOfEra / 4 - yearOfEra / 100)
  let m := (5 * dayOfYear + 2) / 153
  let day := dayOfYear - (153 * m + 2) / 5 + 1
  let month := if m < 10 then m + 3 else m - 9
  let year : Int := yearOfEra + era * 400
  (if month ≤ 2 then year + 1 else year, month, day)

/-- The number of days of a month. -/
def monthLength (year : Int) (month : Nat) : Nat :=
  if month = 2 then
    if year % 4 = 0 ∧ (year % 100 ≠ 0 ∨ year % 400 = 0) then 29 else 28
  else if month ∈ [4, 6, 9, 11] then 30
  else 31

/-! ## Writing -/

/-- A number with zeros in front up to the width `w`. -/
def padded (w n : Nat) : List Char :=
  let ds := Nat.toDigits 10 n
  List.replicate (w - ds.length) '0' ++ ds

/-- A year; outside of four digits it has a sign. -/
def yearText (y : Int) : List Char :=
  if 0 ≤ y ∧ y ≤ 9999 then padded 4 y.toNat
  else (if y < 0 then '-' else '+') :: padded 4 y.natAbs

/-- A part of a second in three, six or nine places, or nothing. -/
def fractionText (n : Nat) : List Char :=
  if n = 0 then []
  else if n % 1000000 = 0 then '.' :: padded 3 (n / 1000000)
  else if n % 1000 = 0 then '.' :: padded 6 (n / 1000)
  else '.' :: padded 9 n

/-- The text of an instant. -/
def text (t : Instant) : String :=
  let days := t.seconds.fdiv 86400
  let rest := (t.seconds - days * 86400).toNat
  let (year, month, day) := dateOf days
  let leap := 1000000000 ≤ t.nanoseconds
  let second := rest % 60 + (if leap then 1 else 0)
  String.ofList (yearText year ++ '-' :: padded 2 month ++ '-' :: padded 2 day
    ++ 'T' :: padded 2 (rest / 3600) ++ ':' :: padded 2 (rest / 60 % 60)
    ++ ':' :: padded 2 second ++ fractionText (t.nanoseconds % 1000000000) ++ ['Z'])

/-! ## Reading

Blanks may stand in front of each number, of each separator and of the offset, and at the two
ends. -/

/-- The first year that is read. -/
def firstYear : Int := -262143

/-- The last year that is read. -/
def lastYear : Int := 262142

/-- Whether an instant lies in the years that are read. -/
def isInYears (t : Instant) : Bool :=
  daysOf firstYear 1 1 * 86400 ≤ t.seconds && t.seconds < daysOf (lastYear + 1) 1 1 * 86400

/-- A number of at least one and at most `most` digits. -/
def number? (most : Nat) (cs : List Char) : Option (Nat × List Char) :=
  let ds := (cs.takeWhile Text.isAsciiDigit).take most
  if ds = [] then none else some (Text.valueOfDigits ds, cs.drop ds.length)

/-- A year, of any number of digits behind a sign. -/
def year? (cs : List Char) : Option (Int × List Char) := do
  let (year, r) ←
    match Text.skipBlanks cs with
    | '-' :: r => (number? r.length r).map fun (n, r) => (-(n : Int), r)
    | '+' :: r => (number? r.length r).map fun (n, r) => ((n : Int), r)
    | r => (number? 4 r).map fun (n, r) => ((n : Int), r)
  if firstYear ≤ year ∧ year ≤ lastYear then return (year, r) else none

/-- A number within bounds. -/
def bounded? (low high : Nat) (cs : List Char) : Option (Nat × List Char) := do
  let (n, r) ← number? 2 (Text.skipBlanks cs)
  if low ≤ n ∧ n ≤ high then return (n, r) else none

/-- A number behind a separator, within bounds. -/
def field? (separator : Char) (low high : Nat) (cs : List Char) : Option (Nat × List Char) :=
  (Text.char? separator (Text.skipBlanks cs)).bind (bounded? low high)

/-- What follows the mark between a date and a time. -/
def timeMark? : List Char → Option (List Char)
  | c :: r => if c = 'T' ∨ c = 't' ∨ c = ' ' then some r else none
  | [] => none

/-- The nanoseconds of a part of a second, if there is one. -/
def fraction? : List Char → Option (Nat × List Char)
  | '.' :: r => do
    let (n, _) ← number? 9 r
    let ds := r.takeWhile Text.isAsciiDigit
    return (n * Nat.pow 10 (9 - min 9 ds.length), r.drop ds.length)
  | r => some (0, r)

/-- Two digits. -/
def pair? : List Char → Option (Nat × List Char)
  | a :: b :: r =>
    if Text.isAsciiDigit a && Text.isAsciiDigit b then some (Text.valueOfDigits [a, b], r)
    else none
  | _ => none

/-- The sign in front of an offset: whether the time at the place is behind. -/
def sign? : List Char → Option (Bool × List Char)
  | c :: r =>
    if c = '+' then some (false, r) else if c = '-' ∨ c = '\u2212' then some (true, r) else none
  | [] => none

/-- The seconds by which the time at a place is ahead of universal time. Any colons and blanks
may stand between its hours and its minutes. -/
def offset? (cs : List Char) : Option (Int × List Char) :=
  match Text.skipBlanks cs with
  | 'Z' :: r | 'z' :: r => some (0, r)
  | r =>
    if Text.sameLetters (r.take 3) ['U', 'T', 'C'] then some (0, r.drop 3)
    else do
      let (behind, r) ← sign? r
      let (hours, r) ← pair? r
      let (minutes, r) ← pair? (r.dropWhile fun c => c = ':' || Text.isBlank c)
      guard (hours < 24 ∧ minutes < 60)
      let seconds : Int := (hours * 60 + minutes : Nat) * 60
      return (if behind then -seconds else seconds, r)

/-- The instant of a text. -/
def ofText? (s : String) : Option Instant := do
  let (year, r) ← year? s.toList
  let (month, r) ← field? '-' 1 12 r
  let (day, r) ← field? '-' 1 (monthLength year month) r
  let (hour, r) ← (timeMark? r).bind (bounded? 0 23)
  let (minute, r) ← field? ':' 0 59 r
  let (second, r) ← field? ':' 0 60 r
  let (nanoseconds, r) ← fraction? r
  let (offset, r) ← offset? r
  guard (Text.isBlankText r)
  let leap : Nat := if second = 60 then 1 else 0
  let clock : Int := ((hour * 60 + minute) * 60 + second - leap : Nat)
  let t : Instant :=
    ⟨daysOf year month day * 86400 + clock - offset, nanoseconds + leap * 1000000000⟩
  if t.isInYears then return t else none

end Instant
end SchemaMap
