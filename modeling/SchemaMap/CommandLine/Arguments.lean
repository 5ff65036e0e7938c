/-
# Arguments of the program

The program takes two arguments and some options. Arguments are read from the left; a value is
checked when the next argument that is known has been seen, or at the end. Behind `--` there
are no options.

Key definitions: `CommandLine.Arguments`, `CommandLine.Misuse`, `CommandLine.Scan.take`,
`CommandLine.read`.
-/
import SchemaMap.Text.Basic

namespace SchemaMap
namespace CommandLine

/-- The places that take a value. -/
inductive Slot where
  | config
  | package
  | workers
  | logFormat
  | verbosity
deriving DecidableEq, Repr, Inhabited

/-- The options that take no value. -/
inductive Flag where
  | strictDrivers
  | dryRun
  | outputJson
deriving DecidableEq, Repr, Inhabited

/-- The options that take a value, by name. -/
def valueOptions : List (String × Slot) :=
  [("workers", .workers), ("log-format", .logFormat), ("verbosity", .verbosity)]

/-- The options that take no value, by name. -/
def flagOptions : List (String × Flag) :=
  [("strict-drivers", .strictDrivers), ("dry-run", .dryRun), ("output-json", .outputJson)]

/-- A place that takes a value, as it stands in messages. -/
def Slot.usage : Slot → String
  | .config => "<CONFIG>"
  | .package => "<PACKAGE>"
  | .workers => "--workers <WORKERS>"
  | .logFormat => "--log-format <LOG_FORMAT>"
  | .verbosity => "--verbosity <VERBOSITY>"

/-- An option that takes no value, as it stands in messages. -/
def Flag.usage : Flag → String
  | .strictDrivers => "--strict-drivers"
  | .dryRun => "--dry-run"
  | .outputJson => "--output-json"

/-- What is wrong with the arguments. -/
inductive Misuse where
  | missing
  | unexpected (argument : String)
  | invalid (value : String) (slot : Slot) (reason : String)
  | valueMissing (slot : Slot)
  | repeated (usage : String)
  | surplusValue (value usage : String)
deriving DecidableEq, Repr, Inhabited

/-- The wording of a misuse. -/
def Misuse.message : Misuse → String
  | .missing => "error: the following required arguments were not provided:"
  | .unexpected a => "error: unexpected argument '" ++ a ++ "' found"
  | .invalid value slot reason =>
    "error: invalid value '" ++ value ++ "' for '" ++ slot.usage ++ "': " ++ reason
  | .valueMissing slot =>
    "error: a value is required for '" ++ slot.usage ++ "' but none was supplied"
  | .repeated usage => "error: the argument '" ++ usage ++ "' cannot be used multiple times"
  | .surplusValue value usage =>
    "error: unexpected value '" ++ value ++ "' for '" ++ usage
      ++ "' found; no more were expected"

/-- The arguments of a run. -/
structure Arguments where
  config : String
  package : String
  workers : Option Nat
  strictDrivers : Bool
  dryRun : Bool
  outputJson : Bool
deriving DecidableEq, Repr, Inhabited

/-- What the arguments ask for. -/
inductive Command where
  | run (a : Arguments)
  | help
  | version
deriving DecidableEq, Repr, Inhabited

/-- The digits of a number of 64 bits from the left, where `n` has been read. -/
def countFrom (n : Nat) : List Char → Except String Nat
  | [] => .ok n
  | c :: cs =>
    if !Text.isAsciiDigit c then .error "invalid digit found in string"
    else
      let m := 10 * n + (c.toNat - '0'.toNat)
      if m < Nat.pow 2 64 then countFrom m cs else .error "number too large to fit in target type"

/-- A number of 64 bits, perhaps with a plus sign in front. -/
def count (cs : List Char) : Except String Nat :=
  match cs with
  | [] => .error "cannot parse integer from empty string"
  | ['+'] => .error "invalid digit found in string"
  | '+' :: ds => countFrom 0 ds
  | ds => countFrom 0 ds

/-- What has been read of the arguments. -/
structure Scan where
  values : List (Slot × String) := []
  flags : List Flag := []
  /-- A place whose value has not been checked or is still to come. -/
  pending : Option (Slot × Option String) := none
  positionals : Nat := 0
deriving Repr, Inhabited

namespace Scan

/-- Accepts a value for a place. -/
def accept (s : Scan) (slot : Slot) (value : String) : Except Misuse Scan :=
  if (s.values.lookup slot).isSome then .error (.repeated slot.usage)
  else
    let accepted : Except Misuse Scan :=
      .ok { s with pending := none, values := s.values ++ [(slot, value)] }
    match slot with
    | .config => if value.isEmpty then .error (.valueMissing slot) else accepted
    | .workers =>
      match count value.toList with
      | .error reason => .error (.invalid value slot reason)
      | .ok _ => accepted
    | _ => accepted

/-- Checks the value that is pending. -/
def settle (s : Scan) : Except Misuse Scan :=
  match s.pending with
  | none => .ok s
  | some (slot, none) => .error (.valueMissing slot)
  | some (slot, some value) => s.accept slot value

/-- Takes an argument that is no option. -/
def positional (s : Scan) (a : String) : Except Misuse Scan :=
  match s.positionals with
  | 0 => s.settle.map fun s => { s with pending := some (.config, some a), positionals := 1 }
  | 1 => s.settle.map fun s => { s with pending := some (.package, some a), positionals := 2 }
  | _ => .error (.unexpected a)

/-- Takes an option by its name, with the value behind its sign of equality. -/
def named (s : Scan) (name : String) (attached : Option String) :
    Except Misuse (Scan ⊕ Command) :=
  let plain (usage : String) (next : Scan → Except Misuse (Scan ⊕ Command)) :
      Except Misuse (Scan ⊕ Command) :=
    match attached with
    | some value => .error (.surplusValue value usage)
    | none =>
      match s.settle with
      | .error e => .error e
      | .ok s => next s
  match flagOptions.lookup name, valueOptions.lookup name with
  | some flag, _ =>
    plain flag.usage fun s =>
      if s.flags.contains flag then .error (.repeated flag.usage)
      else .ok (.inl { s with flags := flag :: s.flags })
  | none, some slot =>
    match s.settle, attached with
    | .error e, _ => .error e
    | .ok s, none => .ok (.inl { s with pending := some (slot, none) })
    | .ok s, some value => (s.accept slot value).map .inl
  | none, none =>
    if name = "help" then plain "--help" fun _ => .ok (.inr .help)
    else if name = "version" then plain "--version" fun _ => .ok (.inr .version)
    else .error (.unexpected ("--" ++ name))

/-- Takes one argument. -/
def take (s : Scan) (a : String) : Except Misuse (Scan ⊕ Command) :=
  match a.toList with
  | '-' :: '-' :: cs =>
    let name := cs.takeWhile (· != '=')
    let attached :=
      match cs.drop name.length with
      | _ :: value => some (String.ofList value)
      | [] => none
    s.named (String.ofList name) attached
  | '-' :: 'h' :: _ => s.settle.map fun _ => .inr .help
  | '-' :: 'V' :: _ => s.settle.map fun _ => .inr .version
  | '-' :: c :: _ => .error (.unexpected (String.ofList ['-', c]))
  | _ =>
    match s.pending with
    | some (slot, none) => .ok (.inl { s with pending := some (slot, some a) })
    | _ => (s.positional a).map .inl

/-- The arguments once all have been taken. -/
def finish (s : Scan) : Except Misuse Command :=
  match s.settle with
  | .error e => .error e
  | .ok s =>
    match s.values.lookup .config, s.values.lookup .package with
    | some config, some package =>
      let workers := (s.values.lookup .workers).bind fun w => (count w.toList).toOption
      .ok (.run ⟨config, package, workers, s.flags.contains .strictDrivers,
        s.flags.contains .dryRun, s.flags.contains .outputJson⟩)
    | _, _ => .error .missing

/-- Takes arguments behind `--`. -/
def takePositionals (s : Scan) : List String → Except Misuse Command
  | [] => s.finish
  | a :: more =>
    match s.positional a with
    | .error e => .error e
    | .ok s => takePositionals s more

/-- Takes arguments in order. -/
def takeAll (s : Scan) : List String → Except Misuse Command
  | [] => s.finish
  | a :: more =>
    if a = "--" then s.takePositionals more
    else
      match s.take a with
      | .error e => .error e
      | .ok (.inr command) => .ok command
      | .ok (.inl s) => takeAll s more

end Scan

/-- What the arguments ask for. -/
def read (arguments : List String) : Except Misuse Command :=
  ({} : Scan).takeAll arguments

end CommandLine
end SchemaMap
