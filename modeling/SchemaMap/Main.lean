/-
# The command line

Gives the program its arguments, the files, a clock and a source of identifiers. Requests are
run one after another.

Key definitions: `Main.readText`, `Main.writeText`, `main`.
-/
import Std.Time.DateTime.Timestamp
import SchemaMap.CommandLine.Program

namespace SchemaMap
namespace Main

open CommandLine

/-- The refusal behind an error of the system. Its number may come with its sign changed. -/
def refusalOf : IO.Error → FileFault
  | .noFileOrDirectory _ n _ | .inappropriateType _ n _ | .permissionDenied _ n _
  | .alreadyExists _ n _ | .resourceExhausted _ n _ | .invalidArgument _ n _
  | .noSuchThing _ n _ | .interrupted _ n _ | .resourceBusy n _ | .resourceVanished n _
  | .unsupportedOperation n _ | .hardwareFault n _ | .unsatisfiedConstraints n _
  | .illegalOperation n _ | .protocolError n _ | .timeExpired n _ | .otherError n _ =>
    .ofNumber (min n.toNat (0 - n).toNat)
  | .unexpectedEof => .other "unexpected end of file"
  | .userError text => .other text

/-- What an action gives, or why the system refused it. -/
def attempt {α : Type} (action : IO α) : IO (Except FileFault α) := do
  try
    return .ok (← action)
  catch e =>
    return .error (refusalOf e)

/-- The text of a file. -/
def readText (path : String) : IO (Except FileFault String) := do
  match ← attempt (IO.FS.readBinFile path) with
  | .error e => return .error e
  | .ok bytes =>
    match String.fromUTF8? bytes with
    | some text => return .ok text
    | none => return .error .notUtf8

/-- Random bytes as hexadecimal digits. -/
def randomDigits (count : USize) : IO String := do
  let bytes ← IO.getRandomBytes count
  return String.ofList (bytes.toList.flatMap fun b => Text.hexPadded 2 b.toNat)

/-- A byte of a random identifier by its place; two of them say of which kind it is. -/
def identifierByte (b : UInt8) (i : Nat) : UInt8 :=
  if i = 6 then b % 16 + 64 else if i = 8 then b % 64 + 128 else b

/-- A random identifier: sixteen bytes in five groups. -/
def randomIdentifier : IO String := do
  let bytes ← IO.getRandomBytes 16
  return String.ofList (bytes.toList.zipIdx.flatMap fun (b, i) =>
    (if [4, 6, 8, 10].contains i then ['-'] else []) ++
      Text.hexPadded 2 (identifierByte b i).toNat)

/-- Writes a whole file at once: it is made beside the target and then put in its place. -/
def writeText (path contents : String) : IO (Except FileFault Unit) := do
  let parts := Text.splitOn '/' (Text.dropEndWhile (· == '/') path.toList)
  let folder := String.ofList (parts.dropLast.flatMap (· ++ ['/']))
  let beside := folder ++ ".tmp" ++ (← randomDigits 3)
  match ← attempt (IO.FS.writeFile beside contents) with
  | .error e => return .error e
  | .ok () =>
    match ← attempt (IO.FS.rename beside path) with
    | .ok () => return .ok ()
    | .error e =>
      IO.FS.removeFile beside
      return .error e

/-- A request, from reading its script to writing its file. -/
def process (o : Options) (r : Request) : IO Outcome := do
  match r.plan o (← readText r.sourcePath) with
  | .done outcome => return outcome
  | .write path contents outcome =>
    match ← writeText path contents with
    | .ok () => return outcome
    | .error e => return Outcome.failed r (.write path e)

/-- The time on the clock. -/
def now : IO Instant := do
  let t ← Std.Time.Timestamp.now
  let n := t.toNanosecondsSinceUnixEpoch.val
  return ⟨n.fdiv 1000000000, (n.fmod 1000000000).toNat⟩

/-- Milliseconds as seconds with two places. -/
def secondsText (milliseconds : Nat) : String :=
  let n := (milliseconds + 5) / 10
  toString (n / 100) ++ "." ++ String.ofList (Instant.padded 2 (n % 100))

/-- A run on the files of the system. -/
def answer (a : Arguments) : IO Answer := do
  match Request.readFile a.config (← readText a.config) with
  | .error e => return failure e
  | .ok requests =>
    let o := a.options 1
    match Run.check o requests with
    | .error e => return failure e
    | .ok () =>
      let startedAt ← now
      let start ← IO.monoMsNow
      let outcomes ← requests.mapM (process o)
      let length := (← IO.monoMsNow) - start
      let batch : Batch :=
        { id := ← randomIdentifier
          startedAt
          completedAt := ← now
          duration := .ofFloat (length.toFloat / 1000)
          summary := Summary.ofOutcomes false outcomes }
      return report a batch (secondsText length)

/-- The answer of the program to its arguments. -/
def answerTo (arguments : List String) : IO Answer := do
  match read arguments with
  | .error m => return m.answer
  | .ok .help => return { output := joined helpLines }
  | .ok .version => return { output := versionText }
  | .ok (.run a) => answer a

end Main
end SchemaMap

/-- The program. -/
def main (arguments : List String) : IO UInt32 := do
  let a ← SchemaMap.Main.answerTo arguments
  IO.print a.output
  IO.eprint a.errors
  return a.exitCode.toUInt32
