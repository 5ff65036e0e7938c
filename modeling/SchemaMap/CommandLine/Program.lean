/-
# The program

The program loads a list of requests, runs them, and tells what has become of them: in words,
or as JSON. What it says depends on nothing but its arguments, the files and the identity and
times of the run.

Key definitions: `CommandLine.Answer`, `CommandLine.summaryText`, `CommandLine.report`,
`CommandLine.run`.
-/
import SchemaMap.CommandLine.Arguments
import SchemaMap.Request.Load
import SchemaMap.Run.Codec
import SchemaMap.Run.Process

namespace SchemaMap
namespace CommandLine

/-- What the program says, and its exit code. -/
structure Answer where
  output : String := ""
  errors : String := ""
  exitCode : Nat := 0
deriving DecidableEq, Repr, Inhabited

/-- The name and the version of the program. -/
def versionText : String :=
  "jobmapping-gen 0.3.0\n"

/-- The lines that explain the arguments. -/
def helpLines : List String :=
  ["Generate default job mappings from SQL DDL files", "",
   "Usage: jobmapping-gen [OPTIONS] <CONFIG> <PACKAGE>", "",
   "Arguments:",
   "  <CONFIG>   Path to the request list (JSON, or YAML for .yaml/.yml)",
   "  <PACKAGE>  Go package of the generating tool, e.g. workflow_testdata", "",
   "Options:",
   "      --workers <WORKERS>        Number of requests processed concurrently [default: CPU cores]",
   "      --strict-drivers           Fail requests whose driver is not postgres, mysql or sqlserver",
   "      --dry-run                  Parse and render without writing any file",
   "      --output-json              Output JSON result to stdout",
   "      --log-format <LOG_FORMAT>  Log format: text or json [default: text]",
   "      --verbosity <VERBOSITY>    Log verbosity: debug, info, warn, error [default: info]",
   "  -h, --help                     Print help",
   "  -V, --version                  Print version"]

/-- Lines with a line break behind each. -/
def joined (lines : List String) : String :=
  String.join (lines.map (· ++ "\n"))

/-- The answer to a misuse. -/
def Misuse.answer (m : Misuse) : Answer :=
  { errors := m.message ++ "\n", exitCode := 2 }

/-- What the program says on a failure. -/
def failureText (f : Fault) : String :=
  f.report ++ "\n"

/-- The options of a run. -/
def Arguments.options (a : Arguments) (processors : Nat) : Options :=
  let o := Options.ofArgument a.package
  { o with workers := a.workers, strictDrivers := a.strictDrivers, dryRun := a.dryRun }
    |>.withProcessors processors

/-- The headline of a summary. -/
def headline (status : String) (dryRun : Bool) : String :=
  if status = "completed" then
    if dryRun then "Dry run completed!" else "Generation completed!"
  else if status = "cancelled" then "Generation cancelled."
  else "Generation finished with failures."

/-- The line on an outcome, if there is one. -/
def outcomeLine (o : Outcome) : List String :=
  match o.status with
  | .failed => ["  Failed: " ++ o.folder ++ " (" ++ o.error.getD "unknown error" ++ ")"]
  | .skipped => ["  Skipped: " ++ o.folder]
  | _ => []

/-- A run in words. -/
def summaryText (b : Batch) (seconds : String) (dryRun : Bool) : String :=
  let s := b.summary
  joined
    (["", headline s.status dryRun, "  Run ID: " ++ b.id, "  Duration: " ++ seconds ++ "s",
      "  Requests: " ++ toString s.succeeded ++ "/" ++ toString s.total ++ " ("
        ++ toString s.skipped ++ " skipped)",
      "  Mappings: " ++ toString s.mappings] ++ s.outcomes.flatMap outcomeLine)

/-- What the program says on a run that has ended. -/
def report (a : Arguments) (b : Batch) (seconds : String) : Answer :=
  let output := if a.outputJson then b.text ++ "\n" else summaryText b seconds a.dryRun
  match b.summary.check with
  | .ok () => { output }
  | .error e => { output, errors := failureText e, exitCode := e.exitCode }

/-- The answer to a failure in front of a run. -/
def failure (f : Fault) : Answer :=
  { errors := failureText f, exitCode := f.exitCode }

/-- The identity and the times of a run. -/
structure Stamp where
  id : String
  startedAt : Instant
  completedAt : Instant
  duration : Double
  /-- The length of the run in seconds, with two places. -/
  seconds : String
deriving Repr, Inhabited

/-- A run on files. -/
def runRequests (a : Arguments) (processors : Nat) (stamp : Stamp) (s : Store) :
    Answer × Store :=
  match Request.load s a.config with
  | .error e => (failure e, s)
  | .ok requests =>
    let o := a.options processors
    match Run.check o requests with
    | .error e => (failure e, s)
    | .ok () =>
      let (summary, s') := Run.execute o requests false s
      (report a ⟨stamp.id, stamp.startedAt, stamp.completedAt, stamp.duration, summary⟩
        stamp.seconds, s')

/-- The answer of the program to its arguments, and the files afterwards. -/
def run (arguments : List String) (processors : Nat) (stamp : Stamp) (s : Store) :
    Answer × Store :=
  match read arguments with
  | .error m => (m.answer, s)
  | .ok .help => ({ output := joined helpLines }, s)
  | .ok .version => ({ output := versionText }, s)
  | .ok (.run a) => runRequests a processors stamp s

end CommandLine
end SchemaMap
