/-
# Running requests

A request is run by reading its script, making the generated file and writing it. A request
that fails is kept with its failure and stops no other.

Key definitions: `Artifact.ofExtraction`, `Request.plan`, `Request.process`, `Run.execute`,
`Run.check`.
-/
import SchemaMap.Reader.Driver
import SchemaMap.Run.Outcome
import SchemaMap.Store.Basic

namespace SchemaMap

/-- The generated file for what a script declares. -/
def Artifact.ofExtraction (o : Options) (r : Request) (driver : Driver) (x : Extraction) :
    Artifact :=
  { package := String.ofList (Artifact.packageName o.tool.toList r.folder.toList)
    sourceFile := r.sqlFile
    mappingsImport := o.mappingsImport
    mappings := JobMapping.ofTables x.tables
    tables := x.tables
    includesTypes := driver.providesTypes }

/-- What is left to do for a request. -/
inductive Step where
  /-- Nothing: the outcome is known. -/
  | done (outcome : Outcome)
  /-- A file is to be written; the outcome holds if that succeeds. -/
  | write (path contents : String) (outcome : Outcome)
deriving DecidableEq, Repr, Inhabited

namespace Request

/-- The generated file of a request, with what its script declares. -/
def generate (o : Options) (r : Request) (driver : Driver) (source : Except FileFault String) :
    Except Fault (Extraction × String) :=
  match source with
  | .error e => .error (.sourceRead r.sourcePath e)
  | .ok text =>
    match driver.read text.toList with
    | .error e => .error e
    | .ok found => ((Artifact.ofExtraction o r driver found).render).map fun file => (found, file)

/-- The outcome of a request whose file has been made. -/
def succeeded (o : Options) (r : Request) (status : Status) (found : Extraction) : Outcome :=
  { Outcome.ofRequest r status with
    outputPath := some (r.outputPath o.outputFileName)
    tables := found.tables.length
    mappings := (JobMapping.ofTables found.tables).length
    diagnostics := found.diagnostics }

/-- What is left to do once the script has been read. The script of an unknown driver does not
count. -/
def plan (o : Options) (r : Request) (source : Except FileFault String) : Step :=
  match Driver.ofId? r.driver with
  | none =>
    .done (if o.strictDrivers then Outcome.failed r (.unknownDriver r.driver)
      else Outcome.skipped r [unknownDriverNote r.driver])
  | some driver =>
    match r.generate o driver source with
    | .error e => .done (Outcome.failed r e)
    | .ok (found, file) =>
      if o.dryRun then .done (r.succeeded o .dryRun found)
      else .write (r.outputPath o.outputFileName) file (r.succeeded o .written found)

/-- A request, from reading its script to writing its file. -/
def process (s : Store) (o : Options) (r : Request) : Outcome × Store :=
  match r.plan o (s.readText r.sourcePath) with
  | .done outcome => (outcome, s)
  | .write path contents outcome =>
    match s.writeText path contents with
    | .error e => (Outcome.failed r e, s)
    | .ok s' => (outcome, s')

end Request

namespace Run

/-- The note on a request that was not started. -/
def cancelledNote : Diagnostic :=
  { message := "cancelled before start" }

/-- Requests one after another. -/
def processAll (o : Options) : List Request → Store → List Outcome × Store
  | [], s => ([], s)
  | r :: more, s =>
    let (outcome, s') := r.process s o
    let (outcomes, s'') := processAll o more s'
    (outcome :: outcomes, s'')

/-- All requests of a run; none is started if the run is cancelled before. -/
def execute (o : Options) (requests : List Request) (cancelled : Bool) (s : Store) :
    Summary × Store :=
  if cancelled then
    (Summary.ofOutcomes true (requests.map fun r => Outcome.skipped r [cancelledNote]), s)
  else
    let (outcomes, s') := processAll o requests s
    (Summary.ofOutcomes false outcomes, s')

/-- Accepts requests and options with which a run can start. -/
def check (o : Options) (requests : List Request) : Except Fault Unit :=
  match Request.checkAll requests with
  | .error e => .error e
  | .ok () => o.check

end Run
end SchemaMap
