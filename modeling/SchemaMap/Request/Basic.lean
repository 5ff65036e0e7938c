/-
# Requests and options

A request names a script, the folder it stands in and its driver; the generated file is
written into the same folder. The options of a run hold for all of its requests.

Key definitions: `Request`, `Request.sourcePath`, `Request.outputPath`, `Request.checkAll`,
`Options`, `Options.check`.
-/
import SchemaMap.Request.Path
import SchemaMap.Artifact.Render

namespace SchemaMap

/-- A script to read. The driver is kept as text, so that an unknown one is not refused. -/
structure Request where
  folder : String
  sqlFile : String
  driver : String
deriving DecidableEq, Repr, Inhabited

namespace Request

/-- The path of the script. -/
def sourcePath (r : Request) : String :=
  String.ofList (Path.join r.folder.toList r.sqlFile.toList)

/-- The path of the generated file. -/
def outputPath (r : Request) (fileName : String) : String :=
  String.ofList (Path.join r.folder.toList fileName.toList)

/-- What tells the folders of two requests apart. -/
def folderKey (r : Request) : List Path.Component :=
  Path.components (Text.dropEndWhile (· == '/') r.folder.toList)

/-- A failure of the request with a number. -/
def refusal (index : Nat) (reason : String) : Fault :=
  .configuration ("request " ++ toString index ++ ": " ++ reason)

/-- Accepts the requests from the number `index` on, where `seen` are the folders of those
before, each with its number. -/
def checkFrom (index : Nat) (seen : List (List Path.Component × Nat)) :
    List Request → Except Fault Unit
  | [] => .ok ()
  | r :: more =>
    if Text.isBlankText r.folder.toList then .error (refusal index "folder is required")
    else if Text.isBlankText r.sqlFile.toList then .error (refusal index "sql_file is required")
    else
      match seen.lookup r.folderKey with
      | some first =>
        .error (.configuration ("requests " ++ toString first ++ " and " ++ toString index
          ++ " both target folder '" ++ r.folder ++ "'"))
      | none => checkFrom (index + 1) ((r.folderKey, index) :: seen) more

/-- Accepts a list of requests that is not empty and in which each has a folder of its own and
a script. -/
def checkAll (rs : List Request) : Except Fault Unit :=
  if rs.isEmpty then .error (.configuration "request list is empty") else checkFrom 0 [] rs

end Request

/-- What holds for all requests of a run. -/
structure Options where
  tool : String
  /-- The number of requests that may run at one time, where it is set. -/
  workers : Option Nat := none
  /-- Whether an unknown driver is a failure. -/
  strictDrivers : Bool := false
  /-- Whether nothing is written. -/
  dryRun : Bool := false
  outputFileName : String := "job_mappings.go"
  mappingsImport : String := Artifact.defaultImport
deriving DecidableEq, Repr, Inhabited

namespace Options

/-- The options for a package argument. -/
def ofArgument (argument : String) : Options :=
  { tool := String.ofList (Artifact.toolOf argument.toList) }

/-- The largest number of requests at one time that is chosen by itself. -/
def maxWorkers : Nat := 16

/-- The number of requests at one time is set from the number of processors, unless it is set
already. -/
def withProcessors (o : Options) (processors : Nat) : Options :=
  match o.workers with
  | some _ => o
  | none => { o with workers := some (min maxWorkers (max 1 processors)) }

/-- The number of requests at one time. -/
def workerCount (o : Options) : Nat :=
  o.workers.getD 4

/-- Accepts options with which a run can start. -/
def check (o : Options) : Except Fault Unit :=
  if o.workers = some 0 then .error (.configuration "workers must be at least 1")
  else if Path.isFileName o.outputFileName.toList then .ok ()
  else
    .error (.configuration ("output file name '" ++ o.outputFileName
      ++ "' must be a plain file name"))

end Options
end SchemaMap
