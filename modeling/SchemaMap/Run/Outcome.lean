/-
# Outcomes

What has become of one request, and of all requests of a run.

Key definitions: `Outcome`, `Summary`, `Summary.ofOutcomes`, `Summary.check`.
-/
import SchemaMap.Request.Basic

namespace SchemaMap

/-- What has become of a request. -/
inductive Status where
  | written
  /-- The file has been made but not written. -/
  | dryRun
  /-- Nothing has been made: the driver is unknown, or the run was cancelled before. -/
  | skipped
  | failed
deriving DecidableEq, Repr, Inhabited

namespace Status

/-- All of them. -/
def all : List Status := [.written, .dryRun, .skipped, .failed]

/-- The word for a status. -/
def word : Status → String
  | .written => "written"
  | .dryRun => "dry_run"
  | .skipped => "skipped"
  | .failed => "failed"

/-- Whether a file has been made. -/
def hasSucceeded : Status → Bool
  | .written | .dryRun => true
  | _ => false

end Status

/-- What has become of a request, with the counts of what was found. -/
structure Outcome where
  folder : String
  sqlFile : String
  driver : String
  status : Status
  outputPath : Option String := none
  tables : Nat := 0
  mappings : Nat := 0
  diagnostics : List Diagnostic := []
  error : Option String := none
deriving DecidableEq, Repr, Inhabited

namespace Outcome

/-- The outcome of a request before anything is known about it. -/
def ofRequest (r : Request) (status : Status) : Outcome :=
  { folder := r.folder, sqlFile := r.sqlFile, driver := r.driver, status }

/-- A request for which nothing is done. -/
def skipped (r : Request) (notes : List Diagnostic) : Outcome :=
  { ofRequest r .skipped with diagnostics := notes }

/-- A request that has failed. -/
def failed (r : Request) (fault : Fault) : Outcome :=
  { ofRequest r .failed with error := some fault.message }

end Outcome

/-- What has become of all requests of a run. -/
structure Summary where
  status : String
  total : Nat
  succeeded : Nat
  failed : Nat
  skipped : Nat
  /-- The mappings of the requests that have succeeded. -/
  mappings : Nat
  outcomes : List Outcome
deriving DecidableEq, Repr, Inhabited

namespace Summary

/-- The summary of outcomes, for a run that was cancelled or not. -/
def ofOutcomes (cancelled : Bool) (outcomes : List Outcome) : Summary :=
  let succeeded := outcomes.filter (·.status.hasSucceeded)
  let failed := outcomes.countP (·.status == .failed)
  { status := if 0 < failed then "failed" else if cancelled then "cancelled" else "completed"
    total := outcomes.length
    succeeded := succeeded.length
    failed
    skipped := outcomes.countP (·.status == .skipped)
    mappings := succeeded.foldl (fun n o => n + o.mappings) 0
    outcomes }

/-- The failure that a run ends with, if it does. -/
def check (s : Summary) : Except Fault Unit :=
  if 0 < s.failed then .error (.requestsFailed s.failed s.total)
  else if s.status = "cancelled" then .error .cancelled
  else .ok ()

end Summary
end SchemaMap
