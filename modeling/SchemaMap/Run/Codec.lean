/-
# Outcomes and runs in JSON

A batch is the summary of a run with its identifier and its times.

Key definitions: `Status.codec`, `Outcome.codec`, `Batch`, `Batch.codec`, `Batch.text`.
-/
import SchemaMap.Json.Codec
import SchemaMap.Run.Instant
import SchemaMap.Run.Outcome
import SchemaMap.Schema.Codec

namespace SchemaMap

open Json (Codec Shape Value optionalMember)

/-- A status as a word. -/
def Status.codec : Codec Status :=
  .words Status.all Status.word

/-- The outcome of a request; what is missing or empty is left out. -/
def Outcome.codec : Codec Outcome where
  shape := .record "RequestOutcome"
    [("folder", .anyText, none), ("sql_file", .anyText, none), ("driver", .anyText, none),
     ("status", Status.codec.shape, none),
     ("output_path", .optional (.text "path string" (fun _ => true) ""), some .null),
     ("tables", .count, none), ("mappings", .count, none),
     ("diagnostics", Diagnostic.codec.list.shape, some (.array [])),
     ("error", .optional .anyText, some .null)]
  encode o :=
    .object
      ([("folder", .string o.folder), ("sql_file", .string o.sqlFile),
        ("driver", .string o.driver), ("status", Status.codec.encode o.status)]
        ++ optionalMember "output_path" (o.outputPath.map .string)
        ++ [("tables", .whole o.tables), ("mappings", .whole o.mappings)]
        ++ optionalMember "diagnostics"
          (if o.diagnostics.isEmpty then none
            else some (Diagnostic.codec.list.encode o.diagnostics))
        ++ optionalMember "error" (o.error.map .string))
  decode? v := do
    let diagnostics ←
      match v.get? "diagnostics" with
      | none => some []
      | some d => Diagnostic.codec.list.decode? d
    return ⟨← v.text? "folder", ← v.text? "sql_file", ← v.text? "driver",
      ← (v.get? "status").bind Status.codec.decode?, ← v.optionalText? "output_path",
      ← v.count? "tables", ← v.count? "mappings", diagnostics, ← v.optionalText? "error"⟩

/-- A run that has ended. -/
structure Batch where
  id : String
  startedAt : Instant
  completedAt : Instant
  /-- The length of the run in seconds. -/
  duration : Double
  summary : Summary
deriving Repr, Inhabited

/-- The members of a summary behind its status. -/
def Summary.countMembers (s : Summary) : List (String × Value) :=
  [("requests_total", .whole s.total), ("requests_succeeded", .whole s.succeeded),
   ("requests_failed", .whole s.failed), ("requests_skipped", .whole s.skipped),
   ("mappings_written", .whole s.mappings), ("outcomes", Outcome.codec.list.encode s.outcomes)]

/-- A summary without the identifier and the times of its run. -/
def Summary.encode (s : Summary) : Value :=
  .object (("status", .string s.status) :: s.countMembers)

/-- The shape of an instant. -/
def Instant.shape : Shape :=
  .text "an RFC 3339 formatted date and time string" (fun s => (ofText? s).isSome)
    "input contains invalid characters"

/-- A batch. -/
def Batch.codec : Codec Batch where
  shape := .record "BatchResult"
    [("run_id", .anyText, none), ("status", .anyText, none), ("started_at", Instant.shape, none),
     ("completed_at", Instant.shape, none), ("duration_seconds", .decimal, none),
     ("requests_total", .count, none), ("requests_succeeded", .count, none),
     ("requests_failed", .count, none), ("requests_skipped", .count, none),
     ("mappings_written", .count, none), ("outcomes", Outcome.codec.list.shape, none)]
  encode b :=
    .object
      ([("run_id", .string b.id), ("status", .string b.summary.status),
        ("started_at", .string b.startedAt.text), ("completed_at", .string b.completedAt.text),
        ("duration_seconds", .decimal b.duration)] ++ b.summary.countMembers)
  decode? v := do
    let duration ←
      match v.get? "duration_seconds" with
      | some (.decimal x) => some x
      | _ => none
    let summary : Summary :=
      ⟨← v.text? "status", ← v.count? "requests_total", ← v.count? "requests_succeeded",
        ← v.count? "requests_failed", ← v.count? "requests_skipped",
        ← v.count? "mappings_written", ← Outcome.codec.member? "outcomes" v⟩
    return ⟨← v.text? "run_id", ← (v.text? "started_at").bind Instant.ofText?,
      ← (v.text? "completed_at").bind Instant.ofText?, duration, summary⟩

/-- The text of a batch, with a line for each part. -/
def Batch.text (b : Batch) : String :=
  String.ofList (Batch.codec.encode b).pretty

end SchemaMap
