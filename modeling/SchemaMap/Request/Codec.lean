/-
# Requests and options in JSON

Drivers, requests and options as they stand in JSON. A request names all its parts; options
may leave out what has a default.

Key definitions: `Driver.codec`, `Request.codec`, `Options.codec`.
-/
import SchemaMap.Json.Codec
import SchemaMap.Reader.Driver
import SchemaMap.Request.Basic

namespace SchemaMap

open Json (Codec Shape Value optionalMember)

/-- A driver by its identifier. -/
def Driver.codec : Codec Driver :=
  .words Driver.all Driver.id

/-- A request. -/
def Request.codec : Codec Request where
  shape := .record "ParseRequest"
    [("folder", .anyText, none), ("sql_file", .anyText, none), ("driver", .anyText, none)]
  encode r :=
    .object [("folder", .string r.folder), ("sql_file", .string r.sqlFile),
      ("driver", .string r.driver)]
  decode? v := do return ⟨← v.text? "folder", ← v.text? "sql_file", ← v.text? "driver"⟩

/-- The options of a run; what is missing has its default. -/
def Options.codec : Codec Options where
  shape := .record "GeneratorOptions"
    [("tool_package", .anyText, none), ("workers", .optional .count, some .null),
     ("strict_drivers", .flag, some (.bool false)), ("dry_run", .flag, some (.bool false)),
     ("output_file_name", .anyText, some (.string ({ tool := "" } : Options).outputFileName)),
     ("mappings_import", .anyText, some (.string Artifact.defaultImport))]
  encode o :=
    .object (("tool_package", .string o.tool)
      :: (optionalMember "workers" (o.workers.map .whole)
        ++ [("strict_drivers", .bool o.strictDrivers), ("dry_run", .bool o.dryRun),
          ("output_file_name", .string o.outputFileName),
          ("mappings_import", .string o.mappingsImport)]))
  decode? v := do
    return ⟨← v.text? "tool_package", ← v.optionalCount? "workers", ← v.flag? "strict_drivers",
      ← v.flag? "dry_run", ← v.text? "output_file_name", ← v.text? "mappings_import"⟩

end SchemaMap
