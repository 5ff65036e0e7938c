/-
# Tables, columns and mappings in JSON

Key definitions: `Column.codec`, `Table.codec`, `Transformer.codec`, `JobMapping.codec`,
`Diagnostic.codec`, `Extraction.codec`.
-/
import SchemaMap.Json.Codec
import SchemaMap.Schema.Basic

namespace SchemaMap

open Json (Codec Shape Value optionalMember)

/-- A column; the type is left out where it is not known. -/
def Column.codec : Codec Column where
  shape := .record "Column"
    [("name", .anyText, none), ("type_name", .optional .anyText, some .null)]
  encode c :=
    .object (("name", .string c.name) :: optionalMember "type_name" (c.typeName.map .string))
  decode? v := do return ⟨← v.text? "name", ← v.optionalText? "type_name"⟩

/-- A table with its columns. -/
def Table.codec : Codec Table where
  shape := .record "Table"
    [("schema", .anyText, none), ("name", .anyText, none),
     ("columns", Column.codec.list.shape, none)]
  encode t :=
    .object [("schema", .string t.schema), ("name", .string t.name),
      ("columns", Column.codec.list.encode t.columns)]
  decode? v := do
    return ⟨← v.text? "schema", ← v.text? "name", ← Column.codec.member? "columns" v⟩

/-- A transformer as a word. -/
def Transformer.codec : Codec Transformer :=
  .words [.passthrough] fun
    | .passthrough => "passthrough"

/-- A mapping; without a transformer it passes its column through. -/
def JobMapping.codec : Codec JobMapping where
  shape := .record "JobMapping"
    [("schema", .anyText, none), ("table", .anyText, none), ("column", .anyText, none),
     ("transformer", Transformer.codec.shape, some (Transformer.codec.encode .passthrough))]
  encode m :=
    .object [("schema", .string m.schema), ("table", .string m.table),
      ("column", .string m.column), ("transformer", Transformer.codec.encode m.transformer)]
  decode? v := do
    return ⟨← v.text? "schema", ← v.text? "table", ← v.text? "column",
      ← (v.get? "transformer").bind Transformer.codec.decode?⟩

/-- A note; the line is left out where it is not known. -/
def Diagnostic.codec : Codec Diagnostic where
  shape := .record "Diagnostic"
    [("line", .optional .count, some .null), ("message", .anyText, none)]
  encode d :=
    .object (optionalMember "line" (d.line.map .whole) ++ [("message", .string d.message)])
  decode? v := do return ⟨← v.optionalCount? "line", ← v.text? "message"⟩

/-- What a script declares. -/
def Extraction.codec : Codec Extraction where
  shape := .record "ParseOutput"
    [("tables", Table.codec.list.shape, none), ("diagnostics", Diagnostic.codec.list.shape, none)]
  encode x :=
    .object [("tables", Table.codec.list.encode x.tables),
      ("diagnostics", Diagnostic.codec.list.encode x.diagnostics)]
  decode? v := do
    return ⟨← Table.codec.member? "tables" v, ← Diagnostic.codec.member? "diagnostics" v⟩

end SchemaMap
