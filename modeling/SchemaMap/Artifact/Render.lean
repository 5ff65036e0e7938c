/-
# Writing a generated file

A generated file declares a package with one function that gives the job mappings, and where
types are kept a second one that gives the type map. Its text depends on nothing but what is
written into it.

Key definitions: `Artifact`, `Artifact.check`, `Artifact.text`, `Artifact.render`.
-/
import SchemaMap.Artifact.Quoted
import SchemaMap.Artifact.Package
import SchemaMap.Artifact.TypeMap
import SchemaMap.Schema.Name

namespace SchemaMap

/-- What is written into a generated file. -/
structure Artifact where
  package : String
  sourceFile : String
  mappingsImport : String
  mappings : List JobMapping
  tables : List Table
  /-- Whether the declared types are kept. -/
  includesTypes : Bool := false
deriving DecidableEq, Repr, Inhabited

namespace Artifact

/-- The import path of the package that declares the mappings, unless another one is given. -/
def defaultImport : String :=
  "github.com/nucleuscloud/neosync/backend/gen/go/protos/mgmt/v1alpha1"

/-- A line of a file. -/
def line (parts : List (List Char)) : List Char :=
  parts.flatten ++ ['\n']

/-- A line that is always the same. -/
def fixedLine (s : String) : List Char :=
  s.toList ++ ['\n']

/-- The lines of a mapping. -/
def mappingText (m : JobMapping) : List Char :=
  fixedLine "\t\t\x7b"
    ++ line ["\t\t\tSchema: ".toList, quoted m.schema.toList, [',']]
    ++ line ["\t\t\tTable:  ".toList, quoted m.table.toList, [',']]
    ++ line ["\t\t\tColumn: ".toList, quoted m.column.toList, [',']]
    ++ fixedLine "\t\t\tTransformer: &mgmtv1alpha1.JobMappingTransformer\x7b"
    ++ line ["\t\t\t\tSource: mgmtv1alpha1.TransformerSource_".toList,
      m.transformer.constant.toList, [',']]
    ++ fixedLine "\t\t\t\x7d,"
    ++ fixedLine "\t\t\x7d,"

/-- The lines of the function that gives the mappings. -/
def mappingsText (mappings : List JobMapping) : List Char :=
  fixedLine "func GetDefaultSyncJobMappings() []*mgmtv1alpha1.JobMapping \x7b"
    ++ fixedLine "\treturn []*mgmtv1alpha1.JobMapping\x7b"
    ++ mappings.flatMap mappingText
    ++ fixedLine "\t\x7d"
    ++ fixedLine "\x7d"

/-- The line of a column and its type. -/
def typeLine (column : String × String) : List Char :=
  line [['\t', '\t', '\t'], quoted column.1.toList, [':', ' '], quoted column.2.toList, [',']]

/-- The lines of a table in the type map. -/
def entryText (entry : String × List (String × String)) : List Char :=
  line [['\t', '\t'], quoted entry.1.toList, [':', ' ', '\x7b']]
    ++ entry.2.flatMap typeLine
    ++ fixedLine "\t\t\x7d,"

/-- The lines of the function that gives the type map. -/
def typeMapText (m : TypeMap) : List Char :=
  fixedLine "func GetTableColumnTypeMap() map[string]map[string]string \x7b"
    ++ fixedLine "\treturn map[string]map[string]string\x7b"
    ++ m.flatMap entryText
    ++ fixedLine "\t\x7d"
    ++ fixedLine "\x7d"

/-- The lines in front of the functions. -/
def headText (a : Artifact) : List Char :=
  fixedLine "// Code generated by jobmapping-gen. DO NOT EDIT."
    ++ line ["// source: ".toList, a.sourceFile.toList.map fun c => if c = '\n' then ' ' else c]
    ++ fixedLine ""
    ++ line ["package ".toList, a.package.toList]
    ++ fixedLine ""
    ++ fixedLine "import ("
    ++ line ["\tmgmtv1alpha1 ".toList, quoted a.mappingsImport.toList]
    ++ fixedLine ")"
    ++ fixedLine ""

/-- The text of a generated file. -/
def text (a : Artifact) : List Char :=
  a.headText ++ mappingsText a.mappings
    ++ if a.includesTypes then fixedLine "" ++ typeMapText (TypeMap.ofTables a.tables) else []

/-- Accepts a mapping whose names can be written; only the schema may be missing. -/
def checkMapping (m : JobMapping) : Except Fault Unit := do
  if m.schema ≠ "" then Name.check m.schema
  Name.check m.table
  Name.check m.column

/-- Accepts a file whose package and names can be written. -/
def check (a : Artifact) : Except Fault Unit := do
  checkPackage a.package
  a.mappings.forM checkMapping

/-- The text of a generated file, if its package and names can be written. -/
def render (a : Artifact) : Except Fault String :=
  match a.check with
  | .error e => .error e
  | .ok () => .ok (String.ofList a.text)

end Artifact
end SchemaMap
