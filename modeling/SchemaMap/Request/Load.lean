/-
# Lists of requests

A list of requests is read from JSON or YAML. In YAML, each scalar is taken as a text, whatever
it looks like.

Key definitions: `Request.readJson`, `Request.readYaml`, `Request.load`.
-/
import SchemaMap.Request.Codec
import SchemaMap.Store.Basic
import SchemaMap.Yaml.Node

namespace SchemaMap
namespace Request

/-- The text of a node that is a scalar. -/
def text? : Yaml.Node → Option String
  | .scalar s => some (String.ofList s.text)
  | _ => none

/-- The text under a key that stands exactly once. -/
def field? (d : Yaml.Document) (key : String) (pairs : List (String × Yaml.Node)) :
    Option String :=
  match pairs.filter fun (k, _) => k == key with
  | [(_, n)] => text? (d.target n)
  | _ => none

/-- A request from its keys; other keys do not count. -/
def ofNode? (d : Yaml.Document) (n : Yaml.Node) : Option Request :=
  match d.target n with
  | .mapping pairs => do
    let pairs ← pairs.mapM fun (k, n) => (text? (d.target k)).map fun k => (k, n)
    return ⟨← field? d "folder" pairs, ← field? d "sql_file" pairs, ← field? d "driver" pairs⟩
  | _ => none

/-- Requests from a document. One without anything in it has no requests. -/
def ofDocument? (d : Yaml.Document) : Option (List Request) :=
  match d.root.map d.target with
  | none => some []
  | some (.scalar s) => if s.isPlain && s.text.isEmpty then some [] else none
  | some (.sequence items) => items.mapM (ofNode? d)
  | some _ => none

/-- Accepts requests that can be run. -/
def checked (requests : List Request) : Except Fault (List Request) :=
  (checkAll requests).map fun () => requests

/-- Requests from a text in JSON. -/
def readJson (text : String) : Except Fault (List Request) :=
  (Request.codec.list.read text).bind checked

/-- Requests from a text in YAML. -/
def readYaml (text : String) : Except Fault (List Request) :=
  match (Yaml.Document.ofText? text.toList).bind ofDocument? with
  | some requests => checked requests
  | none => .error (.yaml "no list of requests")

/-- Whether a file holds YAML by its name. -/
def isYamlPath (path : String) : Bool :=
  (Path.extension? path.toList).any fun e => e == "yaml".toList || e == "yml".toList

/-- Requests from the text of a file, or its failure. -/
def readFile (path : String) (contents : Except FileFault String) : Except Fault (List Request) :=
  match contents with
  | .error e => .error (.configuration ("cannot read " ++ path ++ ": " ++ e.message))
  | .ok text => if isYamlPath path then readYaml text else readJson text

/-- Requests from a file. -/
def load (s : Store) (path : String) : Except Fault (List Request) :=
  readFile path (s.readText path)

end Request
end SchemaMap
