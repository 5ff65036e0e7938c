/-
# Drivers

A driver says in which dialect a script is written. An unknown driver declares nothing; the
mistake shows as a note, and as a failure only where the driver itself is asked for.

Key definitions: `Driver`, `Driver.ofId?`, `Driver.read`, `readScript`.
-/
import SchemaMap.Reader.MySql
import SchemaMap.Reader.Postgres
import SchemaMap.Reader.SqlServer

namespace SchemaMap

/-- The dialects that scripts are read in. -/
inductive Driver where
  | postgres
  | mysql
  | sqlserver
deriving DecidableEq, Repr, Inhabited

namespace Driver

/-- All drivers. -/
def all : List Driver := [.postgres, .mysql, .sqlserver]

/-- The identifier of a driver in a request. -/
def id : Driver → String
  | .postgres => "postgres"
  | .mysql => "mysql"
  | .sqlserver => "sqlserver"

/-- The driver of an identifier, which is matched exactly. -/
def ofId? (s : String) : Option Driver :=
  all.find? fun d => d.id == s

/-- The driver of an identifier, or a failure. -/
def require (s : String) : Except Fault Driver :=
  match ofId? s with
  | some d => .ok d
  | none => .error (.unknownDriver s)

/-- Whether the declared types of columns are kept. -/
def providesTypes : Driver → Bool
  | .sqlserver => true
  | _ => false

/-- What a script declares. -/
def read : Driver → List Char → Except Fault Extraction
  | .postgres, cs => Postgres.read (Sql.parse .postgres) cs
  | .mysql, cs => .ok (MySql.read cs)
  | .sqlserver, cs => .ok (SqlServer.read (Sql.parse .tsql) cs)

end Driver

/-- The note on an unknown driver. -/
def unknownDriverNote (id : String) : Diagnostic :=
  { message := "unknown driver '" ++ id ++ "'; expected one of: postgres, mysql, sqlserver" }

/-- What a script declares by the identifier of its driver. -/
def readScript (id text : String) : Except Fault Extraction :=
  match Driver.ofId? id with
  | some d => d.read text.toList
  | none => .ok { diagnostics := [unknownDriverNote id] }

end SchemaMap
