/-
# Paths

A path is a text of names with slashes between. Two paths are the same place in words if they
have the same components: repeated slashes, slashes at the end and a `.` behind the first name
do not count, while `..` does.

Key definitions: `Path.join`, `Path.Component`, `Path.components`, `Path.extension?`,
`Path.isFileName`.
-/
import SchemaMap.Text.Basic

namespace SchemaMap
namespace Path

/-- Whether a path starts at the root. -/
def isAbsolute (cs : List Char) : Bool :=
  cs.head? == some '/'

/-- A path behind another; an absolute one stands for itself. -/
def join (folder file : List Char) : List Char :=
  if isAbsolute file || folder.isEmpty then file
  else if folder.getLast? = some '/' then folder ++ file
  else folder ++ '/' :: file

/-- A component of a path. -/
inductive Component where
  | root
  | current
  | parent
  | normal (name : List Char)
deriving DecidableEq, Repr, Inhabited

/-- The component of a part between slashes, unless it does not count. -/
def component? (part : List Char) : Option Component :=
  if part = [] ∨ part = ['.'] then none
  else if part = ['.', '.'] then some .parent
  else some (.normal part)

/-- The components of a path. -/
def components (cs : List Char) : List Component :=
  match Text.splitOn '/' cs with
  | [] => []
  | first :: more =>
    let front :=
      if isAbsolute cs then [.root]
      else if first = ['.'] then [.current]
      else (component? first).toList
    front ++ more.filterMap component?

/-- The name of the file that a path ends in. -/
def fileName? (cs : List Char) : Option (List Char) :=
  match (components cs).getLast? with
  | some (.normal name) => some name
  | _ => none

/-- The part of a file name behind its last point, which may not be its first character. -/
def extension? (cs : List Char) : Option (List Char) :=
  (fileName? cs).bind fun name =>
    match (Text.splitOn '.' name).reverse with
    | last :: before :: more => if before = [] ∧ more = [] then none else some last
    | _ => none

/-- Whether a text is the name of one file, without any separator. -/
def isFileName (cs : List Char) : Bool :=
  components cs == [.normal cs] && !cs.contains '/' && !cs.contains '\\'

end Path
end SchemaMap
