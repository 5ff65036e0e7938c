/-
# Package names

A generated file belongs to a package. Its name is made of the last two segments of the folder
it stands in, or of the tool and the folder where there is only one segment; hyphens are
dropped.

Key definitions: `Artifact.toolOf`, `Artifact.packageName`, `Artifact.checkPackage`.
-/
import SchemaMap.Text.Basic
import SchemaMap.Fault

namespace SchemaMap
namespace Artifact

/-- The part of a package argument behind its last underscore. -/
def toolOf (argument : List Char) : List Char :=
  (Text.splitOn '_' argument).getLast?.getD argument

/-- The name of the package for a folder. -/
def packageName (tool folder : List Char) : List Char :=
  let name :=
    match (Text.splitOn '/' folder).reverse with
    | last :: before :: _ => before ++ '_' :: last
    | _ => tool ++ '_' :: folder
  name.filter (· != '-')

/-- Whether a text is a package name: letters, digits and underscores, and no digit in
front. -/
def isPackageName : List Char → Bool
  | [] => false
  | c :: cs =>
    (Text.isAsciiLetter c || c == '_')
      && cs.all fun d => Text.isAsciiLetter d || Text.isAsciiDigit d || d == '_'

/-- Accepts package names. -/
def checkPackage (name : String) : Except Fault Unit :=
  if isPackageName name.toList then .ok ()
  else .error (.render ("'" ++ name ++ "' is not a valid Go package name"))

end Artifact
end SchemaMap
