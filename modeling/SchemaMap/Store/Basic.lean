/-
# Files and folders

A store holds files and folders by their locations, and knows the folder that a program runs in.
Paths are followed part by part, from the root or from that folder, and each of the parts before
the last has to be a folder. Names and whole paths have a largest length in bytes.

Key definitions: `Store`, `Store.into`, `Store.follow`, `Store.locate`, `Store.readText`,
`Store.placeFor`, `Store.writeText`.
-/
import SchemaMap.Request.Path
import SchemaMap.Fault

namespace SchemaMap

/-- Names from the root down to a file or folder. -/
abbrev Location := List (List Char)

/-- A file, which is a text or not, or a folder. -/
inductive Item where
  | text (contents : String)
  | binary
  | folder
deriving DecidableEq, Repr, Inhabited

/-- Files and folders by their locations. -/
structure Store where
  items : List (Location × Item) := []
  /-- The folder that a program runs in. It is there, with the folders above it. -/
  home : Location := ["tmp".toList, "work".toList]
deriving DecidableEq, Repr, Inhabited

namespace Store

/-- What is at a location. -/
def get? (s : Store) (l : Location) : Option Item :=
  if l.isPrefixOf s.home then some .folder else s.items.lookup l

/-- The items with one of them changed, or added behind the others. -/
def putItem (l : Location) (x : Item) : List (Location × Item) → List (Location × Item)
  | [] => [(l, x)]
  | (k, y) :: more => if k = l then (k, x) :: more else (k, y) :: putItem l x more

/-- The store with one item changed or added. -/
def put (s : Store) (l : Location) (x : Item) : Store :=
  { s with items := putItem l x s.items }

/-- The proper parts of a location, the shortest first. -/
def ancestors : Location → List Location
  | [] => []
  | [_] => []
  | name :: more => [name] :: (ancestors more).map (name :: ·)

/-- An item added below the folder that a program runs in, with the folders above it. -/
def add (s : Store) (l : Location) (x : Item) : Store :=
  let s := (ancestors (s.home ++ l)).foldl
    (fun s folder => if (s.get? folder).isSome then s else s.put folder .folder) s
  if l = [] then s else s.put (s.home ++ l) x

/-! ## Following paths -/

/-- One part of a path, from a folder. The folder above the root is the root. -/
def into (folder : Location) (part : List Char) : Location :=
  if part = [] ∨ part = ['.'] then folder
  else if part = ['.', '.'] then folder.dropLast
  else folder ++ [part]

/-- Accepts the location of a folder. -/
def requireFolder (s : Store) (l : Location) : Except FileFault Unit :=
  match s.get? l with
  | none => .error .notFound
  | some .folder => .ok ()
  | some _ => .error .notADirectory

/-- The length of a text in bytes. -/
def byteLength (cs : List Char) : Nat :=
  cs.foldl (fun n c => n + c.utf8Size) 0

/-- The largest length of a name, in bytes. -/
def nameLimit : Nat := 255

/-- The largest length of a path, in bytes. -/
def pathLimit : Nat := 4095

/-- Follows the parts of a path; what the last of them leads to need not be there. -/
def follow (s : Store) (l : Location) : List (List Char) → Except FileFault Location
  | [] => .ok l
  | part :: more =>
    match s.requireFolder l with
    | .error e => .error e
    | .ok () =>
      if nameLimit < byteLength part then .error .nameTooLong
      else follow s (into l part) more

/-- The folder at which a path starts, for a program that runs in the folder `home`. -/
def startOf (home : Location) (path : List Char) : Location :=
  if Path.isAbsolute path then [] else home

/-- The location to which a path leads. -/
def locate (s : Store) (path : List Char) : Except FileFault Location :=
  if path.contains '\x00' then .error .zeroInName
  else if path = [] then .error .notFound
  else if pathLimit < byteLength path then .error .nameTooLong
  else s.follow (startOf s.home path) (Text.splitOn '/' path)

/-! ## Reading and writing -/

/-- The text of a file. -/
def readText (s : Store) (path : String) : Except FileFault String :=
  match s.locate path.toList with
  | .error e => .error e
  | .ok l =>
    match s.get? l with
    | none => .error .notFound
    | some .folder => .error .isADirectory
    | some .binary => .error .notUtf8
    | some (.text contents) => .ok contents

/-- The component of a path as a part. -/
def partOf : Path.Component → List Char
  | .root | .current => ['.']
  | .parent => ['.', '.']
  | .normal name => name

/-- The length of the name of a file that is made to take the place of another, with the slash
in front of it. -/
def asideLength : Nat := 11

/-- Accepts a path whose folder is there, so that a new file can be made beside it. -/
def checkFolder (s : Store) (path : List Char) : Except FileFault Unit :=
  let parts := ((Path.components path).dropLast).map partOf
  let folder := List.intercalate ['/'] parts
  if folder.contains '\x00' then .error .zeroInName
  else if pathLimit < byteLength folder + asideLength then .error .nameTooLong
  else
    match s.follow (startOf s.home path) parts with
    | .error e => .error e
    | .ok l => s.requireFolder l

/-- The location of a file that can be put in place of what is at a path. -/
def targetOf (s : Store) (path : List Char) : Except FileFault Location :=
  let plain := Text.dropEndWhile (· == '/') path
  let parts := Text.splitOn '/' plain
  let last := parts.getLastD []
  if path.contains '\x00' then .error .invalidArgument
  else if path = [] then .error .notFound
  else if pathLimit < byteLength path then .error .nameTooLong
  else
    match s.follow (startOf s.home path) parts.dropLast with
    | .error e => .error e
    | .ok folder =>
      match s.requireFolder folder with
      | .error e => .error e
      | .ok () =>
        if last = [] ∨ last = ['.'] ∨ last = ['.', '.'] then .error .busy
        else if nameLimit < byteLength last then .error .nameTooLong
        else if plain ≠ path then .error .notADirectory
        else
          match s.get? (into folder last) with
          | some .folder => .error .isADirectory
          | _ => .ok (into folder last)

/-- The location of the file that is written at a path: a new file can be made beside it, and be
put in its place. -/
def placeFor (s : Store) (path : String) : Except FileFault Location :=
  match s.checkFolder path.toList with
  | .error e => .error e
  | .ok () => s.targetOf path.toList

/-- Writes a whole file at once: either the file at the path holds the contents afterwards, or
nothing has changed. -/
def writeText (s : Store) (path contents : String) : Except Fault Store :=
  match s.placeFor path with
  | .error e => .error (.write path e)
  | .ok l => .ok (s.put l (.text contents))

/-- The path of a location, from the folder that a program runs in; other files have none. -/
def pathOf? (s : Store) (l : Location) : Option String :=
  if s.home.isPrefixOf l then
    some (String.ofList (List.intercalate ['/'] (l.drop s.home.length)))
  else none

/-- The files of a store that are texts, by their paths. -/
def texts (s : Store) : List (String × String) :=
  s.items.filterMap fun (l, x) =>
    match x with
    | .text contents => (s.pathOf? l).map (·, contents)
    | _ => none

/-- The files that are new or have another text than before, by their paths. -/
def changes (before after : Store) : List (String × String) :=
  after.items.filterMap fun (l, x) =>
    match x with
    | .text contents =>
      if before.get? l = some x then none else (after.pathOf? l).map (·, contents)
    | _ => none

end Store
end SchemaMap
