/-
# Writing a file beside its target

A file is not written in its place. A new file is made in the folder of the path, under a name that
is free there, is filled, kept on the medium, and then takes the place of what is at the path. Every
one of these steps can be refused, and then the new file is removed again. Files that are written one
after the other go through these steps one by one.

Which name is free and what else is refused is up to the medium.

Key definitions: `Store.remove`, `Store.rename`, `Draft`, `Medium`, `Stage.step`, `Store.replace`,
`Writer.advance`.
-/
import SchemaMap.Store.Basic

namespace SchemaMap

namespace Store

/-- The store without a file. -/
def remove (s : Store) (l : Location) : Store :=
  { s with items := s.items.filter fun item => item.1 ≠ l }

/-- The store with a file in the place of another, or of none. -/
def rename (s : Store) (l target : Location) : Store :=
  if l = target then s
  else
    match s.get? l with
    | none => s
    | some x => (s.remove l).put target x

/-- The folder in which a file is made that is to take the place of what is at a path. -/
def folderFor (s : Store) (path : List Char) : Except FileFault Location :=
  match s.checkFolder path with
  | .error e => .error e
  | .ok () => s.follow (startOf s.home path) (((Path.components path).dropLast).map partOf)

end Store

/-- A text that is to be written at a path. -/
structure Draft where
  path : String
  contents : String
deriving DecidableEq, Repr, Inhabited

/-- What is decided by the medium that files are written on. -/
structure Medium where
  /-- The name of a new file in a folder. -/
  name : Store → Location → List Char
  /-- Nothing has that name. -/
  unused : ∀ (s : Store) (folder : Location), s.get? (folder ++ [name s folder]) = none
  /-- What is in a file that could not be filled, and why it could not. -/
  fillRefusal : Store → String → Option (Item × FileFault) := fun _ _ => none
  /-- Why the contents of a file could not be kept. -/
  syncRefusal : Store → Option FileFault := fun _ => none

/-- A medium that refuses nothing. -/
def Medium.Calm (m : Medium) : Prop :=
  (∀ s contents, m.fillRefusal s contents = none) ∧ ∀ s, m.syncRefusal s = none

/-- How far the write of a file has come, with the location of the new file while it is there. -/
inductive Stage where
  | start
  | created (temp : Location)
  | filled (temp : Location)
  | synced (temp : Location)
  | refused (temp : Location) (cause : FileFault)
  | ended (result : Except Fault Unit)

namespace Stage

/-- The location of the new file. -/
def temp? : Stage → Option Location
  | start | ended _ => none
  | created temp | filled temp | synced temp | refused temp _ => some temp

/-- The next step of a write. -/
def step (m : Medium) (d : Draft) : Stage → Store → Stage × Store
  | start, s =>
    match s.folderFor d.path.toList with
    | .error e => (ended (.error (.write d.path e)), s)
    | .ok folder =>
      let temp := folder ++ [m.name s folder]
      (created temp, s.put temp (.text ""))
  | created temp, s =>
    match m.fillRefusal s d.contents with
    | some (left, e) => (refused temp e, s.put temp left)
    | none => (filled temp, s.put temp (.text d.contents))
  | filled temp, s =>
    match m.syncRefusal s with
    | some e => (refused temp e, s)
    | none => (synced temp, s)
  | synced temp, s =>
    match s.targetOf d.path.toList with
    | .error e => (refused temp e, s)
    | .ok target => (ended (.ok ()), s.rename temp target)
  | refused temp e, s => (ended (.error (.write d.path e)), s.remove temp)
  | ended result, s => (ended result, s)

/-- Some steps of a write. -/
def run (m : Medium) (d : Draft) : Stage → Nat → Store → Stage × Store
  | stage, 0, s => (stage, s)
  | stage, n + 1, s =>
    let (stage, s) := stage.step m d s
    run m d stage n s

/-- The largest number of steps to the end. -/
def stepsLeft : Stage → Nat
  | start => 5
  | created _ => 4
  | filled _ => 3
  | synced _ => 2
  | refused _ _ => 1
  | ended _ => 0

end Stage

/-- The whole write of a file. -/
def Store.replace (m : Medium) (s : Store) (d : Draft) : Stage × Store :=
  Stage.start.run m d Stage.start.stepsLeft s

/-- A program that writes files one after the other. -/
structure Writer where
  store : Store
  stage : Stage := .start
  /-- The files that are to be written, the one that is being written first. -/
  todo : List Draft := []
  /-- The files for which the write has ended, the last one first. -/
  done : List (Draft × Except Fault Unit) := []

/-- The next step of the file that is being written. -/
def Writer.advance (m : Medium) (w : Writer) : Writer :=
  match w.todo with
  | [] => w
  | d :: more =>
    match w.stage.step m d w.store with
    | (.ended result, s) =>
      { store := s, stage := .start, todo := more, done := (d, result) :: w.done }
    | (stage, s) => { w with store := s, stage := stage }

end SchemaMap
