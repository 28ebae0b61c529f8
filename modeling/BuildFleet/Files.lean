/-
Files of a working directory.

A directory is a list of named contents.  `Directory.readText` walks to a file step by step and
decodes it as UTF-8.  A walk may leave the working directory: above it there are directories of
which nothing else is known, and the root of all has the directories that every system has.

A walk ends at the first step that leads nowhere, so the fault of a path is that of its first bad
step.  Blank steps and steps that stay in place do not matter.
-/
import BuildFleet.Failure

namespace BuildFleet

/-- A directory, as the paths of the files in and below it with their contents. -/
structure Directory where
  /-- The paths and contents. -/
  files : List (String × ByteArray)

/-- Where a walk starts. -/
inductive Base where
  /-- At the root of all directories. -/
  | root
  /-- At the working directory, or at one some levels above it. -/
  | working (levels : Nat)
deriving DecidableEq, Repr

/-- A place that a walk comes to. -/
structure Place where
  /-- Where the walk starts. -/
  base : Base
  /-- The steps down from there. -/
  steps : List String
deriving DecidableEq, Repr

namespace Place

/-- The step that leads one level up. -/
def stepUp : String := ".."

/-- The place one step on. -/
def step (p : Place) (name : String) : Place :=
  if name ≠ stepUp then { p with steps := p.steps ++ [name] }
  else if p.steps.isEmpty then
    match p.base with
    | .root => p
    | .working levels => ⟨.working (levels + 1), []⟩
  else { p with steps := p.steps.dropLast }

/-- The steps of a path, without those that stay in place. -/
def stepsOf (path : String) : List String :=
  (path.splitOn "/").filter fun s => s ≠ "" && s ≠ "."

/-- Where a path starts. -/
def start (path : String) : Place :=
  ⟨if path.startsWith "/" then .root else .working 0, []⟩

/-- The place that a path leads to if every step leads somewhere. -/
def ofPath (path : String) : Place :=
  (stepsOf path).foldl step (start path)

/-- One place lies in or below the other. -/
def isBelow (p q : Place) : Bool :=
  p.base = q.base && q.steps.isPrefixOf p.steps

end Place

/-- What is found at a place. -/
inductive Entry where
  | directory
  | file (content : ByteArray)

namespace Directory

/-- A directory without files. -/
def empty : Directory := ⟨[]⟩

/-- A path in its shortest spelling; two slashes in front, and only two, are kept. -/
def normalize (path : String) : String :=
  let root :=
    match path.toList.takeWhile (· = '/') with
    | [] => ""
    | ['/', '/'] => "//"
    | _ => "/"
  let joined := root ++ "/".intercalate (Place.stepsOf path)
  if joined.isEmpty then "." else joined

/-- The directories that every system has in its root. -/
def systemDirectories : List String :=
  ["bin", "boot", "dev", "etc", "home", "lib", "media", "mnt", "opt", "proc", "root", "run",
   "sbin", "srv", "sys", "tmp", "usr", "var"]

/-- What every system has at a place. -/
def systemEntry? (p : Place) : Option Entry :=
  match p with
  | ⟨_, []⟩ => some .directory
  | ⟨.root, ["dev", "null"]⟩ => some (.file .empty)
  | ⟨.root, [name]⟩ => if systemDirectories.contains name then some .directory else none
  | _ => none

/-- What is found at a place. -/
def entry? (d : Directory) (p : Place) : Option Entry :=
  match d.files.find? (Place.ofPath ·.1 = p) with
  | some (_, content) => some (.file content)
  | none =>
    if d.files.any fun f => (Place.ofPath f.1).isBelow p then some .directory
    else systemEntry? p

/-- The most bytes of a single step. -/
def stepLimit : Nat := 255

/-- The most bytes of a path. -/
def pathLimit : Nat := 4095

/-- Takes one step of a walk. -/
def walk (d : Directory) (p : Place) (name : String) : Except FileFault Place :=
  match d.entry? p with
  | none => .error .absent
  | some (.file _) => .error .notDirectory
  | some .directory =>
    let next := p.step name
    if stepLimit < name.utf8ByteSize then .error .nameTooLong
    else if (d.entry? next).isSome then .ok next
    else .error .absent

/-- The content of the file at a path. -/
def find (d : Directory) (path : String) : Except FileFault ByteArray := do
  if path.contains '\x00' then throw .nulInName
  if pathLimit < path.utf8ByteSize then throw .nameTooLong
  match d.entry? (← (Place.stepsOf path).foldlM d.walk (Place.start path)) with
  | some (.file content) => return content
  | some .directory => throw .directory
  | none => throw .absent

/-- The text of the file at a path. -/
def readText (d : Directory) (path : String) : Except FileFault String := do
  match String.fromUTF8? (← d.find path) with
  | some s => return s
  | none => .error .notText

end Directory

end BuildFleet
