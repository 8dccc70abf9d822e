import GpuTelemetry.Platform.Errno

/-!
# File trees

A directory tree as the program sees it. A file has an identity of its own, apart
from the path that leads to it: whoever has it open goes on reading it after the
path is gone or leads to another file.
-/

namespace GpuTelemetry.Sysfs

/-- The names on the way from the root of a tree. -/
abbrev Path := List String

inductive Node
  | directory
  | file (id : Nat)
  /-- A symbolic link to another path of the same tree. -/
  | link (target : Path)
  deriving DecidableEq

theorem Node.directory_ne_file (id : Nat) : directory ≠ file id := nofun

theorem Node.link_ne_file (target : Path) (id : Nat) : link target ≠ file id := nofun

structure FileTree where
  nodes : List (Path × Node) := []
  /-- The contents of every file that was ever made. -/
  contents : List (Nat × List UInt8) := []
  /-- The identity of the next new file. -/
  nextId : Nat := 0
  /-- No file has that identity yet, so it is never given to two files. -/
  fresh : ∀ place id, (place, Node.file id) ∈ nodes → id < nextId := by
    exact fun _ _ hmem => absurd hmem List.not_mem_nil

/-- What was opened: a file, or a directory as if it were one. -/
inductive Handle
  | directory
  | file (id : Nat)
  deriving DecidableEq

/-- An open file, and the place in it from which reading goes on. -/
structure OpenFile where
  handle : Handle
  position : Nat := 0
  deriving DecidableEq

namespace FileTree

/-- The node at a path without following a link there. The root is a directory. -/
def node? (tree : FileTree) (path : Path) : Option Node :=
  if path.isEmpty then some .directory
  else (tree.nodes.find? fun n => n.1 = path).map Prod.snd

/-- Where `rest` leads from the directory `base`, or the error number if it leads nowhere. Only the
last name may be missing. `follow` goes on from the root with what a link makes of the rest. -/
def walkFrom (tree : FileTree) (follow : Path → Except Int Path) :
    Path → Path → Except Int Path
  | base, [] => .ok base
  | base, name :: rest =>
    if name = "." then walkFrom tree follow base rest
    else if name = ".." then
      if base.isEmpty then .error Platform.noEntry else walkFrom tree follow base.dropLast rest
    else
      match tree.node? (base ++ [name]) with
      | some .directory => walkFrom tree follow (base ++ [name]) rest
      | some (.link target) => follow (target ++ rest)
      | some (.file _) => if rest.isEmpty then .ok (base ++ [name]) else .error Platform.notDirectory
      | none => if rest.isEmpty then .ok (base ++ [name]) else .error Platform.noEntry

/-- Where a path leads from the root with at most `links` links followed. -/
def walk (tree : FileTree) (links : Nat) : Path → Except Int Path :=
  match links with
  | 0 => tree.walkFrom (fun _ => .error Platform.linkLoop) []
  | links + 1 => tree.walkFrom (tree.walk links) []

/-- The number of links that may be followed on the way along one path. -/
def linkLimit : Nat := 40

/-- The place that opening a path reaches, whether or not something is there. -/
def locate (tree : FileTree) (path : Path) : Except Int Path :=
  tree.walk linkLimit path

def locate? (tree : FileTree) (path : Path) : Option Path :=
  (tree.locate path).toOption

/-- The place of the directory that a path leads to, or the error number of listing it. -/
def directory (tree : FileTree) (path : Path) : Except Int Path := do
  let place ← tree.locate path
  match tree.node? place with
  | some .directory => return place
  | some _ => throw Platform.notDirectory
  | none => throw Platform.noEntry

def isDirectory (tree : FileTree) (path : Path) : Bool :=
  (tree.directory path).isOk

/-- The place that the last name of a path stands for; a link there is not followed. -/
def entry? (tree : FileTree) (path : Path) : Option Path := do
  let name ← path.getLast?
  let parent ← tree.locate? path.dropLast
  if name = "." || name = ".." || tree.node? parent ≠ some .directory then none
  else some (parent ++ [name])

def open? (tree : FileTree) (path : Path) : Option Handle := do
  match ← tree.node? (← tree.locate? path) with
  | .directory => some .directory
  | .file id => some (.file id)
  | .link _ => none

/-- The present contents of an open file. A directory cannot be read. -/
def read? (tree : FileTree) : Handle → Option (List UInt8)
  | .directory => none
  | .file id => (tree.contents.find? fun c => c.1 = id).map Prod.snd

/-- What is left of an open file, which is read to its end by that. -/
def readOn? (tree : FileTree) (file : OpenFile) : Option (List UInt8) × OpenFile :=
  match tree.read? file.handle with
  | some bytes =>
    (some (bytes.drop file.position), { file with position := max file.position bytes.length })
  | none => (none, file)

/-- The names in a directory, links followed on the way to it, with what they name. -/
def list? (tree : FileTree) (path : Path) : Option (List (String × Node)) := do
  let place ← (tree.directory path).toOption
  return tree.nodes.filterMap fun (p, n) =>
    match p.getLast? with
    | some name => if p = place ++ [name] then some (name, n) else none
    | none => none

/-- Adds a directory or a link. -/
def insert (tree : FileTree) (place : Path) (node : Node) (hnode : ∀ id, node ≠ .file id) :
    FileTree :=
  { tree with
    nodes := tree.nodes ++ [(place, node)]
    fresh := fun other id hmem => by
      rcases List.mem_append.mp hmem with hold | hnew
      · exact tree.fresh other id hold
      · exact absurd (congrArg Prod.snd (List.mem_singleton.mp hnew)).symm (hnode id) }

/-- Adds a new file. -/
def insertFile (tree : FileTree) (place : Path) (bytes : List UInt8) : FileTree where
  nodes := tree.nodes ++ [(place, .file tree.nextId)]
  contents := (tree.nextId, bytes) :: tree.contents
  nextId := tree.nextId + 1
  fresh other id hmem := by
    rcases List.mem_append.mp hmem with hold | hnew
    · exact Nat.lt_succ_of_lt (tree.fresh other id hold)
    · cases List.mem_singleton.mp hnew
      exact Nat.lt_succ_self _

/-- Takes out what is at a place. -/
def without (tree : FileTree) (place : Path) : FileTree :=
  { tree with
    nodes := tree.nodes.filter fun n => n.1 ≠ place
    fresh := fun other id hmem => tree.fresh other id (List.mem_filter.mp hmem).1 }

/-- Puts a directory or a link where nothing is yet. -/
def insertNew? (tree : FileTree) (path : Path) (node : Node) (hnode : ∀ id, node ≠ .file id) :
    Option FileTree := do
  let place ← tree.entry? path
  if (tree.node? place).isSome then none else some (tree.insert place node hnode)

/-- Makes the directories on the way from `above` along a path that are missing. -/
def makeDirectoriesFrom? : FileTree → Path → Path → Option FileTree
  | tree, _, [] => some tree
  | tree, above, name :: rest => do
    let here := above ++ [name]
    let tree ←
      if tree.isDirectory here then some tree
      else tree.insertNew? here .directory Node.directory_ne_file
    makeDirectoriesFrom? tree here rest

/-- Makes the directories along a path, unless something else is in the way. -/
def makeDirectories? (tree : FileTree) (path : Path) : Option FileTree :=
  tree.makeDirectoriesFrom? [] path

/-- Makes the directories above a path. -/
def makeParents? (tree : FileTree) (path : Path) : Option FileTree :=
  tree.makeDirectories? (path.filter fun name => name ≠ ".").dropLast

/-- Puts contents into the file that a path leads to, which keeps its identity if it exists, and is
made if its directory exists. -/
def put (tree : FileTree) (path : Path) (bytes : List UInt8) : FileTree :=
  match tree.locate? path with
  | none => tree
  | some place =>
    match tree.node? place with
    | none => tree.insertFile place bytes
    | some (.file id) =>
      { tree with contents := (id, bytes) :: tree.contents.filter fun c => c.1 ≠ id }
    | some _ => tree

/-- Puts contents into a file, whose directory is made if it is missing. -/
def write (tree : FileTree) (path : Path) (bytes : List UInt8) : FileTree :=
  match tree.makeParents? path with
  | some tree => tree.put path bytes
  | none => tree

/-- Takes a file or a link out of the tree, but no directory. Open files stay as they are. -/
def remove (tree : FileTree) (path : Path) : FileTree :=
  match tree.entry? path with
  | some place =>
    if tree.node? place = some .directory then tree
    else tree.without place
  | none => tree

/-- Puts a new file in the place of the file or link at a path. -/
def replace (tree : FileTree) (path : Path) (bytes : List UInt8) : FileTree :=
  (tree.remove path).put path bytes

/-- Makes a link where nothing is yet, and the directory for it. -/
def makeLink (tree : FileTree) (path target : Path) : FileTree :=
  match tree.makeParents? path with
  | some tree => (tree.insertNew? path (.link target) (Node.link_ne_file target)).getD tree
  | none => tree

def makeDirectory (tree : FileTree) (path : Path) : FileTree :=
  (tree.makeDirectories? path).getD tree

end FileTree

end GpuTelemetry.Sysfs
