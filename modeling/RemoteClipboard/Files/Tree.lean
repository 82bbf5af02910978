import RemoteClipboard.Files.File
import RemoteClipboard.Files.Path

/-! # Directories

A `FileTree` says what is at which `Place`.  `FileTree.walk` follows a path component by component
and finds what is there, or the system's reason why nothing is: a missing component, a component
that is no directory, or a name that is too long.  `FileTree.asDisk` wants a regular file at the
end, and has one reason more: a directory where a file was asked for.

A `Disk` is all that the rest of the library sees of this: for each path a file, with what may be
read of it, or the reason why not even its size is known.  In a tree every file may be read.

The tree changes by `put` and `remove`.  Where a path cannot be followed as far as they need it,
they leave the tree as it is, but for directories that are already made by then. -/

namespace RemoteClipboard

/-- What is found at a path: a regular file and how far it may be read, or the reason why there is
none. -/
abbrev Disk := Bytes → Except SystemCause (File × File.Access)

/-- What a name in a directory stands for. -/
inductive FileTree.Node
  | file (f : File)
  | directory

/-- What is at which place.  The directories that are always there are not listed. -/
structure FileTree where
  nodes : List (Place × FileTree.Node) := []

namespace FileTree

def node? (t : FileTree) (place : Place) : Option Node :=
  if place.names.isEmpty then some .directory else t.nodes.lookup place

/-- Follows components from a place and what is there.  Only a directory leads any further, even
if the next component is empty. -/
def walk (t : FileTree) : Place → Node → List Component → Except SystemCause (Place × Node)
  | place, node, [] => .ok (place, node)
  | _, .file _, _ :: _ => .error SystemCause.notADirectory
  | place, .directory, c :: rest =>
    if c.isTooLong then .error SystemCause.nameTooLong
    else
      match t.node? (place.step c) with
      | none => .error SystemCause.noSuchFile
      | some node => t.walk (place.step c) node rest

/-- The place that a path leads to, and what is there. -/
def find (t : FileTree) (path : Bytes) : Except SystemCause (Place × Node) :=
  (Path.route path).bind fun (start, components) => t.walk start .directory components

/-- The regular file at a path, all of which may be read. -/
def asDisk (t : FileTree) : Disk := fun path =>
  (t.find path).bind fun
    | (_, .file f) => .ok (f, {})
    | (_, .directory) => .error SystemCause.isADirectory

/-! ## Changing the tree -/

def set (t : FileTree) (place : Place) (node : Node) : FileTree :=
  ⟨(place, node) :: t.nodes.filter (fun (p, _) => p ≠ place)⟩

/-- Writes a file, in place of one that is there.  The path has to end in a name, in a directory
that is there, and no directory gives way to a file. -/
def write (t : FileTree) (path : Bytes) (f : File) : FileTree :=
  match Path.route path with
  | .error _ => t
  | .ok (start, components) =>
    match t.walk start .directory components.dropLast, components.getLast? with
    | .ok (dir, .directory), some (.name n) =>
      match Component.isTooLong (.name n), t.node? (dir.child n) with
      | true, _ | _, some .directory => t
      | false, _ => t.set (dir.child n) (.file f)
    | _, _ => t

/-- The components from the first one on that leads to nothing. -/
def missing (t : FileTree) : Place → List Component → List Component
  | _, [] => []
  | place, c :: rest =>
    match t.node? (place.step c) with
    | none => c :: rest
    | some _ => t.missing (place.step c) rest

/-- Follows components and makes each directory that is missing, up to a file or a name that is
too long.  What was made before that stays. -/
def extend (t : FileTree) : Place → List Component → FileTree
  | _, [] => t
  | place, c :: rest =>
    if c.isTooLong then t
    else
      match t.node? (place.step c) with
      | some (.file _) => t
      | some .directory => t.extend (place.step c) rest
      | none => (t.set (place.step c) .directory).extend (place.step c) rest

/-- The most directories that are made at once. -/
def maxMissing : Nat := 1000

/-- Makes a directory and those that are missing on the way to it, unless they are too many. -/
def makeDirectories (t : FileTree) (path : Bytes) : FileTree :=
  match Path.route path with
  | .error _ => t
  | .ok (start, components) =>
    if maxMissing < ((t.missing start components).filter Component.isName).length then t
    else t.extend start components

/-- Puts a file or a directory at a path. -/
def put (t : FileTree) (path : Bytes) : Node → FileTree
  | .file f => t.write path f
  | .directory => t.makeDirectories path

/-- Whether a path ends in a name, slashes at its end left aside. -/
def endsInName (components : List Component) : Bool :=
  ((components.filter (· ≠ .empty)).getLast?).any Component.isName

/-- Takes away what is at a path and all below it.  A directory is only emptied where the path ends
in a dot or two instead of its name. -/
def remove (t : FileTree) (path : Bytes) : FileTree :=
  match Path.route path with
  | .error _ => t
  | .ok (start, components) =>
    match t.walk start .directory components with
    | .error _ => t
    | .ok (place, _) =>
      ⟨t.nodes.filter fun (p, _) => !place.covers p || (p = place && !endsInName components)⟩

end FileTree

end RemoteClipboard
