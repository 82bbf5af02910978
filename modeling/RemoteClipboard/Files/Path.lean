import RemoteClipboard.Bytes
import RemoteClipboard.Fault.SystemCause

/-! # Paths

A path is a text of bytes: components with slashes between them.  `Path.route` reads one into the
place where it starts and the `Component`s to follow from there, one after the other.

A path is walked, not tidied up: `gone/../one` leads nowhere without a directory `gone`, so no
component is dropped before the directories themselves are known. -/

namespace RemoteClipboard

/-! ## Places -/

/-- A directory that is always there: the working directory, one so many levels above it, or the
root. -/
inductive Origin
  | working (above : Nat)
  | root
deriving DecidableEq

/-- Where something can be: the names that lead down to it from a directory that is always
there. -/
structure Place where
  origin : Origin := .working 0
  names : List Bytes := []
deriving DecidableEq

/-- The directory above one that is always there.  Nothing is above the root. -/
def Origin.parent : Origin → Origin
  | .working above => .working (above + 1)
  | .root => .root

namespace Place

def parent (p : Place) : Place :=
  if p.names.isEmpty then { p with origin := p.origin.parent }
  else { p with names := p.names.dropLast }

def child (p : Place) (name : Bytes) : Place := { p with names := p.names ++ [name] }

/-- Whether a place is this one or below it. -/
def covers (p q : Place) : Bool := p.origin = q.origin && p.names.isPrefixOf q.names

end Place

/-! ## Components -/

/-- What stands between two slashes: nothing, the directory itself, the one above, or a name. -/
inductive Component
  | empty
  | here
  | up
  | name (n : Bytes)
deriving DecidableEq

namespace Component

def maxName : Nat := 255

def ofBytes (b : Bytes) : Component :=
  if b.isEmpty then .empty
  else if b = Bytes.ofString "." then .here
  else if b = Bytes.ofString ".." then .up
  else .name b

/-- Whether a component is a name, and so can stand for something new. -/
def isName : Component → Bool
  | .name _ => true
  | .empty | .here | .up => false

/-- Whether a component is a name that no directory can hold. -/
def isTooLong : Component → Bool
  | .name n => maxName < n.length
  | .empty | .here | .up => false

end Component

/-- Where one component leads from a directory. -/
def Place.step (p : Place) : Component → Place
  | .empty | .here => p
  | .up => p.parent
  | .name n => p.child n

/-! ## Routes -/

namespace Path

def maxLength : Nat := 4095

/-- Reads a path, which ends at its first zero byte.  The empty path leads nowhere; one that
begins with a slash starts at the root, any other in the working directory. -/
def route (path : Bytes) : Except SystemCause (Place × List Component) :=
  let text := path.takeWhile (· ≠ 0)
  if text.isEmpty then .error SystemCause.noSuchFile
  else if maxLength < text.length then .error SystemCause.nameTooLong
  else
    let start : Place := if text.head? = some 0x2F then { origin := .root } else {}
    .ok (start, (text.splitOn (0x2F : UInt8)).map Component.ofBytes)

end Path

end RemoteClipboard
