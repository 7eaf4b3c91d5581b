import TreeShell.Path
import TreeShell.Tree.Failure
import TreeShell.Tree.Node

/-!
# The state of a file system

The state is a tree and the path of the working directory, and nothing else.  Operations
take a path, read it from the working directory, and either answer a new state or refuse
with the first cause that applies; a refused operation has no new state.

An operation that changes the tree stamps every node from the root down to the node it
works on.
-/

namespace TreeShell.Tree

open TreeShell.Time

/-! ## States -/

/-- A tree and a working directory.  The directory need not exist. -/
structure State where
  root : Node
  currentPath : String
deriving Inhabited

/-- The name of the directory below the root that cannot be deleted. -/
def protectedName : String := "blog"

/-- How many segments the path of a new node may have. -/
def maxDepth : Nat := 48

namespace State

/-- A root with nothing but the empty protected directory. -/
def initial (now : Instant) : State where
  root := .directory "root" [(protectedName, .newDirectory protectedName now)] now now
  currentPath := "/"

/-- The keys from the root to the node a path addresses. -/
def segments (s : State) (path : String) : List String :=
  Path.absoluteSegments s.currentPath path

/-! ## Reading -/

/-- The node at a path. -/
def node? (s : State) (path : String) : Option Node :=
  s.root.lookup? (s.segments path)

/-- The content of the file at a path. -/
def read (s : State) (path : String) : Except Failure String :=
  match s.node? path with
  | none => .error ⟨.notFound, .openFile, path⟩
  | some n =>
    match n.content? with
    | none => .error ⟨.isDirectory, .readFile, path⟩
    | some content => .ok content

/-- The children of the directory at a path in listing order. -/
def list (s : State) (path : String) : Except Failure (List Node) :=
  match s.node? path with
  | none => .error ⟨.notFound, .list, path⟩
  | some n =>
    match n.listing? with
    | none => .error ⟨.notDirectory, .list, path⟩
    | some nodes => .ok nodes

/-! ## Changing -/

/-- Makes the path the working directory, whether or not it leads anywhere. -/
def setCurrentPath (s : State) (path : String) : State :=
  { s with currentPath := path }

/-- The state with the node at the given keys changed. -/
def alter (s : State) (now : Instant) (f : Node → Node) (keys : List String) : State :=
  { s with root := s.root.alter now f keys }

/-- Adds the node that `make` gives for the last segment of a path. -/
def insert (s : State) (now : Instant) (op : Operation) (path : String)
    (make : String → Node) : Except Failure State :=
  match (s.segments path).getLast? with
  | none => .error ⟨.invalidArgument, op, path⟩
  | some name =>
    let parents := (s.segments path).dropLast
    if maxDepth ≤ parents.length then .error ⟨.tooDeep, op, path⟩
    else
      match s.root.lookup? parents with
      | none => .error ⟨.notFound, op, path⟩
      | some parent =>
        if !parent.isDirectory then .error ⟨.notDirectory, op, path⟩
        else if (parent.child? name).isSome then .error ⟨.alreadyExists, op, path⟩
        else .ok (s.alter now (Node.addChild name (make name)) parents)

/-- Makes a file in an existing directory. -/
def createFile (s : State) (now : Instant) (path content : String) : Except Failure State :=
  s.insert now .createFile path fun name => .newFile name content now

/-- Makes an empty directory in an existing directory. -/
def createDirectory (s : State) (now : Instant) (path : String) : Except Failure State :=
  s.insert now .createDirectory path fun name => .newDirectory name now

/-- Takes away a node with all that is below it. -/
def delete (s : State) (now : Instant) (path : String) : Except Failure State :=
  match (s.segments path).getLast? with
  | none => .error ⟨.invalidArgument, .delete, path⟩
  | some name =>
    let parents := (s.segments path).dropLast
    if parents.isEmpty ∧ name = protectedName then .error ⟨.protectedPath, .delete, path⟩
    else if (s.root.lookup? (s.segments path)).isNone then .error ⟨.notFound, .delete, path⟩
    else .ok (s.alter now (Node.removeChild name) parents)

/-- Replaces the content of an existing file. -/
def write (s : State) (now : Instant) (path content : String) : Except Failure State :=
  if (s.segments path).isEmpty then .error ⟨.invalidArgument, .write, path⟩
  else
    match s.node? path with
    | none => .error ⟨.notFound, .write, path⟩
    | some n =>
      if n.isDirectory then .error ⟨.isDirectory, .write, path⟩
      else .ok (s.alter now (Node.setContent content) (s.segments path))

end State

end TreeShell.Tree
