import TreeShell.Log.Event
import TreeShell.Tree.Document

/-!
# File systems

A file system is a state that is written through to a store: after every operation that
changes the state, the whole of it is saved under one key.  A write that fails is
forgotten, and the state goes on in memory.

Beside an operation stands what is told of it in a log.
-/

namespace TreeShell

open TreeShell.Log TreeShell.Time TreeShell.Tree

/-- A state with the store and the key it is saved under. -/
structure FileSystem where
  state : State
  store : Store
  key : String

namespace FileSystem

/-! ## Opening -/

/-- The key a state is saved under unless another is asked for. -/
def defaultKey : String := "terminal-filesystem"

/-- The state saved under a key.  An empty working directory stands for the root; a store
that cannot be read, holds nothing or holds no state gives the initial state. -/
def revive (store : Store) (key : String) (now : Instant) : State :=
  match store.get key with
  | .ok (some text) =>
    match State.load? text with
    | some s => if s.currentPath = "" then { s with currentPath := "/" } else s
    | none => .initial now
  | .ok none => .initial now
  | .error _ => .initial now

/-- The file system saved under a key of a store. -/
def openAt (store : Store) (key : String) (now : Instant) : FileSystem :=
  ⟨revive store key now, store, key⟩

/-- What is told when the file system is opened. -/
def openingEvents (store : Store) (key : String) : List Event :=
  match store.get key with
  | .ok (some text) => if (State.load? text).isSome then [.restored key] else [.unparsed key]
  | .ok none => []
  | .error why => [.unreadable key why]

/-- A file system of its own in memory. -/
def fresh (now : Instant) : FileSystem :=
  openAt { backend := .empty } defaultKey now

/-- The file system opened anew from its store under a key. -/
def reopen (fs : FileSystem) (key : String) (now : Instant) : FileSystem :=
  openAt fs.store key now

/-! ## The store below -/

/-- A file system whose store has other faults from now on. -/
def withFaults (fs : FileSystem) (reads : Bool) (writes : Nat → Bool) : FileSystem :=
  { fs with store := { fs.store with readsFail := reads, writesFail := writes } }

/-- Puts a text into the store below, whatever its faults. -/
def plant (fs : FileSystem) (key text : String) : FileSystem :=
  { fs with store := { fs.store with backend := fs.store.backend.set key text } }

/-! ## Changing -/

/-- Takes on a new state and tries to save it. -/
def commit (fs : FileSystem) (s : State) : FileSystem :=
  { fs with state := s, store := fs.store.set fs.key s.save }

/-- What is told when a state is saved. -/
def savingEvents (fs : FileSystem) : List Event :=
  (fs.store.nextFault?.map (.unsaved fs.key)).toList

/-- What is told of an attempted operation, with the event for one that succeeded. -/
def changeEvents (fs : FileSystem) (event : Event) :
    Except Failure FileSystem → List Event
  | .ok _ => event :: fs.savingEvents
  | .error _ => []

/-- Makes a path the working directory. -/
def setCurrentPath (fs : FileSystem) (path : String) : FileSystem :=
  fs.commit (fs.state.setCurrentPath path)

/-- Makes a file in an existing directory. -/
def createFile (fs : FileSystem) (now : Instant) (path content : String) :
    Except Failure FileSystem :=
  fs.commit <$> fs.state.createFile now path content

/-- Makes an empty directory in an existing directory. -/
def createDirectory (fs : FileSystem) (now : Instant) (path : String) :
    Except Failure FileSystem :=
  fs.commit <$> fs.state.createDirectory now path

/-- Takes away a node with all that is below it. -/
def delete (fs : FileSystem) (now : Instant) (path : String) : Except Failure FileSystem :=
  fs.commit <$> fs.state.delete now path

/-- Replaces the content of an existing file. -/
def write (fs : FileSystem) (now : Instant) (path content : String) :
    Except Failure FileSystem :=
  fs.commit <$> fs.state.write now path content

/-- Goes back to the initial state. -/
def reset (fs : FileSystem) (now : Instant) : FileSystem :=
  fs.commit (.initial now)

/-! ## Reading -/

/-- The path of the working directory. -/
def currentPath (fs : FileSystem) : String :=
  fs.state.currentPath

/-- The node at a path. -/
def node? (fs : FileSystem) (path : String) : Option Node :=
  fs.state.node? path

/-- The content of the file at a path. -/
def read (fs : FileSystem) (path : String) : Except Failure String :=
  fs.state.read path

/-- The children of the directory at a path in listing order. -/
def list (fs : FileSystem) (path : String) : Except Failure (List Node) :=
  fs.state.list path

end FileSystem

end TreeShell
