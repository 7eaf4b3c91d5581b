import TreeShell.Log.Level
import TreeShell.Store.Backend
import TreeShell.Tree.Failure

/-!
# Log events

An event is something that the program tells while it works.  One table gives for each event
its level, the part of the program that tells it, and its words with the fields behind them.

Stores and trees are told of by the file system, lines by the shell, and a refused removal
by `rm`.  What an error of a store or of a saved text says beyond its kind is not told.
-/

namespace TreeShell.Log

open TreeShell.Store TreeShell.Tree

/-! ## Events -/

/-- What the program tells. -/
inductive Event where
  /-- The store that is asked for cannot be opened, and a memory stands in for it. -/
  | unavailable (why : String)
  | resetting
  /-- A tree was revived from what is saved under a key. -/
  | restored (key : String)
  /-- What is saved under a key is no tree. -/
  | unparsed (key : String)
  | unreadable (key : String) (why : Fault)
  | unsaved (key : String) (why : Fault)
  | created (operation : Operation) (path : String)
  | removed (path : String)
  | written (path : String) (bytes : Nat)
  | cleared
  /-- There is no directory to put posts into. -/
  | unseeded
  | seeded (count : Nat)
  | executing (command : String) (arguments : Nat)
  | refusedRemoval (why : Failure)
deriving DecidableEq, Repr

/-- Whether an event tells of a change to the tree. -/
def Event.isChange : Event → Bool
  | .created .. | .removed _ | .written .. | .cleared => true
  | _ => false

/-! ## Records -/

/-- What an event is in a log. -/
structure Record where
  level : Level
  /-- The part of the program that tells it. -/
  target : String
  message : String
  /-- Further values by their names. -/
  fields : List (String × String) := []
deriving DecidableEq, Repr

/-- The record of an event. -/
def Event.record : Event → Record
  | .unavailable why =>
    { level := .warn, target := "blogshell"
      message := "persistent storage unavailable, keeping state in memory"
      fields := [("error", why)] }
  | .resetting =>
    { level := .info, target := "blogshell", message := "resetting file system" }
  | .restored key =>
    { level := .debug, target := "blogshell::fs::virtual_fs"
      message := "file system restored", fields := [("key", key)] }
  | .unparsed key =>
    { level := .warn, target := "blogshell::fs::virtual_fs"
      message := "failed to parse stored file system, using default"
      fields := [("key", key), ("error", "not a file system")] }
  | .unreadable key why =>
    { level := .warn, target := "blogshell::fs::virtual_fs"
      message := "failed to load file system, using default"
      fields := [("key", key), ("error", why.message)] }
  | .unsaved key why =>
    { level := .error, target := "blogshell::fs::virtual_fs"
      message := "failed to save file system"
      fields := [("key", key), ("error", why.message)] }
  | .created operation path =>
    { level := .debug, target := "blogshell::fs::virtual_fs", message := "node created"
      fields := [("path", path), ("operation", operation.word)] }
  | .removed path =>
    { level := .debug, target := "blogshell::fs::virtual_fs", message := "node removed"
      fields := [("path", path)] }
  | .written path bytes =>
    { level := .debug, target := "blogshell::fs::virtual_fs", message := "file written"
      fields := [("path", path), ("bytes", toString bytes)] }
  | .cleared =>
    { level := .debug, target := "blogshell::fs::virtual_fs"
      message := "file system reset" }
  | .unseeded =>
    { level := .debug, target := "blogshell::seed"
      message := "no blog directory, skipping seed" }
  | .seeded count =>
    { level := .info, target := "blogshell::seed", message := "seeded blog posts"
      fields := [("created", toString count)] }
  | .executing command arguments =>
    { level := .debug, target := "blogshell::shell", message := "executing"
      fields := [("command", command), ("args", toString arguments)] }
  | .refusedRemoval why =>
    { level := .debug, target := "blogshell::commands::rm", message := "rm refused"
      fields := [("error", why.message)] }

/-- A record as a line. -/
def Record.line (r : Record) : String :=
  " ".intercalate
    (r.level.name.toUpper :: r.message :: r.fields.map fun f => f.1 ++ "=" ++ f.2)

end TreeShell.Log
