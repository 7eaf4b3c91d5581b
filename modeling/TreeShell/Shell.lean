import TreeShell.Command.Registry
import TreeShell.Session
import TreeShell.Text.LowerCase

/-!
# The shell

A shell reads a line as words.  The first word in lower case is the name of a command,
and the others are its arguments; there is no quoting.
-/

namespace TreeShell

open TreeShell.Command TreeShell.Text TreeShell.Time

/-- A file system, a session over it and the commands for both. -/
structure Shell where
  fs : FileSystem
  session : Session := {}
  registry : Registry := .standard

namespace Shell

/-- A new shell over a file system. -/
def new (fs : FileSystem) : Shell := { fs }

/-- The error for a word that names no command. -/
def notFound (verb : String) : Result :=
  .refuse (verb ++ ": command not found. Type 'help' for available commands.")

/-- Runs a command. -/
def perform (sh : Shell) (now : Instant) (c : Command) (args : List String) :
    Result × Shell :=
  let o := c.run now args sh.fs
  (o.result, { sh with fs := o.fs, session := o.signals.foldl Session.heed sh.session })

/-- Runs a line. -/
def handle (sh : Shell) (now : Instant) (line : String) : Result × Shell :=
  match words line with
  | [] => (.silent, sh)
  | first :: args =>
    match sh.registry.find? (toLower first) with
    | none => (notFound (toLower first), sh)
    | some c => sh.perform now c args

/-- What is told of a line. -/
def lineEvents (sh : Shell) (now : Instant) (line : String) : List Log.Event :=
  match words line with
  | [] => []
  | first :: args =>
    match sh.registry.find? (toLower first) with
    | none => []
    | some c => .executing (toLower first) args.length :: c.events now args sh.fs

/-- Runs a line and records it in the history.  A line of blanks is passed over. -/
def submit (sh : Shell) (now : Instant) (line : String) : Option Result × Shell :=
  if allBlank line then (none, sh)
  else
    let (result, sh) := sh.handle now line
    (some result, { sh with session := sh.session.record line result })

/-- The prompt: the working directory, with a tilde for the root. -/
def prompt (sh : Shell) : String :=
  let cwd := sh.fs.currentPath
  "user@terminal:" ++ (if cwd = "/" then "~" else cwd) ++ "$"

end Shell

end TreeShell
