import TreeShell.FileSystem

/-!
# Commands

A command has a name and answers a list of arguments: it prints a text or an error, may
change the file system, and may ask the terminal to clear its history, to open a panel or
to show the profile.  What it tells of this in a log is its events.
-/

namespace TreeShell

open TreeShell.Time

namespace Command

/-- What a command prints, and whether it is an error. -/
structure Result where
  output : String
  isError : Bool
deriving DecidableEq, Repr, Inhabited

/-- A result that prints a text. -/
def Result.say (text : String) : Result := ⟨text, false⟩

/-- A result that prints nothing. -/
def Result.silent : Result := ⟨"", false⟩

/-- A result that reports an error. -/
def Result.refuse (text : String) : Result := ⟨text, true⟩

/-- What a command asks of the terminal. -/
inductive Signal where
  | clearHistory
  | openPanel (content title : String)
  | openProfile
deriving DecidableEq, Repr

/-- What came of running a command. -/
structure Outcome where
  result : Result
  fs : FileSystem
  signals : List Signal := []

/-- An outcome that leaves the file system as it is and asks nothing of the terminal. -/
def Outcome.still (fs : FileSystem) (result : Result) : Outcome :=
  { result, fs }

/-- The outcome of an operation on the file system, with the error to print when it is
refused. -/
def Outcome.ofChange (fs : FileSystem) (change : Except Tree.Failure FileSystem)
    (refusal : String) : Outcome :=
  match change with
  | .ok fs => { result := .silent, fs }
  | .error _ => .still fs (.refuse refusal)

end Command

/-- A command of the shell. -/
structure Command where
  name : String
  run : Instant → List String → FileSystem → Command.Outcome
  events : Instant → List String → FileSystem → List Log.Event := fun _ _ _ => []

/-- The path that an argument means in a file system. -/
def FileSystem.resolve (fs : FileSystem) (arg : String) : String :=
  Path.resolve fs.currentPath arg

end TreeShell
