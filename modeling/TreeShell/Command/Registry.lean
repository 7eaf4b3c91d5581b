import TreeShell.Command.Directories
import TreeShell.Command.Files
import TreeShell.Command.Terminal

/-!
# Registries

A registry holds one command per name.  The commands of the shell are the registry that
`Registry.standard` makes.
-/

namespace TreeShell

/-- The commands known by name, the latest registered first. -/
structure Registry where
  commands : List Command := []

namespace Registry

/-- Adds a command, in place of one of the same name. -/
def register (r : Registry) (c : Command) : Registry :=
  ⟨c :: r.commands.filter fun d => d.name ≠ c.name⟩

/-- The command with a name. -/
def find? (r : Registry) (name : String) : Option Command :=
  r.commands.find? fun c => c.name = name

/-- Whether a name is known. -/
def contains (r : Registry) (name : String) : Bool :=
  (r.find? name).isSome

/-- The known names in ascending order. -/
def names (r : Registry) : List String :=
  (r.commands.map Command.name).mergeSort fun a b => a ≤ b

/-- The registry of every command of the shell. -/
def standard : Registry :=
  [Command.help, Command.clear, Command.pwd, Command.cd, Command.ls, Command.touch,
    Command.mkdir, Command.echo, Command.cat, Command.grep, Command.rm, Command.openFile,
    Command.whoami].foldl register {}

end Registry

end TreeShell
