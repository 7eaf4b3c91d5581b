import TreeShell.Command.Basic

/-!
# Commands on directories

`cd` and `pwd` set and print the working directory; `ls` and `mkdir` list and make a
directory.
-/

namespace TreeShell.Command

open TreeShell.Tree

/-- `cd` goes to a directory, or to the root without an argument. -/
def cd : Command where
  name := "cd"
  run _ args fs :=
    match args with
    | [] => { result := .silent, fs := fs.setCurrentPath "/" }
    | arg :: _ =>
      match fs.node? (fs.resolve arg) with
      | none => .still fs (.refuse ("cd: " ++ arg ++ ": No such file or directory"))
      | some n =>
        if n.isDirectory then { result := .silent, fs := fs.setCurrentPath (fs.resolve arg) }
        else .still fs (.refuse ("cd: " ++ arg ++ ": Not a directory"))
  events _ args fs :=
    match args with
    | [] => fs.savingEvents
    | arg :: _ =>
      if (fs.node? (fs.resolve arg)).any Node.isDirectory then fs.savingEvents else []

/-- `pwd` prints the working directory. -/
def pwd : Command where
  name := "pwd"
  run _ _ fs := .still fs (.say fs.currentPath)

/-- A node as a line of a listing: a sign for its kind, and its name. -/
def listingLine (n : Node) : String :=
  (if n.isDirectory then "📁" else "📄") ++ " " ++ n.name

/-- `ls` lists a directory, by default the working directory. -/
def ls : Command where
  name := "ls"
  run _ args fs :=
    let target := match args.head? with
      | some arg => fs.resolve arg
      | none => fs.currentPath
    match fs.list target with
    | .ok nodes => .still fs (.say ("\n".intercalate (nodes.map listingLine)))
    | .error _ =>
      .still fs (.refuse
        ("ls: cannot access '" ++ args.head?.getD "." ++ "': No such file or directory"))

/-- `mkdir` makes an empty directory. -/
def mkdir : Command where
  name := "mkdir"
  run now args fs :=
    match args with
    | [] => .still fs (.refuse "mkdir: missing directory operand")
    | dir :: _ =>
      .ofChange fs (fs.createDirectory now (fs.resolve dir))
        ("mkdir: cannot create directory '" ++ dir ++ "'")
  events now args fs :=
    match args with
    | [] => []
    | dir :: _ =>
      fs.changeEvents (.created .createDirectory (fs.resolve dir))
        (fs.createDirectory now (fs.resolve dir))

end TreeShell.Command
