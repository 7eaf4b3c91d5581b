import TreeShell.Command.Basic
import TreeShell.Command.Redirect
import TreeShell.Pattern.Match

/-!
# Commands on files

`touch` makes a file and `rm` takes a node away; `cat` and `grep` print a file or the
lines of it that match a pattern; `echo` prints a text or puts it into a file.
-/

namespace TreeShell.Command

/-- `touch` makes an empty file. -/
def touch : Command where
  name := "touch"
  run now args fs :=
    match args with
    | [] => .still fs (.refuse "touch: missing file operand")
    | file :: _ =>
      .ofChange fs (fs.createFile now (fs.resolve file) "")
        ("touch: cannot create file '" ++ file ++ "'")
  events now args fs :=
    match args with
    | [] => []
    | file :: _ =>
      fs.changeEvents (.created .createFile (fs.resolve file))
        (fs.createFile now (fs.resolve file) "")

/-- `rm` takes away a node with all that is below it. -/
def rm : Command where
  name := "rm"
  run now args fs :=
    match args with
    | [] => .still fs (.refuse "rm: missing file operand")
    | target :: _ =>
      .ofChange fs (fs.delete now (fs.resolve target)) ("rm: cannot remove '" ++ target ++ "'")
  events now args fs :=
    match args with
    | [] => []
    | target :: _ =>
      match fs.delete now (fs.resolve target) with
      | .ok _ => .removed (fs.resolve target) :: fs.savingEvents
      | .error why => [.refusedRemoval why]

/-- `cat` prints a file. -/
def cat : Command where
  name := "cat"
  run _ args fs :=
    match args with
    | [] => .still fs (.refuse "cat: missing file operand")
    | file :: _ =>
      match fs.read (fs.resolve file) with
      | .ok content => .still fs (.say content)
      | .error _ => .still fs (.refuse ("cat: " ++ file ++ ": No such file or directory"))

/-- The lines of a text that a pattern is found in, in order. -/
def matchingLines (p : Pattern) (content : String) : List String :=
  (Text.lines content).filter p.isFoundIn

/-- `grep` prints the lines of a file that a pattern is found in, in either letter case.
A file that cannot be read is reported before a pattern that is none. -/
def grep : Command where
  name := "grep"
  run _ args fs :=
    match args with
    | pattern :: file :: _ =>
      match fs.read (fs.resolve file) with
      | .error _ => .still fs (.refuse ("grep: " ++ file ++ ": No such file or directory"))
      | .ok content =>
        match Pattern.parse? pattern.toList with
        | none => .still fs (.refuse ("grep: invalid pattern '" ++ pattern ++ "'"))
        | some p => .still fs (.say ("\n".intercalate (matchingLines p content)))
    | _ => .still fs (.refuse "grep: missing pattern or file operand")

/-- `echo` prints its arguments, or puts them into the file that they redirect to: into
an existing file in place of its content, else into a new one. -/
def echo : Command where
  name := "echo"
  run now args fs :=
    let text := " ".intercalate args
    match Redirect.parse? text with
    | none => .still fs (.say text)
    | some r =>
      let path := fs.resolve r.file
      if (fs.node? path).isSome then
        .ofChange fs (fs.write now path r.content)
          ("echo: cannot write to '" ++ r.file ++ "'")
      else
        .ofChange fs (fs.createFile now path r.content)
          ("echo: cannot create file '" ++ r.file ++ "'")
  events now args fs :=
    match Redirect.parse? (" ".intercalate args) with
    | none => []
    | some r =>
      let path := fs.resolve r.file
      if (fs.node? path).isSome then
        fs.changeEvents (.written path r.content.utf8ByteSize) (fs.write now path r.content)
      else
        fs.changeEvents (.created .createFile path) (fs.createFile now path r.content)

end TreeShell.Command
