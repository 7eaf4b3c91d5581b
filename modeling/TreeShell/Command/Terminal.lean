import TreeShell.Command.Basic

/-!
# Commands on the terminal

`help` prints what commands there are; `clear`, `open` and `whoami` ask the terminal to
clear its history, to show a markdown file in a panel and to show the profile.
-/

namespace TreeShell.Command

/-! ## Help -/

/-- The use of each command with what it does. -/
def usages : List (String × String) :=
  [("cd <path>", "Change directory"),
   ("pwd", "Print working directory"),
   ("ls [path]", "List directory contents"),
   ("touch <file>", "Create a new file"),
   ("mkdir <dir>", "Create a new directory"),
   ("echo <text>", "Output text (use > to redirect to file)"),
   ("cat <file>", "Display file contents"),
   ("grep <pattern> <file>", "Search for pattern in file"),
   ("rm <path>", "Remove file or directory"),
   ("clear", "Clear terminal history"),
   ("open <file>", "Open markdown file in panel"),
   ("whoami", "Display profile information"),
   ("help", "Show this help message")]

/-- The width of the widest use. -/
def usageWidth : Nat :=
  (usages.map fun u => u.1.length).foldl max 0

/-- A use and what it does, in columns. -/
def usageLine (usage about : String) : String :=
  "  " ++ String.ofList (usage.toList.rightpad usageWidth ' ') ++ "  " ++ about

/-- `help` prints the use of every command. -/
def help : Command where
  name := "help"
  run _ _ fs :=
    .still fs (.say ("Available commands:\n"
      ++ "\n".intercalate (usages.map fun u => usageLine u.1 u.2)))

/-! ## Requests -/

/-- `clear` clears the history. -/
def clear : Command where
  name := "clear"
  run _ _ fs := { result := .silent, fs, signals := [.clearHistory] }

/-- `whoami` shows the profile, which the terminal prints. -/
def whoami : Command where
  name := "whoami"
  run _ _ fs := { result := .silent, fs, signals := [.openProfile] }

/-- Whether a file name is that of a markdown file. -/
def isMarkdown (name : String) : Bool :=
  ['.', 'm', 'd'].isSuffixOf name.toList

/-- The title for a file name: without `.md` at the end, and with spaces for dashes. -/
def titleOf (name : String) : String :=
  let cs := name.toList
  let stem := if isMarkdown name then cs.take (cs.length - 3) else cs
  String.ofList (stem.map fun c => if c = '-' then ' ' else c)

/-- `open` shows a markdown file in a panel. -/
def openFile : Command where
  name := "open"
  run _ args fs :=
    match args with
    | [] => .still fs (.refuse "open: missing file operand")
    | file :: _ =>
      if !isMarkdown file then
        .still fs (.refuse ("open: " ++ file ++ ": Not a markdown file"))
      else
        match fs.read (fs.resolve file) with
        | .error _ => .still fs (.refuse ("open: " ++ file ++ ": No such file or directory"))
        | .ok content =>
          let name := Path.fileName file
          { result := .say ("Opening " ++ name ++ "..."), fs
            signals := [.openPanel content (titleOf name)] }

end TreeShell.Command
