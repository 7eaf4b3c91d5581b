import TreeShell.FileSystem
import TreeShell.Toml.Document

/-!
# Settings

The settings of a run come from a TOML document with the tables `storage`, `logging` and
`seed`.  Every setting has a default, and what the program does not know is passed over.
A table may also be given as an array of its settings in order.

Directories that are not set come from the environment, which may have none either.
-/

namespace TreeShell

open TreeShell.Toml

/-! ## Settings -/

/-- Where a run keeps its state. -/
inductive Storage where
  | database
  | memory
deriving DecidableEq, Repr

/-- What a run can be told. -/
structure Settings where
  storage : Storage := .database
  /-- The directory of the database. -/
  path : Option String := none
  key : String := FileSystem.defaultKey
  /-- The log filter. -/
  level : String := "warn"
  /-- Whether the bundled posts are put into the tree. -/
  seeded : Bool := true
deriving DecidableEq, Repr

namespace Settings

/-! ## Reading values -/

/-- A text. -/
def text? : Item → Option String
  | .string s => some s
  | _ => none

/-- A truth value. -/
def truth? : Item → Option Bool
  | .boolean b => some b
  | _ => none

/-- Whether an item is a table or an array with nothing in it. -/
def isEmpty : Item → Bool
  | .array items => items.isEmpty
  | .table _ entries => entries.isEmpty
  | .tables elements => elements.isEmpty
  | _ => false

/-- The storage with a name. -/
def storageNamed? : String → Option Storage
  | "sled" => some .database
  | "memory" => some .memory
  | _ => none

/-- A storage: its name, or a table whose only key is the name, with nothing below. -/
def storage? : Item → Option Storage
  | .string s => storageNamed? s
  | .table _ [(name, item)] => if isEmpty item then storageNamed? name else none
  | _ => none

/-- The items of a section for its settings in order: those under their keys in a table,
or those at their places in an array.  A date stands for a section without settings. -/
def section? (keys : List String) : Item → Option (List (Option Item))
  | .table _ entries => some (keys.map fun key => entries.lookup key)
  | .array items => some ((List.range keys.length).map (items[·]?))
  | .tables elements =>
    some ((List.range keys.length).map fun i => (elements[i]?).map (Item.table .header))
  | .dateTime => some (keys.map fun _ => none)
  | _ => none

/-- Why a text spells no settings. -/
inductive Problem where
  | noDocument
  | noSection (name : String)
  /-- What stands for a setting of a section is no value for it. -/
  | noValue (name setting : String)
deriving DecidableEq, Repr

/-- The text of a problem. -/
def Problem.message : Problem → String
  | .noDocument => "not a TOML document"
  | .noSection name => "'" ++ name ++ "' is not a section"
  | .noValue name setting => "'" ++ name ++ "." ++ setting ++ "' has no fitting value"

/-- Reads an item, or keeps the default when there is none. -/
def orDefault {α : Type} (why : Problem) (default : α) (read : Item → Option α) :
    Option Item → Except Problem α
  | none => .ok default
  | some item =>
    match read item with
    | some a => .ok a
    | none => .error why

/-! ## Reading sections -/

/-- The settings with a `storage` section. -/
def readStorage (s : Settings) (item : Item) : Except Problem Settings :=
  match section? ["backend", "path", "key"] item with
  | some [backend, path, key] => do
    return { s with
      storage := ← orDefault (.noValue "storage" "backend") s.storage storage? backend
      path := ← orDefault (.noValue "storage" "path") s.path (fun i => (text? i).map some) path
      key := ← orDefault (.noValue "storage" "key") s.key text? key }
  | _ => .error (.noSection "storage")

/-- The settings with a `logging` section. -/
def readLogging (s : Settings) (item : Item) : Except Problem Settings :=
  match section? ["level"] item with
  | some [level] => do
    return { s with level := ← orDefault (.noValue "logging" "level") s.level text? level }
  | _ => .error (.noSection "logging")

/-- The settings with a `seed` section. -/
def readSeed (s : Settings) (item : Item) : Except Problem Settings :=
  match section? ["enabled"] item with
  | some [enabled] => do
    return { s with seeded := ← orDefault (.noValue "seed" "enabled") s.seeded truth? enabled }
  | _ => .error (.noSection "seed")

/-- Reads the section under a key, if there is one. -/
def readSection (entries : Entries) (key : String)
    (read : Settings → Item → Except Problem Settings) (s : Settings) :
    Except Problem Settings :=
  match entries.lookup key with
  | none => .ok s
  | some item => read s item

/-- The settings that a text spells. -/
def ofText (text : String) : Except Problem Settings :=
  match Toml.parse? text with
  | none => .error .noDocument
  | some entries => do
    let s ← readSection entries "storage" readStorage {}
    let s ← readSection entries "logging" readLogging s
    readSection entries "seed" readSeed s

end Settings

/-! ## The environment -/

/-- What the environment says about directories and about the log. -/
structure Environment where
  home : String
  dataHome : Option String := none
  configHome : Option String := none
  /-- The home directory of the account, for an environment that names none. -/
  accountHome : Option String := none
  /-- The log filter that is asked for in place of that of the settings. -/
  logFilter : Option String := none
deriving DecidableEq, Repr

/-- A path below a directory. -/
def Path.below (directory path : String) : String :=
  if directory = "" ∨ isAbsolute path then path
  else if directory.toList.getLast? = some '/' then directory ++ path
  else directory ++ "/" ++ path

namespace Environment

/-- The name of the program's own directories. -/
def programName : String := "blogshell"

/-- The home directory, if the environment or the account has one. -/
def homeDirectory? (env : Environment) : Option String :=
  if env.home = "" then env.accountHome.filter (· ≠ "") else some env.home

/-- A directory of the program: below the given one if that is absolute, else below one
in the home directory.  Without a home directory there is none, whatever is given. -/
def directory? (env : Environment) (given : Option String) (fallback : String) :
    Option String :=
  env.homeDirectory?.map fun home =>
    match given.filter Path.isAbsolute with
    | some d => Path.below d programName
    | none => Path.below (Path.below home fallback) programName

/-- Where the program keeps its data. -/
def dataDirectory? (env : Environment) : Option String :=
  env.directory? env.dataHome ".local/share"

/-- Where the program looks for its settings. -/
def settingsFile? (env : Environment) : Option String :=
  (env.directory? env.configHome ".config").map fun d => Path.below d "config.toml"

end Environment

/-- The directory of a run's data, if there is one. -/
def Settings.dataDirectory? (s : Settings) (env : Environment) : Option String :=
  s.path.or env.dataDirectory?

end TreeShell
