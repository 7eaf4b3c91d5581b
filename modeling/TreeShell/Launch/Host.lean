import TreeShell.Settings

/-!
# Hosts

A host is what a run finds around it: a tree of files and directories in which it stands
at a working directory, and the databases that earlier runs left in directories.  Paths
are read component by component, so that a file in the way differs from a missing name.
-/

namespace TreeShell.Launch

open TreeShell.Store

/-! ## Hosts -/

/-- A canonical place: the names from the root. -/
abbrev Location := List String

/-- What stands at a place. -/
inductive Entry where
  | file (bytes : ByteArray)
  | directory

/-- The surroundings of a run. -/
structure Host where
  entries : List (Location × Entry)
  databases : List (Location × Database)
  workingDirectory : Location

/-- Why a path cannot be read. -/
inductive AccessError where
  | notFound
  | notDirectory
  | isDirectory
  | nameTooLong
  | nulInName
  | notText
deriving DecidableEq, Repr

/-- The text for an access error. -/
def AccessError.message : AccessError → String
  | .notFound => "No such file or directory (os error 2)"
  | .notDirectory => "Not a directory (os error 20)"
  | .isDirectory => "Is a directory (os error 21)"
  | .nameTooLong => "File name too long (os error 36)"
  | .nulInName => "file name contained an unexpected NUL byte"
  | .notText => "stream did not contain valid UTF-8"

namespace Host

/-- What stands at a place.  The root is a directory. -/
def entry? (h : Host) (place : Location) : Option Entry :=
  if place.isEmpty then some .directory else h.entries.lookup place

/-- Makes a directory. -/
def addDirectory (h : Host) (place : Location) : Host :=
  { h with entries := h.entries ++ [(place, .directory)] }

/-! ## Paths -/

/-- The components of a path; an empty last one stands for a slash at the end. -/
def components (path : String) : List String :=
  (path.toList.splitOn '/').map String.ofList

/-- Whether a component leaves the place as it is. -/
def isHere (component : String) : Bool :=
  component = "" || component = "."

/-- The place that components lead to from a directory. -/
def walk (h : Host) (place : Location) : List String → Except AccessError Location
  | [] => .ok place
  | c :: cs =>
    match h.entry? place with
    | none => .error .notFound
    | some (.file _) => .error .notDirectory
    | some .directory =>
      if isHere c then walk h place cs
      else if c = ".." then walk h place.dropLast cs
      else if 255 < c.utf8ByteSize then .error .nameTooLong
      else
        match h.entry? (place ++ [c]) with
        | none => .error .notFound
        | some _ => walk h (place ++ [c]) cs

/-- A path has fewer bytes than this. -/
def pathLimit : Nat := 4096

/-- The places that a walk along components from a directory looks at. -/
def stops (place : Location) : List String → List Location
  | [] => []
  | c :: cs =>
    if isHere c then stops place cs
    else if c = ".." then stops place.dropLast cs
    else (place ++ [c]) :: stops (place ++ [c]) cs

/-- The place that a path leads to. -/
def find (h : Host) (path : String) : Except AccessError Location :=
  if path = "" then .error .notFound
  else if '\x00' ∈ path.toList then .error .nulInName
  else if pathLimit ≤ path.utf8ByteSize then .error .nameTooLong
  else h.walk (if Path.isAbsolute path then [] else h.workingDirectory) (components path)

/-- Whether a path leads to a file. -/
def isFile (h : Host) (path : String) : Bool :=
  match h.find path with
  | .ok place =>
    match h.entry? place with
    | some (.file _) => true
    | _ => false
  | .error _ => false

/-- The text of the file that a path leads to. -/
def readText (h : Host) (path : String) : Except AccessError String := do
  match h.entry? (← h.find path) with
  | some (.file bytes) =>
    match String.fromUTF8? bytes with
    | some text => .ok text
    | none => .error .notText
  | some .directory => .error .isDirectory
  | none => .error .notFound

/-! ## Databases -/

/-- The place that components lead to, with the directories made that were missing. -/
def reach (h : Host) (place : Location) : List String → Option (Host × Location)
  | [] => some (h, place)
  | c :: cs =>
    if isHere c then reach h place cs
    else if c = ".." then reach h place.dropLast cs
    else if 255 < c.utf8ByteSize then none
    else
      match h.entry? (place ++ [c]) with
      | some .directory => reach h (place ++ [c]) cs
      | some (.file _) => none
      | none => reach (h.addDirectory (place ++ [c])) (place ++ [c]) cs

/-- The name in the directory of a database for its large values. -/
def largeValues : String := "blobs"

/-- Opens the database in a directory, which is made when it is missing.  A file in the
way refuses it, and so does a path that leaves no room for a name in the directory. -/
def openDatabase (h : Host) (path : String) : Option (Host × Location × Database) :=
  if path = "" ∨ '\x00' ∈ path.toList then none
  else if pathLimit ≤ (Path.below path largeValues).utf8ByteSize then none
  else do
    let start := if Path.isAbsolute path then [] else h.workingDirectory
    let (h, place) ← h.reach start (components path)
    some (h, place, (h.databases.lookup place).getD {})

/-- Leaves a database in a directory. -/
def keepDatabase (h : Host) (place : Location) (db : Database) : Host :=
  { h with databases := (place, db) :: h.databases.filter fun p => p.1 ≠ place }

end Host

end TreeShell.Launch
