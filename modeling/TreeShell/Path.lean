/-!
# Paths

A path is a text; its segments are the non-empty pieces between slashes.  Two layers
read paths:

* `absoluteSegments` addresses a node: a path without a leading slash continues the
  working directory, and `.` and `..` are names like any other;
* `resolve` is what a command does with its argument first: it understands `.`, `..`
  and chains that begin with `../`, and answers a path for the first layer.
-/

namespace TreeShell.Path

/-! ## Segments -/

/-- The non-empty pieces of a character list between slashes. -/
def pieces (cs : List Char) : List (List Char) :=
  (cs.splitOn '/').filter fun p => !p.isEmpty

/-- The segments of a path. -/
def segments (path : String) : List String :=
  (pieces path.toList).map String.ofList

/-- Whether a path begins at the root. -/
def isAbsolute (path : String) : Bool :=
  path.toList.head? == some '/'

/-- The segments from the root of the node that a path addresses from a working directory. -/
def absoluteSegments (cwd path : String) : List String :=
  if isAbsolute path then segments path else segments (cwd ++ "/" ++ path)

/-- The absolute path with the given segments. -/
def join (segs : List String) : String :=
  "/" ++ String.ofList (['/'].intercalate (segs.map String.toList))

/-- The pieces of a character list between slashes, the empty ones too, read from its end: the
last piece comes first. -/
def piecesFromEnd (cs : List Char) : List (List Char) :=
  (cs.reverse.splitOn '/').map List.reverse

/-- The last segment of a path, or the path itself when it has none.  It is searched from the
end. -/
def fileName (path : String) : String :=
  match (piecesFromEnd path.toList).find? fun p => !p.isEmpty with
  | some name => String.ofList name
  | none => path

/-! ## Command arguments -/

/-- One component of a `../` chain applied to the segments reached so far. -/
def step (segs : List String) (component : String) : List String :=
  if component = "." then segs
  else if component = ".." then segs.dropLast
  else segs ++ [component]

/-- A command argument resolved against the working directory.  Only a lone `.`, a lone
`..` and a chain that begins with `../` are understood; in such a chain each `..` drops
a segment. -/
def resolve (cwd target : String) : String :=
  if isAbsolute target then target
  else if target = "." then cwd
  else if target = ".." then join (segments cwd).dropLast
  else if "../".toList.isPrefixOf target.toList then
    join ((segments target).foldl step (segments cwd))
  else if cwd = "/" then "/" ++ target
  else cwd ++ "/" ++ target

end TreeShell.Path
