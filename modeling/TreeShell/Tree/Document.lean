import TreeShell.Json.Reader
import TreeShell.Json.Writer
import TreeShell.Time.Stamp
import TreeShell.Tree.State

/-!
# The saved form of a state

A state is saved as a JSON text.  A node is an object with the members `name`, `type`,
`content` or `children`, `createdAt` and `modifiedAt`; a state has `root` and
`currentPath`.

The reader does not mind the order of members, passes over members it does not know, and
fills in an empty content, no children and an empty path.  A state may also stand as an
array of its root and its path.  A known member may occur only once, and arrays and
objects may nest 127 deep; members that a state does not know are held to neither the
depth nor the range of data.
-/

namespace TreeShell.Tree

open TreeShell.Time

/-! ## Encoding -/

/-- A text as a value. -/
def textJson (s : String) : Json :=
  .string (some s)

/-- An instant as a value. -/
def instantJson (t : Instant) : Json :=
  textJson (String.ofList t.render)

/-- A member with its value. -/
def member (name : String) (value : Json) : Json.Literal × Json :=
  (some name, value)

mutual

/-- A node as a value. -/
def Node.toJson : Node → Json
  | .file name content created modified =>
    .object [member "name" (textJson name), member "type" (textJson "file"),
      member "content" (textJson content),
      member "createdAt" (instantJson created), member "modifiedAt" (instantJson modified)]
  | .directory name children created modified =>
    .object [member "name" (textJson name), member "type" (textJson "directory"),
      member "children" (.object (childMembers children)),
      member "createdAt" (instantJson created), member "modifiedAt" (instantJson modified)]

/-- The children of a directory as members. -/
def childMembers : List (String × Node) → List (Json.Literal × Json)
  | [] => []
  | (key, n) :: rest => member key n.toJson :: childMembers rest

end

/-- A state as a value. -/
def State.toJson (s : State) : Json :=
  .object [member "root" s.root.toJson, member "currentPath" (textJson s.currentPath)]

/-- The text that a node is saved as. -/
def Node.save (n : Node) : String :=
  String.ofList n.toJson.render

/-- The text that a state is saved as. -/
def State.save (s : State) : String :=
  String.ofList s.toJson.render

/-! ## Decoding members -/

/-- How deep arrays and objects may nest in a saved text. -/
def maxNesting : Nat := 127

/-- The text that a value holds. -/
def text? : Json → Option String
  | .string s => s
  | _ => none

/-- The instant that a value holds. -/
def instant? (v : Json) : Option Instant := do
  Instant.parse? (← text? v).toList

/-- The text of a member that must occur exactly once. -/
def oneText? (name : String) (members : List (Json.Literal × Json)) : Option String :=
  match Json.valuesOf name members with
  | [v] => text? v
  | _ => none

/-- The instant of a member that must occur exactly once. -/
def oneInstant? (name : String) (members : List (Json.Literal × Json)) : Option Instant :=
  match Json.valuesOf name members with
  | [v] => instant? v
  | _ => none

/-- The text of a member that may be missing; it is empty then. -/
def textOrEmpty? (name : String) (members : List (Json.Literal × Json)) : Option String :=
  match Json.valuesOf name members with
  | [] => some ""
  | [v] => text? v
  | _ => none

/-- The two kinds of node. -/
inductive Kind where
  | file
  | directory
deriving DecidableEq

/-- The kind that a `type` member names, by its word or by its number. -/
def kind? : Json → Option Kind
  | .string (some "file") => some .file
  | .string (some "directory") => some .directory
  | .number n =>
    match n.toNat? with
    | some 0 => some .file
    | some 1 => some .directory
    | _ => none
  | _ => none

/-- The kind of the node with these members; `type` must occur exactly once. -/
def oneKind? (members : List (Json.Literal × Json)) : Option Kind :=
  match Json.valuesOf "type" members with
  | [v] => kind? v
  | _ => none

/-- Puts a child under a key: in the place of the child that has the key, or last. -/
def putChild (children : List (String × Node)) (key : String) (n : Node) :
    List (String × Node) :=
  if (children.lookup key).isSome then
    children.map fun (k, c) => if k = key then (k, n) else (k, c)
  else children ++ [(key, n)]

/-- The node with these members, given what each `children` member holds. -/
def assembleNode (members : List (Json.Literal × Json))
    (children : List (Option (List (String × Node)))) : Option Node := do
  let name ← oneText? "name" members
  let created ← oneInstant? "createdAt" members
  let modified ← oneInstant? "modifiedAt" members
  match ← oneKind? members with
  | .file => some (.file name (← textOrEmpty? "content" members) created modified)
  | .directory =>
    match children with
    | [] => some (.directory name [] created modified)
    | [cs] => some (.directory name (← cs) created modified)
    | _ => none

/-! ## Decoding nodes and states -/

mutual

/-- The node that a value holds. -/
def Node.ofJson? : Json → Option Node
  | .object members => assembleNode members (childrenIn members)
  | _ => none

/-- What each member named `children` holds. -/
def childrenIn : List (Json.Literal × Json) → List (Option (List (String × Node)))
  | [] => []
  | (some "children", .object members) :: rest => childrenOf [] members :: childrenIn rest
  | (some "children", _) :: rest => none :: childrenIn rest
  | _ :: rest => childrenIn rest

/-- The children that members hold, after those already there. -/
def childrenOf (before : List (String × Node)) :
    List (Json.Literal × Json) → Option (List (String × Node))
  | [] => some before
  | (some key, v) :: rest =>
    match Node.ofJson? v with
    | some n => childrenOf (putChild before key n) rest
    | none => none
  | (none, _) :: _ => none

end

/-- The node that a value of data holds, inside `depth` arrays and objects. -/
def dataNode? (depth : Nat) (v : Json) : Option Node :=
  if v.fits (maxNesting - depth) && v.isPlain then Node.ofJson? v else none

/-- The state that a value holds. -/
def State.ofJson? : Json → Option State
  | .object members =>
    match Json.valuesOf "root" members with
    | [v] => do
      let root ← dataNode? 1 v
      let path ← textOrEmpty? "currentPath" members
      if members.all (·.1.isSome) then some ⟨root, path⟩ else none
    | _ => none
  | .array [v] => do some ⟨← dataNode? 1 v, ""⟩
  | .array [v, p] => do some ⟨← dataNode? 1 v, ← text? p⟩
  | _ => none

/-- The node that a text holds. -/
def Node.load? (s : String) : Option Node := do
  dataNode? 0 (← Json.parse? s.toList)

/-- The state that a text holds. -/
def State.load? (s : String) : Option State := do
  State.ofJson? (← Json.parse? s.toList)

end TreeShell.Tree
