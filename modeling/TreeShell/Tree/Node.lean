import TreeShell.Time.Instant

/-!
# Nodes

A node is a file with its content or a directory with its children.  A directory keeps
its children in the order of their creation, each under a key.  Every node carries a
name of its own and the instants of its creation and of its last change.
-/

namespace TreeShell.Tree

open TreeShell.Time

/-- A node of the tree. -/
inductive Node where
  | file (name : String) (content : String) (created modified : Instant)
  | directory (name : String) (children : List (String × Node)) (created modified : Instant)

namespace Node

instance : Inhabited Node := ⟨.file "" "" default default⟩

/-! ## Reading a node -/

/-- The name a node carries. -/
def name : Node → String
  | .file n _ _ _ => n
  | .directory n _ _ _ => n

/-- The instant of creation. -/
def created : Node → Instant
  | .file _ _ c _ => c
  | .directory _ _ c _ => c

/-- The instant of the last change. -/
def modified : Node → Instant
  | .file _ _ _ m => m
  | .directory _ _ _ m => m

/-- Whether the node is a directory. -/
def isDirectory : Node → Bool
  | .file .. => false
  | .directory .. => true

/-- The content of a file. -/
def content? : Node → Option String
  | .file _ c _ _ => some c
  | .directory .. => none

/-- The children of a directory with their keys, in order. -/
def children? : Node → Option (List (String × Node))
  | .file .. => none
  | .directory _ cs _ _ => some cs

/-- The child under a key. -/
def child? (n : Node) (key : String) : Option Node :=
  n.children?.bind (·.lookup key)

/-- The node reached by a list of keys. -/
def lookup? : Node → List String → Option Node
  | n, [] => some n
  | n, key :: keys => (n.child? key).bind (·.lookup? keys)

/-! ## New nodes -/

/-- A file made at an instant. -/
def newFile (name content : String) (now : Instant) : Node :=
  .file name content now now

/-- An empty directory made at an instant. -/
def newDirectory (name : String) (now : Instant) : Node :=
  .directory name [] now now

/-! ## Changing a node -/

/-- Sets the instant of the last change. -/
def stamp (now : Instant) : Node → Node
  | .file n c t _ => .file n c t now
  | .directory n cs t _ => .directory n cs t now

/-- Applies a function to the child under a key, in place. -/
def mapChild (key : String) (f : Node → Node) : Node → Node
  | .file n c t m => .file n c t m
  | .directory n cs t m =>
    .directory n (cs.map fun (k, c) => if k = key then (k, f c) else (k, c)) t m

/-- Adds a last child under a key. -/
def addChild (key : String) (child : Node) (parent : Node) : Node :=
  match parent with
  | .file n c t m => .file n c t m
  | .directory n cs t m => .directory n (cs ++ [(key, child)]) t m

/-- Takes away the child under a key; the others keep their order. -/
def removeChild (key : String) : Node → Node
  | .file n c t m => .file n c t m
  | .directory n cs t m => .directory n (cs.filter fun (k, _) => k ≠ key) t m

/-- Replaces the content of a file. -/
def setContent (content : String) : Node → Node
  | .file n _ t m => .file n content t m
  | .directory n cs t m => .directory n cs t m

/-- Stamps every node from this one down the keys, and changes the last of them. -/
def alter (now : Instant) (f : Node → Node) : List String → Node → Node
  | [], n => f (n.stamp now)
  | key :: keys, n => (n.stamp now).mapChild key (alter now f keys)

/-! ## Listing -/

/-- The order of a listing: directories first, then by name. -/
def listsBefore (a b : Node) : Bool :=
  if a.isDirectory = b.isDirectory then a.name ≤ b.name else a.isDirectory

/-- The children of a directory in listing order; children of one kind and name keep
their order. -/
def listing? (n : Node) : Option (List Node) :=
  n.children?.map fun cs => (cs.map Prod.snd).mergeSort listsBefore

end Node

end TreeShell.Tree
