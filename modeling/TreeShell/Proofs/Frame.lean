import Mathlib.Tactic.Common
import TreeShell.FileSystem
import TreeShell.Proofs.Tree.Frame
import TreeShell.Proofs.Tree.Step

/-!
# Effect and frame of a change

An operation that is not refused changes the tree along the path it is asked for, and nothing
besides: what stands off this path is as it was, the nodes on the path have the instant of the
operation, and the working directory stays, wherever it points.

## Layers

- `State.Added`, `State.Removed`, `State.Rewritten`: all that making a node, taking one away
  and replacing a content make of a state, told by the tree and by the node at every path;
- `State.added_of_insert`, `State.removed_of_delete`, `State.rewritten_of_write`: the operations
  on a state do so;
- `FileSystem.added_create`, `FileSystem.removed_delete`, `FileSystem.rewritten_write`: and so
  do those of a file system.
-/

namespace TreeShell

open TreeShell.Time TreeShell.Tree

namespace Tree.State

/-! ## What a change makes of a state -/

/-- Whether one state is another with a new node below some parents. -/
structure Added (now : Instant) (parents : List String) (child : Node) (s s' : State) : Prop where
  currentPath_eq : s'.currentPath = s.currentPath
  tree : s.root.ChangedAlong now (Node.GainsChild now child) parents s'.root
  found : ∀ path, s.segments path = parents ++ [child.name] → s'.node? path = some child
  above : ∀ path, s.segments path <+: parents →
    ∃ n n', s.node? path = some n ∧ s'.node? path = some n' ∧ n.Restamped now n'
  aside : ∀ path, ¬ s.segments path <+: parents ++ [child.name] → s'.node? path = s.node? path

/-- Whether one state is another without the node under a name below some parents. -/
structure Removed (now : Instant) (parents : List String) (name : String) (s s' : State) :
    Prop where
  currentPath_eq : s'.currentPath = s.currentPath
  tree : s.root.ChangedAlong now (Node.LosesChild now name) parents s'.root
  gone : ∀ path, parents ++ [name] <+: s.segments path → s'.node? path = none
  above : ∀ path, s.segments path <+: parents →
    ∃ n n', s.node? path = some n ∧ s'.node? path = some n' ∧ n.Restamped now n'
  aside : ∀ path, ¬ s.segments path <+: parents → ¬ parents ++ [name] <+: s.segments path →
    s'.node? path = s.node? path

/-- Whether one state is another with a content in the file at the end of some keys. -/
structure Rewritten (now : Instant) (keys : List String) (content : String) (s s' : State) :
    Prop where
  currentPath_eq : s'.currentPath = s.currentPath
  tree : s.root.ChangedAlong now (Node.GainsContent now content) keys s'.root
  read_eq : ∀ path, s.segments path = keys → s'.read path = .ok content
  above : ∀ path, s.segments path <+: keys →
    ∃ n n', s.node? path = some n ∧ s'.node? path = some n' ∧ n.Restamped now n'
  aside : ∀ path, ¬ s.segments path <+: keys → s'.node? path = s.node? path
  read_aside : ∀ path, s.segments path ≠ keys → s'.read path = s.read path

variable {s s' : State} {now : Instant} {path content name : String} {child : Node}
  {parents keys : List String}

/-! ## The node at every path -/

theorem segments_congr (h : s'.currentPath = s.currentPath) (path : String) :
    s'.segments path = s.segments path := by
  rw [segments, segments, h]

theorem node?_eq_of_segments {keys : List String} (h : s'.currentPath = s.currentPath)
    (hKeys : s.segments path = keys) : s'.node? path = s'.root.lookup? keys := by
  rw [node?, segments_congr h, hKeys]

/-- What the tree tells about the paths that lead along the change. -/
theorem restamped_above {Turns : Node → Node → Prop}
    (hTurns : ∀ m m', Turns m m' → m.Restamped now m') (h : s'.currentPath = s.currentPath)
    (hTree : s.root.ChangedAlong now Turns keys s'.root) (hPrefix : s.segments path <+: keys) :
    ∃ n n', s.node? path = some n ∧ s'.node? path = some n' ∧ n.Restamped now n' := by
  rw [node?_eq_of_segments h rfl]
  exact hTree.restamped hTurns hPrefix

theorem added_of_changedAlong (hPath : s'.currentPath = s.currentPath)
    (hTree : s.root.ChangedAlong now (Node.GainsChild now child) parents s'.root)
    (hLeaf : child.entries = []) : s.Added now parents child s' where
  currentPath_eq := hPath
  tree := hTree
  found := by
    intro path hKeys
    obtain ⟨parent, parent', -, hParent, hGains⟩ := hTree.exists_turns
    rw [node?_eq_of_segments hPath hKeys, Node.lookup?_append, hParent, Option.bind_some,
      hGains.lookup?_name]
  above := fun path hPrefix =>
    restamped_above (fun _ _ hGains => hGains.restamped) hPath hTree hPrefix
  aside := by
    intro path hAside
    rw [node?_eq_of_segments hPath rfl]
    refine hTree.lookup?_of_not_prefix ?_ ?_
    · exact fun hPrefix => hAside (hPrefix.trans (List.prefix_append parents _))
    · intro m m' rest hGains hKeys
      -- Below the parent only the new child is new.
      refine hGains.lookup?_of_not_prefix hLeaf fun hPrefix => hAside ?_
      rw [hKeys]
      exact (List.prefix_append_right_inj parents).2 hPrefix

theorem removed_of_changedAlong (hPath : s'.currentPath = s.currentPath)
    (hTree : s.root.ChangedAlong now (Node.LosesChild now name) parents s'.root) :
    s.Removed now parents name s' where
  currentPath_eq := hPath
  tree := hTree
  gone := by
    rintro path ⟨rest, hKeys⟩
    obtain ⟨parent, parent', -, hParent, hLoses⟩ := hTree.exists_turns
    rw [node?_eq_of_segments hPath hKeys.symm, List.append_assoc, List.singleton_append,
      Node.lookup?_append, hParent, Option.bind_some, hLoses.lookup?_cons]
  above := fun path hPrefix =>
    restamped_above (fun _ _ hLoses => hLoses.restamped) hPath hTree hPrefix
  aside := by
    intro path hAbove hBelow
    rw [node?_eq_of_segments hPath rfl]
    refine hTree.lookup?_of_not_prefix hAbove fun m m' rest hLoses hKeys => ?_
    refine hLoses.lookup?_of_not_prefix ?_ fun hPrefix => hBelow ?_
    · rintro rfl
      exact hAbove (by rw [hKeys, List.append_nil])
    · rw [hKeys]
      exact (List.prefix_append_right_inj parents).2 hPrefix

theorem read_congr (h : s'.node? path = s.node? path) : s'.read path = s.read path := by
  rw [read, read, h]

theorem read_of_isDirectory {n : Node} (h : s.node? path = some n)
    (hDirectory : n.isDirectory = true) : s.read path = .error ⟨.isDirectory, .readFile, path⟩ := by
  cases n with
  | file => contradiction
  | directory => rw [read, h]; rfl

theorem rewritten_of_changedAlong (hPath : s'.currentPath = s.currentPath)
    (hTree : s.root.ChangedAlong now (Node.GainsContent now content) keys s'.root) :
    s.Rewritten now keys content s' := by
  have hAside : ∀ path, ¬ s.segments path <+: keys → s'.node? path = s.node? path := by
    intro path hAbove
    rw [node?_eq_of_segments hPath rfl]
    refine hTree.lookup?_of_not_prefix hAbove fun m m' rest hGains hKeys => ?_
    refine hGains.lookup?_of_ne_nil ?_
    rintro rfl
    exact hAbove (by rw [hKeys, List.append_nil])
  refine ⟨hPath, hTree, ?reads, ?above, hAside, ?others⟩
  case reads =>
    intro path hKeys
    obtain ⟨n, n', -, hFile, hGains⟩ := hTree.exists_turns
    rw [read, node?_eq_of_segments hPath hKeys, hFile]
    cases hGains
    rfl
  case above =>
    exact fun path hPrefix =>
      restamped_above (fun _ _ hGains => hGains.restamped) hPath hTree hPrefix
  case others =>
    intro path hOther
    by_cases hPrefix : s.segments path <+: keys
    · -- A path that ends on the way leads to a directory, before and after.
      obtain ⟨rest, hKeys⟩ := hPrefix
      rw [← hKeys] at hTree
      obtain ⟨n, n', hFound, hFound', hRest⟩ := hTree.exists_lookup?
      have hNode' : s'.node? path = some n' := by rw [node?_eq_of_segments hPath rfl, hFound']
      cases hRest with
      | here => exact absurd (by rw [← hKeys, List.append_nil]) hOther
      | through => rw [read_of_isDirectory hNode' rfl, read_of_isDirectory hFound rfl]
    · exact read_congr (hAside path hPrefix)

/-! ## Operations on a state -/

theorem added_of_insert {op : Operation} {make : String → Node} (hKeys : s.root.DistinctKeys)
    (hMake : ∀ name, (make name).name = name ∧ (make name).entries = [])
    (h : s.insert now op path make = .ok s') :
    ∃ parents name, s.segments path = parents ++ [name] ∧
      s.Added now parents (make name) s' := by
  obtain ⟨parents, name, parent, hSegments, -, hParent, hDirectory, hFree, rfl⟩ :=
    insert_eq_ok_iff.1 h
  obtain ⟨hName, hLeaf⟩ := hMake name
  refine ⟨parents, name, hSegments, added_of_changedAlong rfl ?_ hLeaf⟩
  have hGains : Node.GainsChild now (make name) parent
      (Node.addChild (make name).name (make name) (parent.stamp now)) :=
    Node.gainsChild_addChild hDirectory (hName.symm ▸ hFree)
  rw [hName] at hGains
  exact Node.changedAlong_alter hKeys hParent hGains

theorem removed_of_delete (hKeys : s.root.DistinctKeys) (h : s.delete now path = .ok s') :
    ∃ parents name, s.segments path = parents ++ [name] ∧ s.Removed now parents name s' := by
  obtain ⟨parents, name, hSegments, -, hFound, rfl⟩ := delete_eq_ok_iff.1 h
  refine ⟨parents, name, hSegments, removed_of_changedAlong rfl ?_⟩
  rw [Node.lookup?_concat] at hFound
  cases hParent : s.root.lookup? parents with
  | none => simp [hParent] at hFound
  | some parent =>
    rw [hParent, Option.bind_some] at hFound
    have hNodup : parent.keys.Nodup := hKeys _ _ (Node.at_of_lookup? hParent)
    exact Node.changedAlong_alter hKeys hParent (Node.losesChild_removeChild hNodup hFound)

theorem rewritten_of_write (hKeys : s.root.DistinctKeys) (h : s.write now path content = .ok s') :
    s.Rewritten now (s.segments path) content s' := by
  obtain ⟨n, -, hNode, hFile, rfl⟩ := write_eq_ok_iff.1 h
  exact rewritten_of_changedAlong rfl
    (Node.changedAlong_alter hKeys hNode (Node.gainsContent_setContent hFile))

end Tree.State

/-! ## Operations on a file system -/

namespace FileSystem

/-! ### A tree in which names occur twice -/

/-- A tree with three files of one name, and a working directory spelled with spare slashes. -/
def namesakes : FileSystem where
  state.root :=
    .directory "root"
      [("blog", .directory "blog"
          [("a", .file "a" "1" default default),
           ("c", .directory "c" [("a", .file "a" "2" default default)] default default)]
          default default),
       ("a", .file "a" "3" default default)]
      default default
  state.currentPath := "/blog//c/"
  store := { backend := .empty }
  key := "tree"

/-- An instant other than those in the tree. -/
def noon : Instant :=
  (Instant.ofFields? 2024 2 29 12 0 0 0).getD default

theorem distinctKeys_namesakes : namesakes.state.root.DistinctKeys := by
  have hFile : ∀ content, (Node.file "a" content default default).DistinctKeys := fun content =>
    Node.everywhere_of_entries_eq_nil rfl (by simp [Node.keys])
  have hDirectory : ∀ name cs, (cs.map Prod.fst).Nodup → (∀ kc ∈ cs, kc.2.DistinctKeys) →
      (Node.directory name cs default default).DistinctKeys := fun _ _ hKeys hBelow =>
    Node.everywhere_iff.2 ⟨hKeys, hBelow⟩
  have hInner := hDirectory "c" [("a", .file "a" "2" default default)] (by decide)
    (List.forall_mem_cons.2 ⟨hFile "2", List.forall_mem_nil _⟩)
  have hBlog := hDirectory "blog"
    [("a", .file "a" "1" default default),
     ("c", .directory "c" [("a", .file "a" "2" default default)] default default)]
    (by decide)
    (List.forall_mem_cons.2 ⟨hFile "1", List.forall_mem_cons.2 ⟨hInner, List.forall_mem_nil _⟩⟩)
  exact hDirectory "root" _ (by decide)
    (List.forall_mem_cons.2 ⟨hBlog, List.forall_mem_cons.2 ⟨hFile "3", List.forall_mem_nil _⟩⟩)

/-! ### What comes of an operation -/

variable {fs fs' : FileSystem} {now : Instant} {path content : String}

theorem exists_of_isOk {attempt : Except Failure FileSystem} (h : attempt.isOk = true) :
    ∃ fs', attempt = .ok fs' := by
  cases attempt with
  | error f => contradiction
  | ok fs' => exact ⟨fs', rfl⟩

/-- An operation that is not refused has a state to save. -/
theorem exists_commit_of_ok {change : Except Failure State}
    (h : fs.commit <$> change = .ok fs') : ∃ s, change = .ok s ∧ fs' = fs.commit s := by
  cases change with
  | error f => contradiction
  | ok s => exact ⟨s, rfl, (Except.ok.inj h).symm⟩

/-- **Making a node**: in a tree of maps, a file or a directory that is made is the new last
child of its parent, under its name, with the content it was asked for or without children, and
with the instant of the operation as both of its own.  The root and every directory down to the
parent are stamped with this instant.  Every other node is as it was, and so is the working
directory. -/
theorem added_create (hKeys : fs.state.root.DistinctKeys) (now : Instant)
    (path content : String) :
    (∀ fs', fs.createFile now path content = .ok fs' →
      ∃ parents name, fs.state.segments path = parents ++ [name] ∧
        fs.state.Added now parents (.file name content now now) fs'.state) ∧
    (∀ fs', fs.createDirectory now path = .ok fs' →
      ∃ parents name, fs.state.segments path = parents ++ [name] ∧
        fs.state.Added now parents (.directory name [] now now) fs'.state) := by
  constructor
  · intro fs' h
    obtain ⟨s, hCreate, rfl⟩ := exists_commit_of_ok h
    exact State.added_of_insert hKeys (fun _ => ⟨rfl, rfl⟩) hCreate
  · intro fs' h
    obtain ⟨s, hCreate, rfl⟩ := exists_commit_of_ok h
    exact State.added_of_insert hKeys (fun _ => ⟨rfl, rfl⟩) hCreate

theorem added_create_namesakes :
    namesakes.state.root.DistinctKeys ∧
    (∃ fs', namesakes.createFile noon "é" "x" = .ok fs' ∧
      ∃ parents name, namesakes.state.segments "é" = parents ++ [name] ∧
        namesakes.state.Added noon parents (.file name "x" noon noon) fs'.state) ∧
    (∃ fs', namesakes.createDirectory noon "/blog/é" = .ok fs' ∧
      ∃ parents name, namesakes.state.segments "/blog/é" = parents ++ [name] ∧
        namesakes.state.Added noon parents (.directory name [] noon noon) fs'.state) := by
  obtain ⟨file, hFile⟩ := exists_of_isOk
    (show (namesakes.createFile noon "é" "x").isOk = true by decide +kernel)
  obtain ⟨directory, hDirectory⟩ := exists_of_isOk
    (show (namesakes.createDirectory noon "/blog/é").isOk = true by decide +kernel)
  exact ⟨distinctKeys_namesakes,
    ⟨file, hFile, (added_create distinctKeys_namesakes noon "é" "x").1 file hFile⟩,
    ⟨directory, hDirectory,
      (added_create distinctKeys_namesakes noon "/blog/é" "").2 directory hDirectory⟩⟩

/-- **Taking a node away**: in a tree of maps, the node is no more, nor is anything below it, and
its siblings keep their order.  The root and every directory down to the parent are stamped.
Every other node is as it was, whatever its name, and so is the working directory, also where it
pointed below the node. -/
theorem removed_delete (hKeys : fs.state.root.DistinctKeys)
    (h : fs.delete now path = .ok fs') :
    ∃ parents name, fs.state.segments path = parents ++ [name] ∧
      fs.state.Removed now parents name fs'.state := by
  obtain ⟨s, hDelete, rfl⟩ := exists_commit_of_ok h
  exact State.removed_of_delete hKeys hDelete

theorem removed_delete_namesakes :
    namesakes.state.root.DistinctKeys ∧
    ∃ fs', namesakes.delete noon "/blog/c" = .ok fs' ∧
      ∃ parents name, namesakes.state.segments "/blog/c" = parents ++ [name] ∧
        namesakes.state.Removed noon parents name fs'.state := by
  obtain ⟨fs', h⟩ := exists_of_isOk
    (show (namesakes.delete noon "/blog/c").isOk = true by decide +kernel)
  exact ⟨distinctKeys_namesakes, fs', h, removed_delete distinctKeys_namesakes h⟩

/-- **Replacing a content**: in a tree of maps, the file has the content, and it, the root and
every directory on the path are stamped.  The file keeps its place among its siblings, and every
other node is as it was; at every other path the same is read as before, and the working
directory stays. -/
theorem rewritten_write (hKeys : fs.state.root.DistinctKeys)
    (h : fs.write now path content = .ok fs') :
    fs.state.Rewritten now (fs.state.segments path) content fs'.state := by
  obtain ⟨s, hWrite, rfl⟩ := exists_commit_of_ok h
  exact State.rewritten_of_write hKeys hWrite

theorem rewritten_write_namesakes :
    namesakes.state.root.DistinctKeys ∧
    ∃ fs', namesakes.write noon "a" "é" = .ok fs' ∧
      namesakes.state.Rewritten noon (namesakes.state.segments "a") "é" fs'.state := by
  obtain ⟨fs', h⟩ := exists_of_isOk
    (show (namesakes.write noon "a" "é").isOk = true by decide +kernel)
  exact ⟨distinctKeys_namesakes, fs', h, rewritten_write distinctKeys_namesakes h⟩

end FileSystem

end TreeShell
