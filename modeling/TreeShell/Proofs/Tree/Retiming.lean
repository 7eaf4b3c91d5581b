import Mathlib.Tactic.Common
import TreeShell.Proofs.Tree.Position

/-!
# Operations and instants

No operation looks at the instants in a tree: it answers the same when all of them, and the
present with them, are replaced through one function.  Replacing them by a single instant
forgets them, so that trees equal up to their instants behave alike.

Main statements: `State.createFile_retime` and its like for every operation and question,
and what they come to for states that differ in instants only (`State.Alike`).
-/

namespace TreeShell.Tree

open TreeShell.Time

/-! ## Replacing the instants of a tree -/

mutual

/-- The node with every instant in it replaced. -/
def Node.retime (g : Instant → Instant) : Node → Node
  | .file name content created modified => .file name content (g created) (g modified)
  | .directory name children created modified =>
    .directory name (retimeChildren g children) (g created) (g modified)

/-- The children with every instant in them replaced. -/
def retimeChildren (g : Instant → Instant) : List (String × Node) → List (String × Node)
  | [] => []
  | (key, n) :: rest => (key, n.retime g) :: retimeChildren g rest

end

/-- The state with every instant in it replaced. -/
def State.retime (g : Instant → Instant) (s : State) : State :=
  { s with root := s.root.retime g }

theorem retimeChildren_eq_map (g : Instant → Instant) (cs : List (String × Node)) :
    retimeChildren g cs = cs.map fun kc => (kc.1, kc.2.retime g) := by
  induction cs with
  | nil => rfl
  | cons kc cs ih => rw [retimeChildren, ih, List.map_cons]

namespace Node

variable {g : Instant → Instant}

/-! ## Reading -/

@[simp] theorem name_retime (n : Node) : (n.retime g).name = n.name := by
  cases n <;> rfl

@[simp] theorem isDirectory_retime (n : Node) : (n.retime g).isDirectory = n.isDirectory := by
  cases n <;> rfl

@[simp] theorem content?_retime (n : Node) : (n.retime g).content? = n.content? := by
  cases n <;> rfl

theorem children?_retime (n : Node) :
    (n.retime g).children? = n.children?.map fun cs => cs.map fun kc => (kc.1, kc.2.retime g) := by
  cases n <;> simp [Node.retime, children?, retimeChildren_eq_map]

theorem lookup_map_retime (cs : List (String × Node)) (key : String) :
    (cs.map fun kc => (kc.1, kc.2.retime g)).lookup key = (cs.lookup key).map (retime g) := by
  induction cs with
  | nil => rfl
  | cons kc cs ih =>
    obtain ⟨k, c⟩ := kc
    simp only [List.map_cons, List.lookup_cons]
    split
    · rfl
    · exact ih

theorem child?_retime (n : Node) (key : String) :
    (n.retime g).child? key = (n.child? key).map (retime g) := by
  cases n with
  | file => rfl
  | directory name cs created modified =>
    simp only [child?, children?, Node.retime, Option.bind_some, retimeChildren_eq_map,
      lookup_map_retime]

theorem lookup?_retime (n : Node) (path : List String) :
    (n.retime g).lookup? path = (n.lookup? path).map (retime g) := by
  induction path generalizing n with
  | nil => rfl
  | cons key path ih =>
    rw [lookup?, lookup?, child?_retime]
    cases n.child? key with
    | none => rfl
    | some c => exact ih c

/-- A listing is in the order of kinds and names, whatever the instants. -/
theorem listing?_retime (n : Node) :
    (n.retime g).listing? = n.listing?.map (List.map (retime g)) := by
  -- The order of a listing sees kinds and names only, so sorting commutes with the map.
  have hOrder : ∀ a b : Node, listsBefore (a.retime g) (b.retime g) = listsBefore a b := by
    intro a b
    simp [listsBefore]
  rw [listing?, listing?, children?_retime, Option.map_map, Option.map_map]
  refine congrArg (Option.map · n.children?) (funext fun cs => ?_)
  simp only [Function.comp_apply, List.map_map]
  rw [List.map_mergeSort (s := listsBefore) fun a _ b _ => (hOrder a b).symm, List.map_map]
  rfl

/-! ## Changing -/

theorem stamp_retime (now : Instant) (n : Node) :
    (n.stamp now).retime g = (n.retime g).stamp (g now) := by
  cases n <;> rfl

theorem addChild_retime (key : String) (child n : Node) :
    (addChild key child n).retime g = addChild key (child.retime g) (n.retime g) := by
  cases n with
  | file => rfl
  | directory => simp [addChild, Node.retime, retimeChildren_eq_map]

theorem removeChild_retime (key : String) (n : Node) :
    (removeChild key n).retime g = removeChild key (n.retime g) := by
  cases n with
  | file => rfl
  | directory =>
    simp only [removeChild, Node.retime, retimeChildren_eq_map, List.filter_map]
    rfl

theorem setContent_retime (content : String) (n : Node) :
    (setContent content n).retime g = setContent content (n.retime g) := by
  cases n <;> rfl

theorem mapChild_retime {f f' : Node → Node} (hf : ∀ n, (f n).retime g = f' (n.retime g))
    (key : String) (n : Node) :
    (n.mapChild key f).retime g = (n.retime g).mapChild key f' := by
  cases n with
  | file => rfl
  | directory name cs created modified =>
    simp only [mapChild, Node.retime, retimeChildren_eq_map, List.map_map]
    congr 1
    refine List.map_congr_left fun kc _ => ?_
    simp only [Function.comp_apply]
    split <;> simp [hf]

theorem alter_retime {f f' : Node → Node} (hf : ∀ n, (f n).retime g = f' (n.retime g))
    (now : Instant) (path : List String) (n : Node) :
    (n.alter now f path).retime g = (n.retime g).alter (g now) f' path := by
  induction path generalizing n with
  | nil => rw [alter, alter, hf, stamp_retime]
  | cons key path ih => rw [alter, alter, mapChild_retime ih, stamp_retime]

end Node

namespace State

variable {g : Instant → Instant}

theorem initial_retime (now : Instant) : (initial now).retime g = initial (g now) := rfl

theorem segments_retime (s : State) (path : String) :
    (s.retime g).segments path = s.segments path := rfl

theorem node?_retime (s : State) (path : String) :
    (s.retime g).node? path = (s.node? path).map (Node.retime g) :=
  Node.lookup?_retime s.root _

theorem read_retime (s : State) (path : String) : (s.retime g).read path = s.read path := by
  rw [read, read, node?_retime]
  cases s.node? path <;> simp

theorem list_retime (s : State) (path : String) :
    (s.retime g).list path = List.map (Node.retime g) <$> s.list path := by
  rw [list, list, node?_retime]
  cases s.node? path with
  | none => rfl
  | some n =>
    simp only [Option.map_some, Node.listing?_retime]
    cases n.listing? <;> rfl

theorem setCurrentPath_retime (s : State) (path : String) :
    (s.setCurrentPath path).retime g = (s.retime g).setCurrentPath path := rfl

theorem alter_retime {f f' : Node → Node} (hf : ∀ n, (f n).retime g = f' (n.retime g))
    (s : State) (now : Instant) (path : List String) :
    (s.alter now f path).retime g = (s.retime g).alter (g now) f' path := by
  simp only [alter, State.retime, Node.alter_retime hf]

theorem insert_retime {make make' : String → Node}
    (hMake : ∀ name, (make name).retime g = make' name)
    (s : State) (now : Instant) (op : Operation) (path : String) :
    (s.retime g).insert (g now) op path make' = State.retime g <$> s.insert now op path make := by
  unfold insert
  rw [segments_retime]
  -- Every check asks for a kind or for a child under a key, and passes on both sides or
  -- on neither.
  cases (s.segments path).getLast? with
  | none => rfl
  | some name =>
    simp only
    have hRoot : (s.retime g).root.lookup? (s.segments path).dropLast
        = (s.root.lookup? (s.segments path).dropLast).map (Node.retime g) :=
      Node.lookup?_retime s.root _
    rw [hRoot]
    cases s.root.lookup? (s.segments path).dropLast with
    | none => split <;> rfl
    | some parent =>
      have hAlter := alter_retime (f := Node.addChild name (make name))
        (fun n => Node.addChild_retime (g := g) name (make name) n) s now (s.segments path).dropLast
      rw [hMake] at hAlter
      simp only [Option.map_some, Node.isDirectory_retime, Node.child?_retime, Option.isSome_map,
        ← hAlter]
      split
      · rfl
      · split
        · rfl
        · split <;> rfl

theorem createFile_retime (s : State) (now : Instant) (path content : String) :
    (s.retime g).createFile (g now) path content
      = State.retime g <$> s.createFile now path content := by
  have hMake : ∀ name, (Node.newFile name content now).retime g
      = .newFile name content (g now) := fun _ => rfl
  exact insert_retime hMake s now .createFile path

theorem createDirectory_retime (s : State) (now : Instant) (path : String) :
    (s.retime g).createDirectory (g now) path
      = State.retime g <$> s.createDirectory now path := by
  have hMake : ∀ name, (Node.newDirectory name now).retime g
      = .newDirectory name (g now) := fun _ => rfl
  exact insert_retime hMake s now .createDirectory path

theorem delete_retime (s : State) (now : Instant) (path : String) :
    (s.retime g).delete (g now) path = State.retime g <$> s.delete now path := by
  unfold delete
  rw [segments_retime]
  cases (s.segments path).getLast? with
  | none => rfl
  | some name =>
    have hRoot : (s.retime g).root.lookup? (s.segments path)
        = (s.root.lookup? (s.segments path)).map (Node.retime g) :=
      Node.lookup?_retime s.root _
    have hAlter := alter_retime (Node.removeChild_retime (g := g) name) s now
      (s.segments path).dropLast
    simp only [hRoot, Option.isNone_map, ← hAlter]
    split
    · rfl
    · split <;> rfl

theorem write_retime (s : State) (now : Instant) (path content : String) :
    (s.retime g).write (g now) path content = State.retime g <$> s.write now path content := by
  unfold write
  rw [segments_retime, node?_retime]
  have hAlter := alter_retime (Node.setContent_retime (g := g) content) s now (s.segments path)
  cases s.node? path with
  | none => split <;> rfl
  | some n =>
    simp only [Option.map_some, Node.isDirectory_retime, ← hAlter]
    split
    · rfl
    · split <;> rfl

end State

/-! ## Alike states -/

/-- Two attempts that agree through a map are refused alike or succeed alike. -/
theorem cases_of_map_eq {ε α β : Type} {f : α → β} {e e' : Except ε α}
    (h : f <$> e = f <$> e') :
    (∃ x, e = .error x ∧ e' = .error x) ∨ ∃ a a', e = .ok a ∧ e' = .ok a' ∧ f a = f a' := by
  cases e with
  | error x =>
    cases e' with
    | error x' =>
      obtain rfl : x = x' := Except.error.inj h
      exact .inl ⟨x, rfl, rfl⟩
    | ok a' => contradiction
  | ok a =>
    cases e' with
    | error x' => contradiction
    | ok a' => exact .inr ⟨a, a', rfl, rfl, Except.ok.inj h⟩

/-- The node with one instant everywhere. -/
def Node.timeless (n : Node) : Node :=
  n.retime fun _ => default

/-- The state with one instant everywhere. -/
def State.timeless (s : State) : State :=
  s.retime fun _ => default

/-- Whether two states differ in instants only. -/
def State.Alike (s s' : State) : Prop :=
  s.timeless = s'.timeless

namespace State.Alike

theorem eq {s s' : State} (h : s.Alike s') : s.timeless = s'.timeless :=
  h

variable {s s' : State} (h : s.Alike s')

include h

theorem currentPath_eq : s.currentPath = s'.currentPath := by
  have hPath : s.timeless.currentPath = s'.timeless.currentPath := congrArg currentPath h.eq
  exact hPath

theorem node? (path : String) :
    (s.node? path).map Node.timeless = (s'.node? path).map Node.timeless := by
  have hNode : s.timeless.node? path = s'.timeless.node? path := congrArg (·.node? path) h
  rw [timeless, timeless, node?_retime, node?_retime] at hNode
  exact hNode

/-- Which paths lead to nodes, and of which kind, does not depend on instants. -/
theorem map_isDirectory_node? (path : String) :
    (s.node? path).map Node.isDirectory = (s'.node? path).map Node.isDirectory := by
  have hKind : Node.isDirectory ∘ Node.timeless = Node.isDirectory :=
    funext fun n => Node.isDirectory_retime n
  have hNode := congrArg (Option.map Node.isDirectory) (h.node? path)
  rwa [Option.map_map, Option.map_map, hKind] at hNode

theorem isSome_node? (path : String) : (s.node? path).isSome = (s'.node? path).isSome := by
  have hNode := congrArg Option.isSome (h.node? path)
  rwa [Option.isSome_map, Option.isSome_map] at hNode

theorem read_eq (path : String) : s.read path = s'.read path := by
  have hRead : s.timeless.read path = s'.timeless.read path := congrArg (·.read path) h
  rw [timeless, timeless, read_retime, read_retime] at hRead
  exact hRead

theorem list (path : String) :
    List.map Node.timeless <$> s.list path = List.map Node.timeless <$> s'.list path := by
  have hList : s.timeless.list path = s'.timeless.list path := congrArg (·.list path) h
  rw [timeless, timeless, list_retime, list_retime] at hList
  exact hList

theorem setCurrentPath (path : String) :
    (s.setCurrentPath path).Alike (s'.setCurrentPath path) := by
  have hPath : s.timeless.setCurrentPath path = s'.timeless.setCurrentPath path :=
    congrArg (·.setCurrentPath path) h
  rw [timeless, timeless, ← setCurrentPath_retime, ← setCurrentPath_retime] at hPath
  exact hPath

theorem createFile (now now' : Instant) (path content : String) :
    timeless <$> s.createFile now path content = timeless <$> s'.createFile now' path content := by
  have hCreate := congrArg (fun s => s.createFile default path content) h
  exact (createFile_retime s now path content).symm.trans
    (hCreate.trans (createFile_retime s' now' path content))

theorem createDirectory (now now' : Instant) (path : String) :
    timeless <$> s.createDirectory now path = timeless <$> s'.createDirectory now' path := by
  have hCreate := congrArg (fun s => s.createDirectory default path) h
  exact (createDirectory_retime s now path).symm.trans
    (hCreate.trans (createDirectory_retime s' now' path))

theorem delete (now now' : Instant) (path : String) :
    timeless <$> s.delete now path = timeless <$> s'.delete now' path := by
  have hDelete := congrArg (fun s => s.delete default path) h
  exact (delete_retime s now path).symm.trans (hDelete.trans (delete_retime s' now' path))

theorem write (now now' : Instant) (path content : String) :
    timeless <$> s.write now path content = timeless <$> s'.write now' path content := by
  have hWrite := congrArg (fun s => s.write default path content) h
  exact (write_retime s now path content).symm.trans
    (hWrite.trans (write_retime s' now' path content))

end State.Alike

theorem State.alike_initial (t t' : Instant) : (initial t).Alike (initial t') := by
  have hHere : (initial t).timeless = initial default := initial_retime t
  have hThere : (initial t').timeless = initial default := initial_retime t'
  exact hHere.trans hThere.symm

end TreeShell.Tree
