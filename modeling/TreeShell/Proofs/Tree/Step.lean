import TreeShell.Proofs.Path.Segments
import TreeShell.Proofs.Tree.Position

/-!
# Steps of a state

What an operation that is not refused can do to a state, said once: `State.Step` has one
constructor for each kind of change, with all that the operation checked before it.  What
holds of every state of a run is then shown by cases on a step.

A property of the nodes of a tree is `Stable` when it holds of new nodes and no kind of
change to a node breaks it; a stable property holds everywhere after a step when it did
before.

Main statements: `insert_eq_ok_iff`, `delete_eq_ok_iff`, `write_eq_ok_iff`,
`Everywhere.step`.
-/

namespace TreeShell.Tree

open TreeShell.Path TreeShell.Time

namespace State

/-! ## What an operation checks -/

theorem insert_eq_ok_iff {s s' : State} {now : Instant} {op : Operation} {path : String}
    {make : String → Node} :
    s.insert now op path make = .ok s' ↔
      ∃ parents name parent, s.segments path = parents ++ [name] ∧ parents.length < maxDepth ∧
        s.root.lookup? parents = some parent ∧ parent.isDirectory = true ∧
        parent.child? name = none ∧
        s' = s.alter now (Node.addChild name (make name)) parents := by
  unfold insert
  rcases List.eq_nil_or_concat (s.segments path) with hNil | ⟨parents, name, hSegments⟩
  · -- The root itself cannot be made.
    simp [hNil]
  · rw [List.concat_eq_append] at hSegments
    simp only [hSegments, List.getLast?_concat, List.dropLast_concat]
    constructor
    · -- Each check in turn, in the order in which a refusal names its cause.
      intro h
      split at h
      · contradiction
      · rename_i hDepth
        split at h
        · contradiction
        · rename_i parent hParent
          split at h
          · contradiction
          · rename_i hDirectory
            split at h
            · contradiction
            · rename_i hFree
              refine ⟨parents, name, parent, rfl, by omega, hParent, by simpa using hDirectory,
                by simpa using hFree, ?_⟩
              exact (Except.ok.inj h).symm
    · rintro ⟨parents', name', parent, hEq, hDepth, hParent, hDirectory, hFree, rfl⟩
      obtain ⟨rfl, hName⟩ := List.append_inj' hEq rfl
      obtain rfl : name = name' := by simpa using hName
      simp [Nat.not_le.2 hDepth, hParent, hDirectory, hFree]

theorem delete_eq_ok_iff {s s' : State} {now : Instant} {path : String} :
    s.delete now path = .ok s' ↔
      ∃ parents name, s.segments path = parents ++ [name] ∧
        ¬ (parents = [] ∧ name = protectedName) ∧
        (s.root.lookup? (parents ++ [name])).isSome = true ∧
        s' = s.alter now (Node.removeChild name) parents := by
  unfold delete
  rcases List.eq_nil_or_concat (s.segments path) with hNil | ⟨parents, name, hSegments⟩
  · simp [hNil]
  · rw [List.concat_eq_append] at hSegments
    simp only [hSegments, List.getLast?_concat, List.dropLast_concat, List.isEmpty_iff]
    constructor
    · intro h
      split at h
      · contradiction
      · rename_i hProtected
        split at h
        · contradiction
        · rename_i hFound
          refine ⟨parents, name, rfl, hProtected, ?_, (Except.ok.inj h).symm⟩
          simpa [Option.isSome_iff_ne_none] using hFound
    · rintro ⟨parents', name', hEq, hProtected, hFound, rfl⟩
      obtain ⟨rfl, hName⟩ := List.append_inj' hEq rfl
      obtain rfl : name = name' := by simpa using hName
      have hSome : (s.root.lookup? (parents ++ [name])).isNone = false := by
        simpa [Option.isSome_iff_ne_none] using hFound
      simp only [if_neg hProtected, hSome, Bool.false_eq_true, if_false]

theorem write_eq_ok_iff {s s' : State} {now : Instant} {path content : String} :
    s.write now path content = .ok s' ↔
      ∃ n, s.segments path ≠ [] ∧ s.node? path = some n ∧ n.isDirectory = false ∧
        s' = s.alter now (Node.setContent content) (s.segments path) := by
  unfold write
  constructor
  · intro h
    split at h
    · contradiction
    · rename_i hSegments
      split at h
      · contradiction
      · rename_i n hNode
        split at h
        · contradiction
        · rename_i hFile
          exact ⟨n, by simpa using hSegments, hNode, by simpa using hFile,
            (Except.ok.inj h).symm⟩
  · rintro ⟨n, hSegments, hNode, hFile, rfl⟩
    simp [hSegments, hNode, hFile]

/-! ## Steps -/

/-- What an operation can make of a state, when it may set the working directories that
`goes` tells. -/
inductive Step (goes : String → Prop) (now : Instant) (s : State) : State → Prop where
  | go {path : String} (hPath : goes path) : Step goes now s (s.setCurrentPath path)
  | restart : Step goes now s (.initial now)
  | add {path : List String} {name : String} {parent child : Node}
      (hName : IsSegment name) (hDepth : path.length < maxDepth)
      (hParent : s.root.lookup? path = some parent) (hDirectory : parent.isDirectory = true)
      (hFree : parent.child? name = none)
      (hChild : (∃ content, child = .newFile name content now) ∨ child = .newDirectory name now) :
      Step goes now s (s.alter now (Node.addChild name child) path)
  | remove {path : List String} {name : String}
      (hProtected : ¬ (path = [] ∧ name = protectedName))
      (hFound : (s.root.lookup? (path ++ [name])).isSome = true) :
      Step goes now s (s.alter now (Node.removeChild name) path)
  | rewrite {path : List String} {content : String} {n : Node}
      (hNode : s.root.lookup? path = some n) (hFile : n.isDirectory = false) :
      Step goes now s (s.alter now (Node.setContent content) path)

variable {goes : String → Prop} {s s' : State} {now : Instant} {path content : String}

theorem isSegment_of_segments_eq {parents : List String} {name : String}
    (h : s.segments path = parents ++ [name]) : IsSegment name := by
  have hMem : name ∈ s.segments path := by simp [h]
  exact isSegment_of_mem_absoluteSegments hMem

theorem step_of_createFile (h : s.createFile now path content = .ok s') :
    Step goes now s s' := by
  obtain ⟨parents, name, parent, hSegments, hDepth, hParent, hDirectory, hFree, rfl⟩ :=
    insert_eq_ok_iff.1 h
  exact .add (isSegment_of_segments_eq hSegments) hDepth hParent hDirectory hFree
    (.inl ⟨content, rfl⟩)

theorem step_of_createDirectory (h : s.createDirectory now path = .ok s') :
    Step goes now s s' := by
  obtain ⟨parents, name, parent, hSegments, hDepth, hParent, hDirectory, hFree, rfl⟩ :=
    insert_eq_ok_iff.1 h
  exact .add (isSegment_of_segments_eq hSegments) hDepth hParent hDirectory hFree (.inr rfl)

theorem step_of_delete (h : s.delete now path = .ok s') : Step goes now s s' := by
  obtain ⟨parents, name, _, hProtected, hFound, rfl⟩ := delete_eq_ok_iff.1 h
  exact .remove hProtected hFound

theorem step_of_write (h : s.write now path content = .ok s') : Step goes now s s' := by
  obtain ⟨n, _, hNode, hFile, rfl⟩ := write_eq_ok_iff.1 h
  exact .rewrite hNode hFile

end State

/-! ## Properties that steps keep -/

namespace Node

/-- A property of positions and nodes that new nodes have and no change to a node breaks. -/
structure Stable (P : List String → Node → Prop) : Prop where
  onTheWay : ∀ now, SurvivesOnTheWay P now
  newNode : ∀ {path n}, path.length ≤ maxDepth → n.entries = [] → P path n
  addChild : ∀ {path m name child now}, P path m → m.isDirectory = true →
    m.child? name = none → IsSegment name → child.name = name →
    P path (addChild name child (stamp now m))
  removeChild : ∀ {path m name now}, P path m → P path (removeChild name (stamp now m))
  setContent : ∀ {path m content now}, P path m → P path (setContent content (stamp now m))

variable {P : List String → Node → Prop}

theorem everywhere_of_entries_eq_nil {n : Node} (h : n.entries = []) (hHere : P [] n) :
    n.Everywhere P :=
  everywhere_iff.2 ⟨hHere, by simp [h]⟩

/-- A new last child without children of its own keeps a property that it and its parent
have. -/
theorem Everywhere.addChild {now : Instant} {n child : Node} {name : String}
    (h : n.Everywhere P) (hDirectory : n.isDirectory = true)
    (hHere : P [] (Node.addChild name child (n.stamp now))) (hEntries : child.entries = [])
    (hChild : P [name] child) : (Node.addChild name child (n.stamp now)).Everywhere P := by
  refine everywhere_iff.2 ⟨hHere, fun kc hkc => ?_⟩
  rw [entries_addChild name child (by simpa using hDirectory), entries_stamp, List.mem_append,
    List.mem_singleton] at hkc
  rcases hkc with hkc | rfl
  · exact (everywhere_iff.1 h).2 kc hkc
  · exact everywhere_of_entries_eq_nil hEntries hChild

theorem Everywhere.removeChild {now : Instant} {n : Node} {name : String} (h : n.Everywhere P)
    (hHere : P [] (Node.removeChild name (n.stamp now))) :
    (Node.removeChild name (n.stamp now)).Everywhere P := by
  refine everywhere_iff.2 ⟨hHere, fun kc hkc => ?_⟩
  rw [entries_removeChild, entries_stamp] at hkc
  exact (everywhere_iff.1 h).2 kc (List.mem_filter.1 hkc).1

theorem Everywhere.setContent {now : Instant} {n : Node} {content : String}
    (h : n.Everywhere P) (hHere : P [] (Node.setContent content (n.stamp now))) :
    (Node.setContent content (n.stamp now)).Everywhere P := by
  refine everywhere_iff.2 ⟨hHere, fun kc hkc => ?_⟩
  rw [entries_setContent, entries_stamp] at hkc
  exact (everywhere_iff.1 h).2 kc hkc

theorem Stable.initial (hP : Stable P) (now : Instant) :
    (State.initial now).root.Everywhere P := by
  -- The initial root is an empty one that was given its protected child.
  have hHere : P [] (newDirectory "root" now) := hP.newNode (Nat.zero_le _) rfl
  have hRoot : (newDirectory "root" now).Everywhere P := everywhere_of_entries_eq_nil rfl hHere
  have hBlog : P [] (Node.addChild protectedName (newDirectory protectedName now)
      ((newDirectory "root" now).stamp now)) :=
    hP.addChild hHere rfl rfl (by decide) rfl
  exact hRoot.addChild rfl hBlog rfl (hP.newNode (by decide) rfl)

/-- **Steps keep stable properties** of the nodes of a tree of maps. -/
theorem Everywhere.step {goes : String → Prop} {now : Instant} {s s' : State} (hP : Stable P)
    (hKeys : s.root.DistinctKeys) (h : s.root.Everywhere P) (hStep : State.Step goes now s s') :
    s'.root.Everywhere P := by
  -- In a tree of maps the node that was looked up is the only one that is changed.
  have hOnly : ∀ {path : List String} {n m : Node}, s.root.lookup? path = some n →
      s.root.At path m → m = n := fun hLookup hAt =>
    Option.some.inj (((lookup?_eq_some_iff_at hKeys).2 hAt).symm.trans hLookup)
  have hHere : ∀ {path : List String} {m : Node},
      (m.Everywhere fun below => P (path ++ below)) → P path m := fun hm => by
    simpa using (everywhere_iff.1 hm).1
  cases hStep with
  | go => exact h
  | restart => exact hP.initial now
  | @add path name parent child hName hDepth hParent hDirectory hFree hChild =>
    obtain ⟨hEntries, hLabel⟩ : child.entries = [] ∧ child.name = name := by
      rcases hChild with ⟨content, rfl⟩ | rfl <;> exact ⟨rfl, rfl⟩
    refine h.alter (keepsLabel_addChild name child) (hP.onTheWay now) fun m hAt hm => ?_
    obtain rfl := hOnly hParent hAt
    refine hm.addChild hDirectory ?_ hEntries (hP.newNode ?_ hEntries)
    · simpa using hP.addChild (hHere hm) hDirectory hFree hName hLabel
    · simpa [Nat.succ_le_iff] using hDepth
  | @remove path name hProtected hFound =>
    refine h.alter (keepsLabel_removeChild name) (hP.onTheWay now) fun m hAt hm => ?_
    exact hm.removeChild (by simpa using hP.removeChild (hHere hm))
  | @rewrite path content n hNode hFile =>
    refine h.alter (keepsLabel_setContent content) (hP.onTheWay now) fun m hAt hm => ?_
    exact hm.setContent (by simpa using hP.setContent (hHere hm))

/-! ## Distinct keys and depth -/

theorem stable_nodup_keys : Stable fun _ m => m.keys.Nodup where
  onTheWay := by
    intro now path m key f hf hm
    simpa using hm
  newNode := by
    intro path n _ hEntries
    simp [keys, hEntries]
  addChild := by
    intro path m name child now hm hDirectory hFree _ _
    have hNew : name ∉ m.keys := (child?_eq_none_iff_notMem m name).1 hFree
    rw [keys, entries_addChild name child (by simpa using hDirectory), entries_stamp]
    exact nodup_keys_append child hm hNew
  removeChild := by
    intro path m name now hm
    rw [keys, entries_removeChild, entries_stamp]
    exact hm.sublist (List.filter_sublist.map Prod.fst)
  setContent := by
    intro path m content now hm
    simpa using hm

theorem stable_depth {limit : Nat} (hLimit : maxDepth ≤ limit) :
    Stable fun path _ => path.length ≤ limit where
  onTheWay := fun _ _ _ _ _ _ h => h
  newNode := fun h _ => Nat.le_trans h hLimit
  addChild := fun h _ _ _ _ => h
  removeChild := fun h => h
  setContent := fun h => h

/-- Whether no node lies more than `limit` levels below this one. -/
def Within (limit : Nat) (n : Node) : Prop :=
  n.Everywhere fun path _ => path.length ≤ limit

end Node

end TreeShell.Tree
