import Mathlib.Data.List.Basic
import Mathlib.Tactic.Common
import TreeShell.Command.Directories
import TreeShell.Command.Files
import TreeShell.Proofs.Frame
import TreeShell.Proofs.Refusal

/-!
# Making a node and taking it away

`rm` undoes `touch` and `mkdir`: a node that was just made is there to be taken away, and then
the tree is as it was before, up to the instants of the last change of the directories that the
node was made below.

## Layers

- `Node.ChangedAlong.comp`: two changes at the end of the same keys are one;
- `Node.GainsChild.stamped`: a directory that gains a child and loses it is only stamped;
- `State.Restored`, `State.restored_of_insert_delete`: what both changes make of a state;
- `Command.restored_rm`: what the commands make of it.
-/

namespace TreeShell

open TreeShell.Command TreeShell.Time TreeShell.Tree

/-! ## Two changes at one place -/

namespace Tree.Node

/-- The directory with the instant of a change, and nothing else of it changed. -/
inductive Stamped (now : Instant) : Node → Node → Prop where
  | directory (name : String) (cs : List (String × Node)) (created modified : Instant) :
      Stamped now (.directory name cs created modified) (.directory name cs created now)

variable {now later : Instant} {Turns Turns' Both : Node → Node → Prop} {n n' n'' child : Node}
  {key : String} {keys rest : List String}

/-- The only child under a key stands at one place. -/
theorem between_unique {before after before' after' : List (String × Node)} {c c' : Node}
    (hOnly : key ∉ (before ++ after).map Prod.fst)
    (h : before ++ (key, c) :: after = before' ++ (key, c') :: after') :
    before = before' ∧ c = c' ∧ after = after' := by
  have hElsewhere : ∀ cs : List (String × Node), cs ⊆ before ++ after → (key, c') ∉ cs :=
    fun cs hSub hMem => hOnly (List.mem_map_of_mem (hSub hMem))
  obtain ⟨hBefore, hChild, hAfter⟩ :=
    (List.append_cons_inj_of_notMem (hElsewhere before (List.subset_append_left _ _))
      (hElsewhere after (List.subset_append_right _ _))).1 h
  exact ⟨hBefore, (Prod.mk.inj hChild).2, hAfter⟩

/-- **Changes in a row**: two changes at the end of the same keys are one, which turns the node
there as both do together and has the instant of the later one. -/
theorem ChangedAlong.comp (h : n.ChangedAlong now Turns keys n')
    (h' : n'.ChangedAlong later Turns' keys n'')
    (hTurns : ∀ m m' m'', Turns m m' → Turns' m' m'' → Both m m'') :
    n.ChangedAlong later Both keys n'' := by
  induction h generalizing n'' with
  | here hHere =>
    cases h' with
    | here hHere' => exact .here (hTurns _ _ _ hHere hHere')
  | @through key keys c c' before after name created modified hOnly _ ih =>
    generalize hMid : directory name (before ++ (key, c') :: after) created now = mid at h'
    cases h' with
    | through _ _ _ _ hBelow' =>
      -- The second change goes down through the same child, which the first has changed.
      obtain ⟨rfl, hEntries, rfl, rfl⟩ := directory.inj hMid
      obtain ⟨rfl, rfl, rfl⟩ := between_unique hOnly hEntries
      exact .through name created modified hOnly (ih hBelow')

/-- A directory that gains a child and then loses it is only stamped. -/
theorem GainsChild.stamped (h : GainsChild now child n n')
    (h' : LosesChild later child.name n' n'') : n.Stamped later n'' := by
  cases h with
  | @last cs name created modified hNew =>
    generalize hMid : directory name (cs ++ [(child.name, child)]) created now = mid at h'
    cases h' with
    | between _ _ _ _ _ =>
      -- The name of the child stood nowhere before, so that the child that goes is the last one.
      obtain ⟨rfl, hEntries, rfl, rfl⟩ := directory.inj hMid
      obtain ⟨rfl, -, rfl⟩ := between_unique (by rwa [List.append_nil]) hEntries
      rw [List.append_nil]
      exact .directory name cs created modified

theorem Stamped.restamped (h : n.Stamped now n') : n.Restamped now n' := by
  cases h
  exact ⟨rfl, rfl, rfl, rfl⟩

theorem Stamped.lookup?_of_ne_nil (h : n.Stamped now n') (hBelow : rest ≠ []) :
    n'.lookup? rest = n.lookup? rest := by
  cases h
  cases rest with
  | nil => contradiction
  | cons => rfl

end Tree.Node

/-! ## The state before -/

namespace Tree.State

/-- Whether one state is another up to the instants of the last change of the nodes from the
root down to the end of some keys. -/
structure Restored (now : Instant) (keys : List String) (s s' : State) : Prop where
  currentPath_eq : s'.currentPath = s.currentPath
  tree : s.root.ChangedAlong now (Node.Stamped now) keys s'.root
  above : ∀ path, s.segments path <+: keys →
    ∃ n n', s.node? path = some n ∧ s'.node? path = some n' ∧ n.Restamped now n'
  aside : ∀ path, ¬ s.segments path <+: keys → s'.node? path = s.node? path

variable {s s' s'' : State} {now later : Instant} {path : String} {keys : List String}

theorem restored_of_changedAlong (hPath : s'.currentPath = s.currentPath)
    (hTree : s.root.ChangedAlong now (Node.Stamped now) keys s'.root) :
    s.Restored now keys s' where
  currentPath_eq := hPath
  tree := hTree
  above := fun path hPrefix =>
    restamped_above (fun _ _ hStamped => hStamped.restamped) hPath hTree hPrefix
  aside := by
    intro path hAbove
    rw [node?_eq_of_segments hPath rfl]
    refine hTree.lookup?_of_not_prefix hAbove fun m m' rest hStamped hKeys => ?_
    refine hStamped.lookup?_of_ne_nil ?_
    rintro rfl
    exact hAbove (by rw [hKeys, List.append_nil])

/-- A node that was made can be taken away again, unless it is the protected one. -/
theorem exists_delete_of_insert {op : Operation} {make : String → Node}
    (h : s.insert now op path make = .ok s') (hFree : s.segments path ≠ [protectedName]) :
    ∃ s'', s'.delete later path = .ok s'' := by
  obtain ⟨name, hLast, hMade⟩ := node?_of_insert h
  have hSegments : s'.segments path = s.segments path := by
    obtain ⟨_, _, _, -, -, -, -, -, rfl⟩ := insert_eq_ok_iff.1 h
    rfl
  have hNonempty : s.segments path ≠ [] := fun hNil => by simp [hNil] at hLast
  refine exists_delete_eq_ok ?_
  simp only [deletion, List.forall_mem_cons, hSegments]
  rw [node?, hSegments] at hMade
  exact ⟨hNonempty, hFree, ⟨make name, hMade⟩, by simp⟩

section Undo

variable {op : Operation} {make : String → Node}
  (hMake : ∀ name, (∃ content, make name = .newFile name content now) ∨
    make name = .newDirectory name now)

include hMake

theorem step_of_insert (h : s.insert now op path make = .ok s') :
    s.Step (fun _ => False) now s' := by
  obtain ⟨parents, name, parent, hSegments, hDepth, hParent, hDirectory, hVacant, rfl⟩ :=
    insert_eq_ok_iff.1 h
  exact .add (isSegment_of_segments_eq hSegments) hDepth hParent hDirectory hVacant (hMake name)

/-- **Undoing**: making a node and taking it away leaves the tree as it was, up to the instants
of the directories down to its parent. -/
theorem restored_of_insert_delete (hKeys : s.root.DistinctKeys)
    (h : s.insert now op path make = .ok s') (h' : s'.delete later path = .ok s'') :
    s.Restored later (s.segments path).dropLast s'' := by
  have hNew : ∀ name, (make name).name = name ∧ (make name).entries = [] := by
    intro name
    rcases hMake name with ⟨content, hFile⟩ | hDirectory
    · exact hFile ▸ ⟨rfl, rfl⟩
    · exact hDirectory ▸ ⟨rfl, rfl⟩
  have hKeys' : s'.root.DistinctKeys :=
    Node.Everywhere.step Node.stable_nodup_keys hKeys hKeys (step_of_insert hMake h)
  obtain ⟨parents, name, hSegments, hAdded⟩ := added_of_insert hKeys hNew h
  obtain ⟨parents', name', hSegments', hRemoved⟩ := removed_of_delete hKeys' h'
  -- Both changes go along the same keys, since the working directory stays.
  rw [segments_congr hAdded.currentPath_eq, hSegments] at hSegments'
  obtain ⟨rfl, hNames⟩ := List.append_inj' hSegments' rfl
  obtain rfl : name = name' := by simpa using hNames
  rw [hSegments, List.dropLast_concat]
  refine restored_of_changedAlong (hRemoved.currentPath_eq.trans hAdded.currentPath_eq) ?_
  have hTree := hRemoved.tree
  rw [← (hNew name).1] at hTree
  exact hAdded.tree.comp hTree fun _ _ _ hGains hLoses => hGains.stamped hLoses

end Undo

end Tree.State

/-! ## The commands -/

namespace Command

variable {fs : FileSystem} {now later : Instant} {arg : String} {rest rest' : List String}

/-- A change that is not refused has a state, which is saved. -/
theorem exists_of_ofChange {change : Except Failure State} {refusal : String}
    (h : (Outcome.ofChange fs (fs.commit <$> change) refusal).result.isError = false) :
    ∃ s, change = .ok s ∧
      Outcome.ofChange fs (fs.commit <$> change) refusal = ⟨.silent, fs.commit s, []⟩ := by
  cases change with
  | error f => contradiction
  | ok s => exact ⟨s, rfl, rfl⟩

/-- What `touch` and `mkdir` have in common: they make a new node for their first argument. -/
theorem exists_insert_of_makes {c : Command} (hc : c ∈ [touch, mkdir])
    (h : (c.run now (arg :: rest) fs).result.isError = false) :
    ∃ op make s, (∀ name, (∃ content, make name = .newFile name content now) ∨
        make name = .newDirectory name now) ∧
      fs.state.insert now op (fs.resolve arg) make = .ok s ∧
      (c.run now (arg :: rest) fs).fs = fs.commit s := by
  rw [List.mem_pair] at hc
  rcases hc with rfl | rfl
  · obtain ⟨s, hInsert, hRun⟩ := exists_of_ofChange h
    exact ⟨.createFile, _, s, fun name => .inl ⟨"", rfl⟩, hInsert, congrArg Outcome.fs hRun⟩
  · obtain ⟨s, hInsert, hRun⟩ := exists_of_ofChange h
    exact ⟨.createDirectory, _, s, fun name => .inr rfl, hInsert, congrArg Outcome.fs hRun⟩

/-- **Undoing by `rm`**: when `touch` or `mkdir` has made a node for an argument that does not
mean the protected directory, `rm` with the same argument is not refused, and the tree is as it
was before both, up to the instants of the last change of the root and of the directories down
to the parent of the node. -/
theorem restored_rm (hKeys : fs.state.root.DistinctKeys)
    (hFree : fs.state.segments (fs.resolve arg) ≠ [protectedName]) {c : Command}
    (hc : c ∈ [touch, mkdir]) (h : (c.run now (arg :: rest) fs).result.isError = false) :
    let made := (c.run now (arg :: rest) fs).fs
    let o := rm.run later (arg :: rest') made
    o.result = .silent ∧
      fs.state.Restored later (fs.state.segments (fs.resolve arg)).dropLast o.fs.state := by
  intro made o
  obtain ⟨op, make, s, hMake, hInsert, hMade⟩ := exists_insert_of_makes hc h
  obtain ⟨s', hDelete⟩ : ∃ s', s.delete later (fs.resolve arg) = .ok s' :=
    State.exists_delete_of_insert hInsert hFree
  have hPath : made.resolve arg = fs.resolve arg := by
    obtain ⟨_, _, _, -, -, -, -, -, rfl⟩ := State.insert_eq_ok_iff.1 hInsert
    rw [show made = _ from hMade]
    rfl
  have hRun : o = ⟨.silent, made.commit s', []⟩ := by
    have hDelete' : made.state.delete later (made.resolve arg) = .ok s' := by
      rw [hPath, show made = _ from hMade]
      exact hDelete
    simp only [o, rm, FileSystem.delete, hDelete']
    rfl
  rw [hRun]
  exact ⟨rfl, State.restored_of_insert_delete hMake hKeys hInsert hDelete⟩

theorem restored_rm_namesakes :
    let made := (mkdir.run FileSystem.noon ["..//x/../b", "c"] .namesakes).fs
    let o := rm.run FileSystem.noon ["..//x/../b"] made
    FileSystem.namesakes.state.root.DistinctKeys ∧ o.result = .silent ∧
      FileSystem.namesakes.state.Restored FileSystem.noon
        (FileSystem.namesakes.state.segments "/blog") o.fs.state := by
  have hMade : (mkdir.run FileSystem.noon ["..//x/../b", "c"] .namesakes).result.isError
      = false := by decide +kernel
  have hFree : FileSystem.namesakes.state.segments (FileSystem.namesakes.resolve "..//x/../b")
      ≠ [protectedName] := by decide +kernel
  have hParents : (FileSystem.namesakes.state.segments
      (FileSystem.namesakes.resolve "..//x/../b")).dropLast
      = FileSystem.namesakes.state.segments "/blog" := by decide +kernel
  obtain ⟨hSilent, hRestored⟩ :=
    restored_rm FileSystem.distinctKeys_namesakes hFree (by simp) hMade
  exact ⟨FileSystem.distinctKeys_namesakes, hSilent, hParents ▸ hRestored⟩

end Command

end TreeShell
