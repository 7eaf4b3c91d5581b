import TreeShell.Proofs.Time.Order
import TreeShell.Proofs.Tree.Step

/-!
# Stamps along a tree

A tree is timely at an instant when no node in it was changed later, none was changed before
it was made, and no child was made before its parent or changed after it.  A change stamps
every node from the root down to where it happens, so that the parents of what is changed are
as new as the change.

## Layers

- `InOrder`, `Timely`: the stamps of one node and its children, and of a whole tree;
- `Restamps.alter`: a change along a path, from what it does where the path ends;
- `State.Step.timely`: a step at an instant which is not before the stamps in the tree;
- `Timely.created_le_and_modified_le`: what this comes to for a node and all below it.
-/

namespace TreeShell.Tree

open TreeShell.Time

namespace Node

/-! ## Stamps in order -/

/-- Whether the stamps of a node, and those of its children beside them, are in the order in
which things happen, up to an instant. -/
structure InOrder (clock : Instant) (n : Node) : Prop where
  created_le : n.created ≤ n.modified
  modified_le : n.modified ≤ clock
  children : ∀ kc ∈ n.entries, n.created ≤ kc.2.created ∧ kc.2.modified ≤ n.modified

/-- Whether the stamps all over a tree are in order up to an instant. -/
def Timely (clock : Instant) (n : Node) : Prop :=
  n.Everywhere fun _ m => m.InOrder clock

variable {clock now : Instant} {n : Node}

theorem timely_iff :
    n.Timely clock ↔ n.InOrder clock ∧ ∀ kc ∈ n.entries, kc.2.Timely clock :=
  everywhere_iff

theorem Timely.inOrder (h : n.Timely clock) : n.InOrder clock :=
  (timely_iff.1 h).1

theorem Timely.mono (h : n.Timely clock) (hLater : clock ≤ now) : n.Timely now := by
  have hNode : ∀ m : Node, m.InOrder clock → m.InOrder now := fun m hm =>
    ⟨hm.created_le, hm.modified_le.trans hLater, hm.children⟩
  exact Everywhere.mono h fun _ m => hNode m

theorem Timely.created_le (h : n.Timely clock) : n.created ≤ clock :=
  h.inOrder.created_le.trans h.inOrder.modified_le

theorem timely_newFile (name content : String) (now : Instant) :
    (newFile name content now).Timely now :=
  timely_iff.2 ⟨⟨le_rfl, le_rfl, nofun⟩, nofun⟩

theorem timely_newDirectory (name : String) (now : Instant) :
    (newDirectory name now).Timely now :=
  timely_iff.2 ⟨⟨le_rfl, le_rfl, nofun⟩, nofun⟩

/-! ## Stamping a node -/

@[simp] theorem created_stamp (now : Instant) (n : Node) : (n.stamp now).created = n.created := by
  cases n <;> rfl

@[simp] theorem modified_stamp (now : Instant) (n : Node) : (n.stamp now).modified = now := by
  cases n <;> rfl

@[simp] theorem created_mapChild (key : String) (f : Node → Node) (n : Node) :
    (n.mapChild key f).created = n.created := by
  cases n <;> rfl

@[simp] theorem modified_mapChild (key : String) (f : Node → Node) (n : Node) :
    (n.mapChild key f).modified = n.modified := by
  cases n <;> rfl

theorem Timely.stamp (h : n.Timely now) : (n.stamp now).Timely now := by
  obtain ⟨hHere, hBelow⟩ := timely_iff.1 h
  refine timely_iff.2 ⟨⟨?_, ?_, ?_⟩, ?_⟩
  · simpa using h.created_le
  · simp
  · intro kc hkc
    rw [entries_stamp] at hkc
    -- The present is not before any stamp below.
    have hOld : kc.2.modified ≤ now := (hBelow kc hkc).inOrder.modified_le
    simpa using ⟨(hHere.children kc hkc).1, hOld⟩
  · rw [entries_stamp]
    exact hBelow

/-! ## Changes at the end of a path -/

/-- Whether a change leaves a timely node that was just stamped timely, with its own stamps. -/
structure Restamps (now : Instant) (f : Node → Node) : Prop where
  created : ∀ n, (f n).created = n.created
  modified : ∀ n, (f n).modified = n.modified
  timely : ∀ n, n.Timely now → n.modified = now → (f n).Timely now

theorem restamps_addChild (key : String) {child : Node} (hChild : child.Timely now)
    (hNew : child.created = now) : Restamps now (addChild key child) where
  created := fun n => by cases n <;> rfl
  modified := fun n => by cases n <;> rfl
  timely := by
    intro n h hStamp
    cases n with
    | file => exact h
    | directory name cs created modified =>
      obtain rfl : modified = now := hStamp
      obtain ⟨hHere, hBelow⟩ := timely_iff.1 h
      -- The new child was made just now, when its parent was stamped.
      have hBeside : created ≤ child.created ∧ child.modified ≤ modified :=
        ⟨hNew ▸ hHere.created_le, hChild.inOrder.modified_le⟩
      refine timely_iff.2 ⟨⟨hHere.created_le, hHere.modified_le, ?_⟩, ?_⟩
      · intro kc hkc
        rcases List.mem_append.1 hkc with hOld | hLast
        · exact hHere.children kc hOld
        · obtain rfl : kc = (key, child) := List.mem_singleton.1 hLast
          exact hBeside
      · intro kc hkc
        rcases List.mem_append.1 hkc with hOld | hLast
        · exact hBelow kc hOld
        · obtain rfl : kc = (key, child) := List.mem_singleton.1 hLast
          exact hChild

theorem restamps_removeChild (key : String) : Restamps now (removeChild key) where
  created := fun n => by cases n <;> rfl
  modified := fun n => by cases n <;> rfl
  timely := by
    intro n h _
    cases n with
    | file => exact h
    | directory name cs created modified =>
      obtain ⟨hHere, hBelow⟩ := timely_iff.1 h
      refine timely_iff.2 ⟨⟨hHere.created_le, hHere.modified_le, ?_⟩, ?_⟩
      · exact fun kc hkc => hHere.children kc (List.mem_filter.1 hkc).1
      · exact fun kc hkc => hBelow kc (List.mem_filter.1 hkc).1

theorem restamps_setContent (content : String) : Restamps now (setContent content) where
  created := fun n => by cases n <;> rfl
  modified := fun n => by cases n <;> rfl
  timely := by
    intro n h _
    cases n with
    | file => exact timely_iff.2 ⟨⟨h.inOrder.created_le, h.inOrder.modified_le, nofun⟩, nofun⟩
    | directory => exact h

/-! ## Changes along a path -/

theorem Restamps.created_alter {f : Node → Node} (hf : Restamps now f) (path : List String)
    (n : Node) : (n.alter now f path).created = n.created := by
  cases path with
  | nil => rw [alter, hf.created, created_stamp]
  | cons key path => rw [alter, created_mapChild, created_stamp]

/-- A change leaves its instant on the node that the path begins with. -/
theorem Restamps.modified_alter {f : Node → Node} (hf : Restamps now f) (path : List String)
    (n : Node) : (n.alter now f path).modified = now := by
  cases path with
  | nil => rw [alter, hf.modified, modified_stamp]
  | cons key path => rw [alter, modified_mapChild, modified_stamp]

/-- **Changes along a path** leave a timely tree timely. -/
theorem Restamps.alter {f : Node → Node} (hf : Restamps now f) (path : List String) {n : Node}
    (h : n.Timely now) : (n.alter now f path).Timely now := by
  -- Along the path; the child on the way is stamped with its parent, and the other children
  -- were changed before.
  induction path generalizing n with
  | nil => exact hf.timely (n.stamp now) h.stamp (modified_stamp now n)
  | cons key path ih =>
    obtain ⟨hHere, hBelow⟩ := timely_iff.1 h.stamp
    rw [Node.alter]
    refine timely_iff.2 ⟨⟨?_, ?_, ?_⟩, ?_⟩
    · simpa using hHere.created_le
    · simp
    · intro kc hkc
      rw [entries_mapChild] at hkc
      obtain ⟨⟨k, c⟩, hMem, rfl⟩ := List.mem_map.1 hkc
      obtain ⟨hMade, hChanged⟩ := hHere.children (k, c) hMem
      rw [created_mapChild, modified_mapChild]
      by_cases hKey : k = key
      · simp only [if_pos hKey, hf.created_alter, hf.modified_alter, modified_stamp]
        exact ⟨hMade, le_rfl⟩
      · simp only [if_neg hKey]
        exact ⟨hMade, hChanged⟩
    · intro kc hkc
      rw [entries_mapChild] at hkc
      obtain ⟨⟨k, c⟩, hMem, rfl⟩ := List.mem_map.1 hkc
      by_cases hKey : k = key
      · simp only [if_pos hKey]
        exact ih (hBelow (k, c) hMem)
      · simp only [if_neg hKey]
        exact hBelow (k, c) hMem

/-! ## Below a node -/

theorem Timely.of_at {d : Node} {path : List String} (h : n.Timely clock) (hAt : n.At path d) :
    d.Timely clock := by
  induction hAt with
  | here n => exact h
  | descend hMem _ ih => exact ih ((timely_iff.1 h).2 _ hMem)

/-- No node in a timely tree was made before one above it or changed after it. -/
theorem Timely.created_le_and_modified_le {d : Node} {path : List String} (h : n.Timely clock)
    (hAt : n.At path d) : n.created ≤ d.created ∧ d.modified ≤ n.modified := by
  induction hAt with
  | here n => exact ⟨le_rfl, le_rfl⟩
  | @descend n c d key path hMem _ ih =>
    obtain ⟨hHere, hBelow⟩ := timely_iff.1 h
    obtain ⟨hMade, hChanged⟩ := hHere.children _ hMem
    obtain ⟨hMadeBelow, hChangedBelow⟩ := ih (hBelow _ hMem)
    exact ⟨hMade.trans hMadeBelow, hChangedBelow.trans hChanged⟩

end Node

namespace State

theorem timely_initial (now : Instant) : (initial now).root.Timely now := by
  have hRoot : (Node.newDirectory "root" now).Timely now := Node.timely_newDirectory "root" now
  have hBlog : (Node.newDirectory protectedName now).Timely now :=
    Node.timely_newDirectory protectedName now
  exact (Node.restamps_addChild protectedName hBlog rfl).timely _ hRoot rfl

/-- **Steps** at an instant that is not before the stamps of a timely tree leave it timely. -/
theorem Step.timely {goes : String → Prop} {now : Instant} {s s' : State}
    (h : s.root.Timely now) (hStep : s.Step goes now s') : s'.root.Timely now := by
  cases hStep with
  | go => exact h
  | restart => exact timely_initial now
  | @add path name parent child _ _ _ _ _ hChild =>
    have hNew : child.Timely now ∧ child.created = now := by
      rcases hChild with ⟨content, rfl⟩ | rfl
      · exact ⟨Node.timely_newFile name content now, rfl⟩
      · exact ⟨Node.timely_newDirectory name now, rfl⟩
    exact (Node.restamps_addChild name hNew.1 hNew.2).alter path h
  | @remove path name => exact (Node.restamps_removeChild name).alter path h
  | @rewrite path content => exact (Node.restamps_setContent content).alter path h

end State

end TreeShell.Tree
