import Mathlib.Data.List.Infix
import TreeShell.Proofs.Tree.Step

/-!
# Directories that stay

An operation leaves a directory where it is, unless it takes away the node there or one above
it.  Changes below it, beside it, or in its own children make no difference.

Main statements: `Node.DirectoryAt.alter`, `State.loses_delete`.
-/

namespace TreeShell.Tree

open TreeShell.Time

namespace Node

/-- Whether the keys lead to a directory. -/
def DirectoryAt (keys : List String) (n : Node) : Prop :=
  ∃ m, n.lookup? keys = some m ∧ m.isDirectory = true

variable {now : Instant} {n : Node} {key : String} {keys path : List String}

theorem directoryAt_nil : n.DirectoryAt [] ↔ n.isDirectory = true := by
  constructor
  · rintro ⟨m, hNode, hDirectory⟩
    obtain rfl : n = m := Option.some.inj hNode
    exact hDirectory
  · exact fun hDirectory => ⟨n, rfl, hDirectory⟩

theorem directoryAt_cons :
    n.DirectoryAt (key :: keys) ↔ ∃ c, n.child? key = some c ∧ c.DirectoryAt keys := by
  simp only [DirectoryAt, lookup?, Option.bind_eq_some_iff]
  constructor
  · rintro ⟨m, ⟨c, hChild, hNode⟩, hDirectory⟩
    exact ⟨c, hChild, m, hNode, hDirectory⟩
  · rintro ⟨c, hChild, m, hNode, hDirectory⟩
    exact ⟨m, ⟨c, hChild, hNode⟩, hDirectory⟩

/-- A directory stays when the node above it keeps its label and its child on the way. -/
theorem DirectoryAt.of_child? {n' : Node} (h : n.DirectoryAt keys)
    (hLabel : n'.isDirectory = n.isDirectory)
    (hChild : ∀ key rest, keys = key :: rest → n'.child? key = n.child? key) :
    n'.DirectoryAt keys := by
  cases keys with
  | nil => exact directoryAt_nil.2 (hLabel.trans (directoryAt_nil.1 h))
  | cons key rest =>
    rw [directoryAt_cons] at h ⊢
    rwa [hChild key rest rfl]

theorem DirectoryAt.stamp (h : n.DirectoryAt keys) (now : Instant) :
    (n.stamp now).DirectoryAt keys :=
  h.of_child? (isDirectory_stamp now n) fun key _ _ => child?_stamp now n key

/-- **A change along a path** leaves a directory where it is, when it does so for the
directories below the end of the path. -/
theorem DirectoryAt.alter {f : Node → Node} (hf : KeepsLabel f)
    (hEnd : ∀ below m, keys = path ++ below → m.DirectoryAt below → (f m).DirectoryAt below)
    (h : n.DirectoryAt keys) : (n.alter now f path).DirectoryAt keys := by
  -- Along the path; the directory leaves it where their first keys differ.
  induction path generalizing n keys with
  | nil => exact hEnd keys (n.stamp now) rfl (h.stamp now)
  | cons key path ih =>
    cases keys with
    | nil =>
      rw [directoryAt_nil] at h ⊢
      exact ((hf.alter now (key :: path)).isDirectory n).trans h
    | cons first keys =>
      obtain ⟨c, hChild, hBelow⟩ := directoryAt_cons.1 h
      rw [directoryAt_cons, Node.alter, child?_mapChild, child?_stamp, hChild]
      by_cases hKey : first = key
      · subst hKey
        have hDeeper := ih (fun below m hKeys => hEnd below m (by rw [hKeys, List.cons_append]))
          hBelow
        exact ⟨c.alter now f path, by simp, hDeeper⟩
      · exact ⟨c, by simp [hKey], hBelow⟩

/-! ## Changes of one node -/

theorem DirectoryAt.addChild (h : n.DirectoryAt keys) (key : String) (child : Node) :
    (Node.addChild key child n).DirectoryAt keys := by
  cases keys with
  | nil =>
    rw [directoryAt_nil] at h ⊢
    exact ((keepsLabel_addChild key child).isDirectory n).trans h
  | cons first rest =>
    obtain ⟨c, hChild, hBelow⟩ := directoryAt_cons.1 h
    exact directoryAt_cons.2 ⟨c, child?_addChild_of_some key child hChild, hBelow⟩

theorem DirectoryAt.setContent (h : n.DirectoryAt keys) (content : String) :
    (Node.setContent content n).DirectoryAt keys :=
  h.of_child? ((keepsLabel_setContent content).isDirectory n)
    fun key _ _ => child?_setContent content n key

/-- Taking a child away leaves every directory that is not at it or below it. -/
theorem DirectoryAt.removeChild (h : n.DirectoryAt keys) (hApart : ¬ [key] <+: keys) :
    (Node.removeChild key n).DirectoryAt keys := by
  refine h.of_child? ((keepsLabel_removeChild key).isDirectory n) ?_
  rintro first rest rfl
  refine child?_removeChild_of_ne ?_ n
  rintro rfl
  exact hApart ⟨rest, rfl⟩

/-! ## Changes along a path -/

theorem DirectoryAt.alter_addChild (h : n.DirectoryAt keys) (key : String) (child : Node) :
    (n.alter now (Node.addChild key child) path).DirectoryAt keys := by
  apply h.alter (keepsLabel_addChild key child)
  intro below m _ hBelow
  exact hBelow.addChild key child

theorem DirectoryAt.alter_setContent (h : n.DirectoryAt keys) (content : String) :
    (n.alter now (Node.setContent content) path).DirectoryAt keys := by
  apply h.alter (keepsLabel_setContent content)
  intro below m _ hBelow
  exact hBelow.setContent content

theorem DirectoryAt.alter_removeChild (h : n.DirectoryAt keys)
    (hApart : ¬ path ++ [key] <+: keys) :
    (n.alter now (Node.removeChild key) path).DirectoryAt keys := by
  apply h.alter (keepsLabel_removeChild key)
  rintro below m rfl hBelow
  -- Below the parent, the keys that go on to the removed child are those at or below it.
  apply hBelow.removeChild
  exact fun hPrefix => hApart ((List.prefix_append_right_inj path).2 hPrefix)

end Node

/-! ## Operations -/

namespace State

variable {now : Instant} {s s' : State} {op : Operation} {path content : String}
  {make : String → Node} {keys : List String}

theorem any_isDirectory_node?_iff :
    (s.node? path).any Node.isDirectory = true ↔ s.root.DirectoryAt (s.segments path) := by
  simp [node?, Node.DirectoryAt, Option.any_eq_true]

/-- Whether one state comes of another with the same working directory and all of its
directories. -/
structure Grows (s s' : State) : Prop where
  currentPath_eq : s'.currentPath = s.currentPath
  directoryAt : ∀ keys, s.root.DirectoryAt keys → s'.root.DirectoryAt keys

theorem Grows.refl (s : State) : s.Grows s :=
  ⟨rfl, fun _ h => h⟩

theorem grows_insert (h : s.insert now op path make = .ok s') : s.Grows s' := by
  obtain ⟨parents, name, parent, _, _, _, _, _, rfl⟩ := insert_eq_ok_iff.1 h
  exact ⟨rfl, fun keys hDirectory => hDirectory.alter_addChild name _⟩

theorem grows_write (h : s.write now path content = .ok s') : s.Grows s' := by
  obtain ⟨n, _, _, _, rfl⟩ := write_eq_ok_iff.1 h
  exact ⟨rfl, fun keys hDirectory => hDirectory.alter_setContent content⟩

/-- What taking a node away makes of a state: the node was there and is no more, and every
directory that is not this node or below it stays. -/
structure Loses (s : State) (gone : List String) (s' : State) : Prop where
  currentPath_eq : s'.currentPath = s.currentPath
  gone_ne_nil : gone ≠ []
  before : (s.root.lookup? gone).isSome = true
  after : s'.root.lookup? gone = none
  directoryAt : ∀ keys, s.root.DirectoryAt keys → ¬ gone <+: keys → s'.root.DirectoryAt keys

/-- **Taking a node away** loses this node and what is below it, and no directory besides. -/
theorem loses_delete (h : s.delete now path = .ok s') : s.Loses (s.segments path) s' := by
  obtain ⟨parents, name, hSegments, _, hFound, rfl⟩ := delete_eq_ok_iff.1 h
  rw [hSegments]
  refine ⟨rfl, by simp, hFound, ?_, fun keys hDirectory => hDirectory.alter_removeChild⟩
  rw [Node.lookup?_concat, State.alter, Node.lookup?_alter]
  -- Where there was a parent, it has lost every child under the name.
  cases s.root.lookup? parents with
  | none => rfl
  | some parent => exact Node.child?_removeChild_self name (parent.stamp now)

end State

end TreeShell.Tree
