import Mathlib.Tactic.Common
import TreeShell.Proofs.Protection
import TreeShell.Proofs.Reopening
import TreeShell.Proofs.Soundness

/-!
# What opening establishes

A file system is opened in the state that its store holds, whoever put the text there, and in
the initial one when there is none.  Nothing but an empty working directory is mended.  So the
tree obeys the data model after opening (`State.Lawful`) exactly when the held one does.  No step
breaks it, and what is saved reads back as it was: a store that was opened in a lawful tree is
never opened in another, unless a text comes from outside.

Main statement: `FileSystem.lawful_openAt_iff`.
-/

namespace TreeShell

open TreeShell.Path TreeShell.Time TreeShell.Tree

/-! ## Lawful trees -/

namespace Tree.State

/-- Whether a tree obeys the data model: its root is a directory that has the protected
directory, and every child stands under the name that it carries, which is a segment. -/
structure Lawful (s : State) : Prop where
  isDirectory : s.root.isDirectory = true
  guarded : s.Guarded
  names : s.root.Everywhere fun _ n => n.NamesChildren

variable {s s' : State}

/-- A file has no children, so a root with the protected directory is a directory. -/
theorem Guarded.isDirectory (h : s.Guarded) : s.root.isDirectory = true := by
  obtain ⟨c, hChild, -⟩ := h
  cases hRoot : s.root with
  | file name content created modified => simp [hRoot, Node.child?, Node.children?] at hChild
  | directory name children created modified => rfl

theorem lawful_initial (now : Instant) : (initial now).Lawful where
  isDirectory := rfl
  guarded := guarded_initial now
  names := Node.stable_namesChildren.initial now

/-- **Steps keep a tree lawful.** -/
theorem Lawful.step {goes : String → Prop} {now : Instant} (h : s.Lawful)
    (hKeys : s.root.DistinctKeys) (hStep : s.Step goes now s') : s'.Lawful where
  isDirectory := (h.guarded.step hStep).isDirectory
  guarded := h.guarded.step hStep
  names := Node.Everywhere.step Node.stable_namesChildren hKeys h.names hStep

theorem kept_lawful : Kept Lawful where
  initial := lawful_initial
  step := fun h hKeys hStep => h.step hKeys hStep

/-- The working directory is no part of the tree. -/
theorem lawful_rooted_iff : s.rooted.Lawful ↔ s.Lawful := by
  have hGuarded : s.rooted.Guarded ↔ s.Guarded := by rw [Guarded, Guarded, rooted_root]
  constructor
  · intro h
    exact ⟨by simpa using h.isDirectory, hGuarded.1 h.guarded, by simpa using h.names⟩
  · intro h
    exact ⟨by simpa using h.isDirectory, hGuarded.2 h.guarded, by simpa using h.names⟩

theorem isAbsolute_rooted (h : s.currentPath = "" ∨ isAbsolute s.currentPath = true) :
    isAbsolute s.rooted.currentPath = true := by
  unfold rooted
  split
  · have hRoot : isAbsolute "/" = true := by decide
    exact hRoot
  · rename_i hPath
    exact h.resolve_left hPath

end Tree.State

/-! ## Opening -/

namespace FileSystem

theorem state_openAt (store : Store) (key : String) (now : Instant) :
    (openAt store key now).state = revive store key now := rfl

theorem lawful_revive_iff (store : Store) (key : String) (now : Instant) :
    (revive store key now).Lawful ↔ ∀ held, store.HoldsState key held → held.Lawful := by
  constructor
  · intro h held hHolds
    rw [revive_of_holdsState hHolds] at h
    exact State.lawful_rooted_iff.1 h
  · intro h
    by_cases hSome : ∃ held, store.HoldsState key held
    · obtain ⟨held, hHolds⟩ := hSome
      rw [revive_of_holdsState hHolds]
      exact State.lawful_rooted_iff.2 (h held hHolds)
    · rw [revive_of_not_holdsState (not_exists.1 hSome)]
      exact State.lawful_initial now

theorem isAbsolute_revive {store : Store} {key : String}
    (h : ∀ held, store.HoldsState key held →
      held.currentPath = "" ∨ isAbsolute held.currentPath = true) (now : Instant) :
    isAbsolute (revive store key now).currentPath = true := by
  by_cases hSome : ∃ held, store.HoldsState key held
  · obtain ⟨held, hHolds⟩ := hSome
    rw [revive_of_holdsState hHolds]
    exact State.isAbsolute_rooted (h held hHolds)
  · rw [revive_of_not_holdsState (not_exists.1 hSome)]
    have hRoot : isAbsolute "/" = true := by decide
    exact hRoot

/-- **Opening**, whatever is stored: the tree is lawful exactly when each tree that the store
holds under the key is, and the working directory is absolute when each that it holds is, or is
empty.  In any case no two siblings have one key, the state reads back from its own text, and the
working directory is not empty.  Over a store that holds no other than lawful trees, a script
under this key, with any faults and reopenings, ends in a lawful tree. -/
theorem lawful_openAt_iff (store : Store) (key : String) (now : Instant) :
    let fs := openAt store key now
    (fs.state.Lawful ↔ ∀ held, store.HoldsState key held → held.Lawful) ∧
      ((∀ held, store.HoldsState key held →
          held.currentPath = "" ∨ isAbsolute held.currentPath = true) →
        isAbsolute fs.currentPath = true) ∧
      (fs.state.root.DistinctKeys ∧ State.load? fs.state.save = some fs.state ∧
        fs.currentPath ≠ "") ∧
      (store.Trusted State.Lawful key → ∀ script : List (Instant × Action),
        (∀ e ∈ script, e.2.StaysAt key) → ((Shell.new fs).play script).2.fs.state.Lawful) := by
  intro fs
  have hSavable : fs.state.Savable := savable_revive store key now
  refine ⟨lawful_revive_iff store key now, fun h => isAbsolute_revive h now,
    ⟨hSavable.keys, hSavable.load?_save, revive_currentPath_ne_empty store key now⟩, ?_⟩
  intro hTrusted script hStays
  have hOpened : State.Lawful fs.state ∧ fs.state.root.DistinctKeys :=
    revive_kept (State.kept_lawful.keptAt now) hTrusted
  have hHolds : fs.Holds State.Lawful := ⟨hOpened.1, hOpened.2, hTrusted⟩
  exact (Shell.play_kept State.kept_lawful hHolds hStays).state

/-! ## States of another hand -/

/-- Below the root there is only a file without a name, under a key that no path leads to. -/
def foreignState : State where
  root := .directory "root" [("a/b", .newFile "" "" default)] default default
  currentPath := "/"

/-- The root is a file. -/
def fileState : State where
  root := .newFile "root" "" default
  currentPath := "/"

/-- The working directory does not begin at the root. -/
def relativeState : State :=
  (State.initial default).setCurrentPath "blog"

theorem savable_foreignState : foreignState.Savable := by
  have hSmall : ∀ P : List String → Node → Prop, P [] foreignState.root →
      P ["a/b"] (.newFile "" "" default) → foreignState.root.Everywhere P := by
    intro P hRoot hChild
    refine Node.everywhere_iff.2 ⟨hRoot, fun kc hMem => ?_⟩
    obtain rfl := List.mem_singleton.1 hMem
    exact Node.everywhere_of_entries_eq_nil rfl hChild
  exact ⟨hSmall _ (by decide) (by decide), hSmall _ (by decide) (by decide)⟩

theorem savable_fileState : fileState.Savable where
  keys := Node.everywhere_of_entries_eq_nil rfl (by decide)
  depth := Node.everywhere_of_entries_eq_nil rfl (by decide)

theorem savable_relativeState : relativeState.Savable :=
  ⟨(State.savable_initial default).keys, (State.savable_initial default).depth⟩

/-- A memory that holds the text of a state. -/
def storeOver (s : State) : Store where
  backend := .set .empty "tree" s.save

theorem holdsState_storeOver {s : State} (h : s.Savable) :
    (storeOver s).HoldsState "tree" s :=
  ⟨s.save, Store.Backend.get_set_self .empty "tree" s.save, h.load?_save⟩

/-- A state of another hand is opened as it is. -/
theorem state_openAt_storeOver {s : State} (h : s.Savable) (hPath : s.currentPath ≠ "") :
    (openAt (storeOver s) "tree" default).state = s := by
  rw [state_openAt, revive_of_holdsState (holdsState_storeOver h)]
  exact if_neg hPath

/-- **No invariant** is established by opening: not that the protected directory is there and
children stand under their names, not that the root is a directory, and not that the working
directory is absolute. -/
theorem not_lawful_openAt_foreignState :
    ((storeOver foreignState).HoldsState "tree" foreignState ∧
      ¬ (openAt (storeOver foreignState) "tree" default).state.Guarded ∧
      ¬ (openAt (storeOver foreignState) "tree" default).state.root.NamesChildren) ∧
    ((storeOver fileState).HoldsState "tree" fileState ∧
      ¬ (openAt (storeOver fileState) "tree" default).state.root.isDirectory = true) ∧
    ((storeOver relativeState).HoldsState "tree" relativeState ∧
      ¬ isAbsolute (openAt (storeOver relativeState) "tree" default).currentPath = true) := by
  rw [currentPath, state_openAt_storeOver savable_foreignState (by decide),
    state_openAt_storeOver savable_fileState (by decide),
    state_openAt_storeOver savable_relativeState (by decide)]
  refine ⟨⟨holdsState_storeOver savable_foreignState, ?guarded, ?names⟩,
    ⟨holdsState_storeOver savable_fileState, Bool.false_ne_true⟩,
    ⟨holdsState_storeOver savable_relativeState, by decide⟩⟩
  case guarded =>
    rintro ⟨c, hChild, -⟩
    have hNone : foreignState.root.child? protectedName = none := rfl
    rw [hNone] at hChild
    contradiction
  case names =>
    intro h
    have hName : "" = "a/b" := (h ("a/b", .newFile "" "" default) (by simp [foreignState])).1
    contradiction

end FileSystem

end TreeShell
