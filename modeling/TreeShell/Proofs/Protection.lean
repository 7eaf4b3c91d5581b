import Mathlib.Tactic.Common
import TreeShell.Proofs.Run
import TreeShell.Proofs.Tree.Directories

/-!
# The protected directory

A directory under the protected name below the root stays there, whatever is done to the
file system and whichever reads and writes of the store fail.  Only taking a node away at
the root could remove it, and that is refused for this name; no change on the way to a
node changes the kind of a child.

Main statements: `State.Guarded.step`, `Shell.isDirectory_protected_play`.
-/

namespace TreeShell

open TreeShell.Time TreeShell.Tree

/-! ## Guarded states -/

/-- Whether a node has a directory as its child under a key. -/
def Tree.Node.HasDirectory (key : String) (n : Node) : Prop :=
  ∃ c, n.child? key = some c ∧ c.isDirectory = true

/-- Whether there is a directory under the protected name below the root. -/
def Tree.State.Guarded (s : State) : Prop :=
  s.root.HasDirectory protectedName

namespace Tree.State

theorem guarded_iff {s : State} : s.Guarded ↔ s.root.DirectoryAt [protectedName] := by
  rw [Guarded, Node.HasDirectory, Node.directoryAt_cons]
  simp only [Node.directoryAt_nil]

theorem guarded_initial (now : Instant) : (initial now).Guarded :=
  ⟨.newDirectory protectedName now, rfl, rfl⟩

/-- **Steps leave the protected directory** where it is. -/
theorem Guarded.step {goes : String → Prop} {now : Instant} {s s' : State} (h : s.Guarded)
    (hStep : s.Step goes now s') : s'.Guarded := by
  rw [guarded_iff] at h ⊢
  cases hStep with
  | go => exact h
  | restart => exact guarded_iff.1 (guarded_initial now)
  | @add path name parent child => exact h.alter_addChild name child
  | @remove path name hProtected =>
    apply h.alter_removeChild
    intro hPrefix
    -- Only a child of the root is as high, and at the root the check rules this name out.
    obtain ⟨rest, hEq⟩ := hPrefix
    cases path with
    | nil =>
      obtain ⟨hName, -⟩ := List.cons.inj hEq
      exact hProtected ⟨rfl, hName⟩
    | cons other path => simp at hEq
  | @rewrite path content => exact h.alter_setContent content

theorem kept_guarded : Kept Guarded where
  initial := guarded_initial
  step := fun h _ hStep => h.step hStep

/-- The path of the protected directory means it in every working directory. -/
theorem Guarded.node?_blogPath {s : State} (h : s.Guarded) :
    ∃ n, s.node? FileSystem.blogPath = some n ∧ n.isDirectory = true := by
  obtain ⟨n, hChild, hDirectory⟩ := h
  have hSegment : ∀ name ∈ [protectedName], Path.IsSegment name := by decide
  have hJoin : FileSystem.blogPath = Path.join [protectedName] := by decide
  have hSegments : s.segments FileSystem.blogPath = [protectedName] := by
    rw [segments, hJoin, Path.absoluteSegments_join hSegment]
  refine ⟨n, ?_, hDirectory⟩
  rw [node?, hSegments, Node.lookup?, hChild, Option.bind_some, Node.lookup?]

end Tree.State

/-! ## Runs -/

/-- **Protection**: from any tree of maps with the protected directory, over a store that
holds no state without it under the key, a script under this key ends with a directory at
the protected path. -/
theorem Shell.isDirectory_protected_play {fs : FileSystem} (hState : fs.state.Guarded)
    (hKeys : fs.state.root.DistinctKeys) (hStore : fs.store.Trusted State.Guarded fs.key)
    {script : List (Instant × Action)} (hStays : ∀ e ∈ script, e.2.StaysAt fs.key) :
    ∃ n, ((Shell.new fs).play script).2.fs.node? "/blog" = some n ∧ n.isDirectory = true := by
  have hHolds : fs.Holds State.Guarded := ⟨hState, hKeys, hStore⟩
  have hRun := play_kept State.kept_guarded hHolds hStays
  exact hRun.state.node?_blogPath

/-- A file system over a text that holds no state. -/
def FileSystem.overRuin : FileSystem where
  state := (State.initial default).setCurrentPath "/blog/../blog"
  store := { backend := .memory ⟨[("tree", "[")]⟩, readsFail := true }
  key := "tree"

/-- Some ways to the protected directory, with faults between them. -/
def siege : List (Instant × Action) :=
  [(default, .submit "rm .."), (default, .submit "cd .."), (default, .submit "rm //blog/"),
    (default, .faults false fun n => n % 2 == 0), (default, .reopen "tree"),
    (default, .delete "/blog"), (default, .submit "echo gone > blog"), (default, .reset),
    (default, .reopen "tree"), (default, .submit "rm ../../blog")]

theorem isDirectory_protected_play_siege :
    ∃ n, ((Shell.new .overRuin).play siege).2.fs.node? "/blog" = some n ∧
      n.isDirectory = true := by
  have hState : FileSystem.overRuin.state.Guarded := State.guarded_initial default
  have hKeys : FileSystem.overRuin.state.root.DistinctKeys := State.distinctKeys_initial default
  have hStore : FileSystem.overRuin.store.Trusted State.Guarded FileSystem.overRuin.key := by
    intro text s hText hLoad
    have hRuin : (State.load? "[").isNone = true := by decide +kernel
    obtain rfl : "[" = text := Option.some.inj (Except.ok.inj hText)
    rw [Option.isNone_iff_eq_none.1 hRuin] at hLoad
    contradiction
  have hStays : ∀ e ∈ siege, e.2.StaysAt FileSystem.overRuin.key := by
    simp [siege, Action.StaysAt, FileSystem.overRuin]
  exact Shell.isDirectory_protected_play hState hKeys hStore hStays

end TreeShell
