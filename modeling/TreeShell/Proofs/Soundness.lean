import Mathlib.Tactic.Common
import TreeShell.Proofs.Run

/-!
# Sound trees

A file system that began in the initial state has a sound tree (`State.Sound`): a child
stands under its own name, which is a segment, beside no other of this name, and not
deeper than `maxDepth`.  In a sound tree the keys of a position are the segments of one
path, and this path means the node there from every working directory: no node is out of
reach.

Main statements: `State.Sound.step`, `State.Sound.node?_join`, `Shell.sound_play`.
-/

namespace TreeShell

open TreeShell.Path TreeShell.Time TreeShell.Tree

/-! ## Children under their own names -/

namespace Tree.Node

/-- Whether each child stands under the name that it carries, and this is a segment. -/
def NamesChildren (n : Node) : Prop :=
  ∀ kc ∈ n.entries, kc.2.name = kc.1 ∧ IsSegment kc.1

theorem namesChildren_mapChild {n : Node} (h : n.NamesChildren) {f : Node → Node}
    (hf : KeepsLabel f) (key : String) : (n.mapChild key f).NamesChildren := by
  intro kc hMem
  rw [entries_mapChild] at hMem
  obtain ⟨⟨k, c⟩, hOld, rfl⟩ := List.mem_map.1 hMem
  obtain ⟨hName, hSegment⟩ := h (k, c) hOld
  -- The changed child keeps its name, and every child its key.
  by_cases hKey : k = key
  · simp only [if_pos hKey, hf.name]
    exact ⟨hName, hSegment⟩
  · simp only [if_neg hKey]
    exact ⟨hName, hSegment⟩

theorem namesChildren_stamp {n : Node} (h : n.NamesChildren) (now : Instant) :
    (n.stamp now).NamesChildren := by
  intro kc hMem
  rw [entries_stamp] at hMem
  exact h kc hMem

theorem stable_namesChildren : Stable fun _ n => n.NamesChildren where
  onTheWay := by
    intro now path n key f hf h
    exact namesChildren_mapChild (namesChildren_stamp h now) hf key
  newNode := by
    intro path n _ hEntries kc hMem
    rw [hEntries] at hMem
    contradiction
  addChild := by
    intro path n name child now h hDirectory _ hName hLabel kc hMem
    rw [entries_addChild name child (by simpa using hDirectory), entries_stamp] at hMem
    rcases List.mem_append.1 hMem with hOld | hNew
    · exact h kc hOld
    · obtain rfl : kc = (name, child) := List.mem_singleton.1 hNew
      exact ⟨hLabel, hName⟩
  removeChild := by
    intro path n name now h kc hMem
    rw [entries_removeChild, entries_stamp] at hMem
    exact h kc (List.mem_filter.1 hMem).1
  setContent := by
    intro path n content now h kc hMem
    rw [entries_setContent, entries_stamp] at hMem
    exact h kc hMem

/-- The keys on the way to a node are segments. -/
theorem isSegment_of_at {n m : Node} {keys : List String} (hAt : n.At keys m)
    (h : n.Everywhere fun _ m => m.NamesChildren) : ∀ key ∈ keys, IsSegment key := by
  induction hAt with
  | here n => simp
  | @descend n c m key path hMem _ ih =>
    obtain ⟨hHere, hBelow⟩ := everywhere_iff.1 h
    have hKey : IsSegment key := (hHere _ hMem).2
    have hRest : ∀ k ∈ path, IsSegment k := ih (hBelow _ hMem)
    exact List.forall_mem_cons.2 ⟨hKey, hRest⟩

end Tree.Node

/-! ## Sound states -/

namespace Tree.State

/-- What holds of every tree that grew from the initial one. -/
structure Sound (s : State) : Prop where
  isDirectory : s.root.isDirectory = true
  name : s.root.name = "root"
  names : s.root.Everywhere fun _ n => n.NamesChildren
  keys : s.root.DistinctKeys
  depth : s.root.Within maxDepth

variable {s s' : State}

theorem sound_initial (now : Instant) : (initial now).Sound where
  isDirectory := rfl
  name := rfl
  names := Node.stable_namesChildren.initial now
  keys := distinctKeys_initial now
  depth := (Node.stable_depth (Nat.le_refl maxDepth)).initial now

theorem Step.label {goes : String → Prop} {now : Instant} (hStep : s.Step goes now s')
    (hDirectory : s.root.isDirectory = true) (hName : s.root.name = "root") :
    s'.root.isDirectory = true ∧ s'.root.name = "root" := by
  have hAlter : ∀ {f : Node → Node} {path : List String}, Node.KeepsLabel f →
      (s.root.alter now f path).isDirectory = true ∧ (s.root.alter now f path).name = "root" := by
    intro f path hf
    have hLabel := hf.alter now path
    exact ⟨(hLabel.isDirectory _).trans hDirectory, (hLabel.name _).trans hName⟩
  cases hStep with
  | go => exact ⟨hDirectory, hName⟩
  | restart => exact ⟨rfl, rfl⟩
  | @add path name parent child => exact hAlter (Node.keepsLabel_addChild name child)
  | @remove path name => exact hAlter (Node.keepsLabel_removeChild name)
  | @rewrite path content => exact hAlter (Node.keepsLabel_setContent content)

/-- **Steps keep a tree sound.** -/
theorem Sound.step {goes : String → Prop} {now : Instant} (h : s.Sound)
    (hStep : s.Step goes now s') : s'.Sound := by
  obtain ⟨hDirectory, hName⟩ := hStep.label h.isDirectory h.name
  have hDepth : Node.Stable fun path _ => path.length ≤ maxDepth :=
    Node.stable_depth (Nat.le_refl maxDepth)
  exact {
    isDirectory := hDirectory
    name := hName
    names := Node.Everywhere.step Node.stable_namesChildren h.keys h.names hStep
    keys := hStep.distinctKeys h.keys
    depth := Node.Everywhere.step hDepth h.keys h.depth hStep }

theorem kept_sound : Kept Sound where
  initial := sound_initial
  step := fun h _ hStep => h.step hStep

/-- **Addresses**: the path joined from the keys of a node means this node, whatever the
working directory is. -/
theorem Sound.node?_join (h : s.Sound) {keys : List String} {n : Node}
    (hAt : s.root.At keys n) (cwd : String) :
    (s.setCurrentPath cwd).node? (Path.join keys) = some n := by
  have hSegments : (s.setCurrentPath cwd).segments (Path.join keys) = keys :=
    absoluteSegments_join (Node.isSegment_of_at hAt h.names) cwd
  rw [node?, hSegments]
  exact (Node.lookup?_eq_some_iff_at h.keys).2 hAt

end Tree.State

/-! ## Runs -/

/-- **Soundness**: from the initial state, over a store with nothing under the key, a
script under this key ends in a sound tree, in which the path joined from the keys of a
node means this node from every working directory. -/
theorem Shell.sound_play {store : Store} {key : String} (hStore : store.backend.get key = .ok none)
    (start : Instant) {script : List (Instant × Action)}
    (hStays : ∀ e ∈ script, e.2.StaysAt key) :
    let s := ((Shell.new ⟨.initial start, store, key⟩).play script).2.fs.state
    s.Sound ∧ ∀ keys n, s.root.At keys n → ∀ cwd,
      (s.setCurrentPath cwd).node? (Path.join keys) = some n := by
  intro s
  -- With nothing under the key there is nothing to trust.
  have hTrusted : store.Trusted State.Sound key := by
    intro text s' hText _
    simp [hStore] at hText
  have hHolds : FileSystem.Holds State.Sound ⟨.initial start, store, key⟩ :=
    ⟨State.sound_initial start, State.distinctKeys_initial start, hTrusted⟩
  have hSound : s.Sound := (play_kept State.kept_sound hHolds hStays).state
  exact ⟨hSound, fun keys n hAt cwd => hSound.node?_join hAt cwd⟩

theorem Shell.sound_play_relative_names :
    let store : Store := { backend := .empty, writesFail := fun n => n % 3 == 1 }
    let script : List (Instant × Action) :=
      [(default, .submit "mkdir .."), (default, .setCurrentPath "/../."),
        (default, .createDirectory "/..//."), (default, .submit "echo a > b > c"),
        (default, .reopen "tree"), (default, .createFile "//blog//x/" "é")]
    let s := ((Shell.new ⟨.initial default, store, "tree"⟩).play script).2.fs.state
    s.Sound ∧ ∀ keys n, s.root.At keys n → ∀ cwd,
      (s.setCurrentPath cwd).node? (Path.join keys) = some n := by
  intro store script s
  have hStore : store.backend.get "tree" = .ok none := rfl
  have hStays : ∀ e ∈ script, e.2.StaysAt "tree" := by
    simp [script, Action.StaysAt]
  exact Shell.sound_play hStore default hStays

end TreeShell
