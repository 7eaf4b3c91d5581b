import Mathlib.Data.List.Chain
import TreeShell.Proofs.Run
import TreeShell.Proofs.Tree.Directories
import TreeShell.Proofs.Tree.Stamps

/-!
# Stamps along a run

As long as the clock does not go back, the stamps in the tree are in order up to the last
instant of the clock, whatever is done, and whichever reads and writes fail: each change
stamps all that is above it, and a tree that is read back has the stamps it was saved with.

A seeding happens at one instant.  One during which the clock moves on comes to several
seedings in a row, each of some of the posts (`FileSystem.seed_append`).

Main statement: `Shell.play_inOrder`.
-/

namespace TreeShell

open TreeShell.Content TreeShell.Time TreeShell.Tree

/-! ## Seeding bit by bit -/

namespace FileSystem

variable {now : Instant} {fs : FileSystem}

/-- Whether there is a directory to put posts into. -/
def CanSeed (fs : FileSystem) : Prop :=
  (fs.node? blogPath).any Node.isDirectory = true

theorem canSeed_iff : fs.CanSeed ↔ fs.state.root.DirectoryAt (fs.state.segments blogPath) :=
  State.any_isDirectory_node?_iff

theorem seed_of_canSeed (h : fs.CanSeed) (now : Instant) (posts : List Post) :
    fs.seed now posts = posts.foldl (addPost now) (0, fs) :=
  if_pos h

theorem seed_of_not_canSeed (h : ¬ fs.CanSeed) (now : Instant) (posts : List Post) :
    fs.seed now posts = (0, fs) :=
  if_neg h

theorem CanSeed.createFile {fs' : FileSystem} {path content : String} (h : fs.CanSeed)
    (hCreate : fs.createFile now path content = .ok fs') : fs'.CanSeed := by
  cases hState : fs.state.createFile now path content with
  | error f =>
    rw [FileSystem.createFile, hState] at hCreate
    contradiction
  | ok s =>
    rw [FileSystem.createFile, hState] at hCreate
    obtain rfl : fs.commit s = fs' := Except.ok.inj hCreate
    have hGrows : fs.state.Grows s := State.grows_insert hState
    rw [canSeed_iff] at h ⊢
    have hSegments : s.segments blogPath = fs.state.segments blogPath := by
      rw [State.segments, hGrows.currentPath_eq, State.segments]
    exact hSegments.symm ▸ hGrows.directoryAt _ h

/-- A post is counted on top of those before it. -/
theorem addPost_eq (now : Instant) (count : Nat) (fs : FileSystem) (post : Post) :
    addPost now (count, fs) post
      = (count + (addPost now (0, fs) post).1, (addPost now (0, fs) post).2) := by
  simp only [addPost]
  split
  · rfl
  · split
    · simp
    · rfl

theorem foldl_addPost_eq (now : Instant) (posts : List Post) (count : Nat) (fs : FileSystem) :
    posts.foldl (addPost now) (count, fs)
      = (count + (posts.foldl (addPost now) (0, fs)).1,
          (posts.foldl (addPost now) (0, fs)).2) := by
  induction posts generalizing count fs with
  | nil => rfl
  | cons post posts ih =>
    rw [List.foldl_cons, List.foldl_cons, addPost_eq now count, ih,
      ih (addPost now (0, fs) post).1, Nat.add_assoc]

theorem CanSeed.addPost (h : fs.CanSeed) (count : Nat) (post : Post) :
    (FileSystem.addPost now (count, fs) post).2.CanSeed := by
  simp only [FileSystem.addPost]
  split
  · exact h
  · split
    · rename_i hCreate
      exact h.createFile hCreate
    · exact h

theorem CanSeed.foldl_addPost (h : fs.CanSeed) (count : Nat) (posts : List Post) :
    (posts.foldl (FileSystem.addPost now) (count, fs)).2.CanSeed := by
  induction posts generalizing count fs with
  | nil => exact h
  | cons post posts ih => exact ih (h.addPost count post) _

/-- **Seeding bit by bit**: some posts and then the rest of them, at one instant, come to the
same as all at once. -/
theorem seed_append (fs : FileSystem) (now : Instant) (posts rest : List Post) :
    fs.seed now (posts ++ rest)
      = ((fs.seed now posts).1 + ((fs.seed now posts).2.seed now rest).1,
          ((fs.seed now posts).2.seed now rest).2) := by
  by_cases h : fs.CanSeed
  · have hMid : (posts.foldl (addPost now) (0, fs)).2.CanSeed := h.foldl_addPost 0 posts
    rw [seed_of_canSeed h, seed_of_canSeed h, seed_of_canSeed hMid, List.foldl_append]
    exact foldl_addPost_eq now rest _ _
  · simp only [seed_of_not_canSeed h]

end FileSystem

/-! ## States in time -/

namespace Tree.State

/-- Whether the stamps all over the tree of a state are in order up to an instant. -/
def Timely (clock : Instant) (s : State) : Prop :=
  s.root.Timely clock

theorem keptAt_timely (now : Instant) : KeptAt (Timely now) now where
  initial := timely_initial now
  step := fun h _ hStep => Step.timely h hStep

end Tree.State

namespace Shell

/-- **Scripts in time**: what every action keeps as the clock goes on to its instant, a
script keeps up to its last instant. -/
theorem play_invariant_in_time {J : Instant → Shell → Prop} {script : List (Instant × Action)}
    (hAct : ∀ clock now a, clock ≤ now → (now, a) ∈ script →
      ∀ sh, J clock sh → J now (sh.act now a).2)
    {start : Instant} (hClock : (start :: script.map Prod.fst).IsChain (· ≤ ·)) {sh : Shell}
    (h : J start sh) : J ((script.map Prod.fst).getLastD start) (sh.play script).2 := by
  induction script generalizing start sh with
  | nil => exact h
  | cons entry rest ih =>
    obtain ⟨now, a⟩ := entry
    obtain ⟨hLater, hRest⟩ := List.isChain_cons_cons.1 hClock
    have hHead : J now (sh.act now a).2 := hAct start now a hLater List.mem_cons_self sh h
    rw [List.map_cons, List.getLastD_cons]
    exact ih (fun clock now a hLater hMem =>
      hAct clock now a hLater (List.mem_cons_of_mem _ hMem)) hRest hHead

/-- **Stamps along a run.**  From the initial state, over a store with nothing under the key,
a script under this key during which the clock does not go back leaves a tree with its stamps
in order: no node was changed before it was made or after the last instant of the clock, and
no child was made before its parent or changed after it.  So no directory was changed longer
ago than anything below it was made or changed.  As every beginning of a script is a script,
this holds after each of its actions. -/
theorem play_inOrder {store : Store} {key : String} (hStore : store.backend.get key = .ok none)
    {start : Instant} {script : List (Instant × Action)}
    (hClock : (start :: script.map Prod.fst).IsChain (· ≤ ·))
    (hStays : ∀ e ∈ script, e.2.StaysAt key) :
    let clock := (script.map Prod.fst).getLastD start
    let root := ((Shell.new ⟨.initial start, store, key⟩).play script).2.fs.state.root
    ∀ keys n, root.At keys n → n.InOrder clock ∧
      ∀ below d, n.At below d → n.created ≤ d.created ∧ d.modified ≤ n.modified := by
  intro clock root
  -- With nothing under the key, no state in the store has its stamps out of order.
  have hTrusted : store.Trusted (State.Timely start) key := by
    intro text s' hText _
    simp [hStore] at hText
  have hHolds : FileSystem.Holds (State.Timely start) ⟨.initial start, store, key⟩ :=
    ⟨State.timely_initial start, State.distinctKeys_initial start, hTrusted⟩
  let J : Instant → Shell → Prop := fun clock sh =>
    sh.registry = .standard ∧ sh.fs.key = key ∧ sh.fs.Holds (State.Timely clock)
  have hRun : J clock ((Shell.new ⟨.initial start, store, key⟩).play script).2 := by
    refine play_invariant_in_time (fun clock now a hLater hMem sh hJ => ?_) hClock
      ⟨rfl, rfl, hHolds⟩
    obtain ⟨hRegistry, hKey, hBefore⟩ := hJ
    -- What was in order up to the clock is so up to the present, at which the action happens.
    have hNow : sh.fs.Holds (State.Timely now) :=
      hBefore.mono fun s hs => Node.Timely.mono hs hLater
    exact ⟨(registry_act now a).trans hRegistry,
      holds_act (State.keptAt_timely now) hRegistry hKey hNow (hStays _ hMem)⟩
  have hTimely : root.Timely clock := hRun.2.2.state
  intro keys n hAt
  have hHere : n.Timely clock := Node.Timely.of_at hTimely hAt
  exact ⟨hHere.inOrder, fun below d hBelow => hHere.created_le_and_modified_le hBelow⟩

/-- An instant some seconds after the default one. -/
def secondsOn (seconds : Nat) (h : seconds < 60 := by decide) : Instant where
  date := (default : Instant).date
  hour := 0
  minute := 0
  second := seconds
  nano := 0
  isClock := by omega

/-- A script through failures, a reset and reopenings, during which the clock stands still
at first and moves on later. -/
def onwards : List (Instant × Action) :=
  [(default, .submit "mkdir a"), (default, .faults true fun n => n % 2 == 1),
    (secondsOn 1, .createFile "/a/b" "é"), (secondsOn 1, .reopen "tree"),
    (secondsOn 1, .seed [⟨"c.md", "1"⟩]), (secondsOn 1, .delete "/blog/c.md"),
    (secondsOn 2, .faults false fun _ => false),
    (secondsOn 2, .reopen "tree"), (secondsOn 2, .reset), (secondsOn 2, .submit "echo x > blog/d")]

theorem play_inOrder_onwards :
    let store : Store := { backend := .database ⟨[]⟩ }
    let root := ((Shell.new ⟨.initial default, store, "tree"⟩).play onwards).2.fs.state.root
    (store.backend.get "tree" = .ok none ∧
      (default :: onwards.map Prod.fst).IsChain (· ≤ ·) ∧
      ∀ e ∈ onwards, e.2.StaysAt "tree") ∧
    ∀ keys n, root.At keys n → n.InOrder (secondsOn 2) ∧
      ∀ below d, n.At below d → n.created ≤ d.created ∧ d.modified ≤ n.modified := by
  intro store root
  have hStore : store.backend.get "tree" = .ok none := rfl
  have hClock : (default :: onwards.map Prod.fst).IsChain (· ≤ ·) := by decide
  have hStays : ∀ e ∈ onwards, e.2.StaysAt "tree" := by simp [onwards, Action.StaysAt]
  exact ⟨⟨hStore, hClock, hStays⟩, play_inOrder hStore hClock hStays⟩

end Shell

end TreeShell
