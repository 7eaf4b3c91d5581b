import Mathlib.Tactic.Common
import TreeShell.Proofs.Command.Alike

/-!
# Shells alike up to instants

Two shells are alike when they show the same and their states differ in instants only.
An action on alike shells answers the same, but for the instants of the nodes it lists,
and leaves alike shells.  What lies below the states does not matter to it.

Main statement: `Shell.Alike.act`.
-/

namespace TreeShell

open TreeShell.Command TreeShell.Time TreeShell.Tree

/-- The answer with one instant everywhere. -/
def Answer.timeless : Answer → Answer
  | .listing nodes => .listing (nodes.map Node.timeless)
  | answer => answer

/-- Whether two shells of the standard commands differ only in instants and in what lies
below their states. -/
structure Shell.Alike (sh sh' : Shell) : Prop where
  registry : sh.registry = .standard
  registry' : sh'.registry = .standard
  session : sh.session = sh'.session
  state : sh.fs.state.Alike sh'.fs.state

/-! ## Seeding -/

namespace FileSystem

variable {fs fs' : FileSystem} {now now' : Instant}

theorem alike_addPost (h : fs.state.Alike fs'.state) (count : Nat) (post : Content.Post) :
    (addPost now (count, fs) post).1 = (addPost now' (count, fs') post).1 ∧
      (addPost now (count, fs) post).2.state.Alike (addPost now' (count, fs') post).2.state := by
  have hTaken := h.isSome_node? (postPath post)
  have hCreate := h.createFile now now' (postPath post) post.content
  by_cases hSome : (fs'.state.node? (postPath post)).isSome = true
  · simp only [addPost, node?, hTaken, hSome, if_true]
    exact ⟨trivial, h⟩
  · simp only [addPost, node?, createFile, hTaken, hSome]
    rcases cases_of_map_eq hCreate with ⟨f, hHere, hThere⟩ | ⟨s, s', hHere, hThere, hState⟩
    · rw [hHere, hThere]
      exact ⟨rfl, h⟩
    · rw [hHere, hThere]
      exact ⟨rfl, hState⟩

theorem alike_seed (h : fs.state.Alike fs'.state) (now now' : Instant)
    (posts : List Content.Post) :
    (fs.seed now posts).1 = (fs'.seed now' posts).1 ∧
      (fs.seed now posts).2.state.Alike (fs'.seed now' posts).2.state := by
  -- Post by post; what was counted so far is the same on both sides.
  have hFold : ∀ (fs fs' : FileSystem) (count : Nat), fs.state.Alike fs'.state →
      (posts.foldl (addPost now) (count, fs)).1 = (posts.foldl (addPost now') (count, fs')).1 ∧
        (posts.foldl (addPost now) (count, fs)).2.state.Alike
          (posts.foldl (addPost now') (count, fs')).2.state := by
    induction posts with
    | nil => exact fun _ _ _ hState => ⟨rfl, hState⟩
    | cons post posts ih =>
      intro fs fs' count hState
      have hPost := @alike_addPost fs fs' now now' hState count post
      rw [List.foldl_cons, List.foldl_cons]
      revert hPost
      rcases addPost now (count, fs) post with ⟨next, after⟩
      rcases addPost now' (count, fs') post with ⟨next', after'⟩
      rintro ⟨hCount, hAfter⟩
      obtain rfl : next = next' := hCount
      exact ih after after' next hAfter
  have hBlog : (fs.node? blogPath).any Node.isDirectory
      = (fs'.node? blogPath).any Node.isDirectory := by
    have hKind := congrArg (Option.any id) (h.map_isDirectory_node? blogPath)
    rw [Option.any_map, Option.any_map] at hKind
    exact hKind
  simp only [seed, hBlog]
  split
  · exact hFold fs fs' 0 h
  · exact ⟨rfl, h⟩

end FileSystem

/-! ## Actions -/

namespace Shell

variable {sh sh' : Shell} {now : Instant}

theorem Alike.perform (h : sh.Alike sh') {c : Command} (hc : c ∈ Registry.standard.commands)
    (args : List String) :
    (sh.perform now c args).1 = (sh'.perform now c args).1 ∧
      (sh.perform now c args).2.Alike (sh'.perform now c args).2 := by
  have hRun := Command.alike_run hc h.state now now args
  refine ⟨hRun.result, h.registry, h.registry', ?_, hRun.state⟩
  simp only [Shell.perform, hRun.signals, h.session]

theorem Alike.handle (h : sh.Alike sh') (now : Instant) (line : String) :
    (sh.handle now line).1 = (sh'.handle now line).1 ∧
      (sh.handle now line).2.Alike (sh'.handle now line).2 := by
  simp only [Shell.handle, h.registry, h.registry']
  split
  · exact ⟨rfl, h⟩
  · split
    · exact ⟨rfl, h⟩
    · rename_i c hFind
      exact h.perform (Registry.mem_of_find? hFind) _

theorem Alike.submit (h : sh.Alike sh') (now : Instant) (line : String) :
    (sh.submit now line).1 = (sh'.submit now line).1 ∧
      (sh.submit now line).2.Alike (sh'.submit now line).2 := by
  unfold Shell.submit
  split
  · exact ⟨rfl, h⟩
  · obtain ⟨hResult, hAfter⟩ := h.handle now line
    refine ⟨congrArg some hResult, hAfter.registry, hAfter.registry', ?_, hAfter.state⟩
    simp only [hResult, hAfter.session]

theorem Alike.change (h : sh.Alike sh') {change change' : Except Failure State}
    (hChange : State.timeless <$> change = State.timeless <$> change') :
    (sh.change (sh.fs.commit <$> change)).1 = (sh'.change (sh'.fs.commit <$> change')).1 ∧
      (sh.change (sh.fs.commit <$> change)).2.Alike
        (sh'.change (sh'.fs.commit <$> change')).2 := by
  rcases cases_of_map_eq hChange with ⟨f, rfl, rfl⟩ | ⟨s, s', rfl, rfl, hState⟩
  · exact ⟨rfl, h⟩
  · exact ⟨rfl, h.registry, h.registry', h.session, hState⟩

/-- **Actions** inside alike shells answer the same but for instants, and leave alike
shells. -/
theorem Alike.act (h : sh.Alike sh') {a : Action} (hInside : a.isOutside = false)
    (now : Instant) :
    (sh.act now a).1.timeless = (sh'.act now a).1.timeless ∧
      (sh.act now a).2.Alike (sh'.act now a).2 := by
  have hWithFs : ∀ {fs fs' : FileSystem}, fs.state.Alike fs'.state →
      (sh.withFs fs).Alike (sh'.withFs fs') := fun hState =>
    ⟨h.registry, h.registry', h.session, hState⟩
  have hChange : ∀ {change change' : Except Failure State},
      State.timeless <$> change = State.timeless <$> change' →
      (sh.change (sh.fs.commit <$> change)).1.timeless
          = (sh'.change (sh'.fs.commit <$> change')).1.timeless ∧
        (sh.change (sh.fs.commit <$> change)).2.Alike
          (sh'.change (sh'.fs.commit <$> change')).2 := by
    intro change change' hSame
    obtain ⟨hAnswer, hAfter⟩ := h.change hSame
    exact ⟨congrArg Answer.timeless hAnswer, hAfter⟩
  cases a with
  | handle line =>
    obtain ⟨hResult, hAfter⟩ := h.handle now line
    exact ⟨congrArg (fun r => (Answer.result r).timeless) hResult, hAfter⟩
  | submit line =>
    obtain ⟨hResult, hAfter⟩ := h.submit now line
    refine ⟨?_, by rwa [act_submit_snd, act_submit_snd]⟩
    -- A blank line answers nothing on both sides.
    simp only [Shell.act]
    rcases hHere : sh.submit now line with ⟨_ | r, after⟩ <;>
      rcases hThere : sh'.submit now line with ⟨_ | r', after'⟩ <;>
      simp [hHere, hThere] at hResult ⊢
    rw [hResult]
  | setCurrentPath path => exact ⟨rfl, hWithFs (h.state.setCurrentPath path)⟩
  | createFile path content => exact hChange (h.state.createFile now now path content)
  | createDirectory path => exact hChange (h.state.createDirectory now now path)
  | delete path => exact hChange (h.state.delete now now path)
  | write path content => exact hChange (h.state.write now now path content)
  | read path =>
    have hRead : sh.fs.read path = sh'.fs.read path := h.state.read_eq path
    simp only [Shell.act, hRead, ask_snd]
    refine ⟨?_, h⟩
    cases sh'.fs.read path <;> rfl
  | list path =>
    simp only [Shell.act, ask_snd, FileSystem.list]
    refine ⟨?_, h⟩
    rcases cases_of_map_eq (h.state.list path) with
      ⟨f, hHere, hThere⟩ | ⟨nodes, nodes', hHere, hThere, hNodes⟩
    · rw [hHere, hThere]
      rfl
    · rw [hHere, hThere]
      exact congrArg Answer.listing hNodes
  | seed posts =>
    obtain ⟨hCount, hState⟩ := FileSystem.alike_seed h.state now now posts
    exact ⟨congrArg Answer.count hCount, hWithFs hState⟩
  | reset => exact ⟨rfl, hWithFs (State.alike_initial now now)⟩
  | reopen key => simp [Action.isOutside] at hInside
  | faults reads writes => simp [Action.isOutside] at hInside
  | put key text => simp [Action.isOutside] at hInside

end Shell

end TreeShell
