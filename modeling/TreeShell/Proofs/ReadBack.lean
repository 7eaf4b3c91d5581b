import Mathlib.Tactic.Common
import TreeShell.Proofs.Run

/-!
# Every state reads back

The text that a file system writes is read back as the state it was written in, whatever
was done before.  What makes this so is an invariant of runs, `State.Savable`: the state
is that of a tree of maps, and no node of it lies deeper than a reader can follow.  New
nodes do not lie deeper than `maxDepth`, and a text that is read gives no tree deeper than
`maxSavedDepth`; between the two, what is there is only taken away or changed in place.

Main statements: `Shell.savable_play`, `Shell.load?_save_play`.
-/

namespace TreeShell

open TreeShell.Time TreeShell.Tree

/-! ## States that can be saved -/

namespace Tree.State

/-- Whether the state is that of a tree of maps which is not too deep for a reader. -/
structure Savable (s : State) : Prop where
  keys : s.root.DistinctKeys
  depth : s.root.Within maxSavedDepth

/-- The states that a file system can begin in: an initial one, or what a text holds. -/
inductive IsStart : State → Prop where
  | initial (now : Instant) : IsStart (.initial now)
  | loaded {text : String} {s : State} (hLoad : State.load? text = some s) : IsStart s

variable {s s' : State}

theorem savable_initial (now : Instant) : (initial now).Savable := by
  have hLimit : maxDepth ≤ maxSavedDepth := by decide
  exact ⟨distinctKeys_initial now, (Node.stable_depth hLimit).initial now⟩

theorem savable_of_load? {text : String} (h : State.load? text = some s) : s.Savable :=
  ⟨distinctKeys_of_load? h, within_of_load? h⟩

theorem IsStart.savable (h : s.IsStart) : s.Savable := by
  cases h with
  | initial now => exact savable_initial now
  | loaded hLoad => exact savable_of_load? hLoad

theorem Savable.step {goes : String → Prop} {now : Instant} (h : s.Savable)
    (hStep : s.Step goes now s') : s'.Savable := by
  have hLimit : maxDepth ≤ maxSavedDepth := by decide
  refine ⟨hStep.distinctKeys h.keys, ?_⟩
  exact Node.Everywhere.step (Node.stable_depth hLimit) h.keys h.depth hStep

theorem Savable.load?_save (h : s.Savable) : State.load? s.save = some s :=
  State.load?_save h.keys h.depth

/-- The whole text nests no deeper than a reader follows. -/
theorem Savable.fits_toJson (h : s.Savable) : s.toJson.fits maxNesting = true := by
  -- One object for the state itself, and the rest for its root.
  have hRoot : s.root.toJson.fits (2 * maxSavedDepth + 2) = true :=
    Node.fits_toJson s.root maxSavedDepth h.depth
  have hLimit : maxNesting - 1 = 2 * maxSavedDepth + 2 := by decide
  have hPos : 0 < maxNesting := by decide
  have hPath : (textJson s.currentPath).fits (maxNesting - 1) = true := rfl
  simp [toJson, member, Json.fits, Json.membersFit, hPos, hPath, hLimit ▸ hRoot]

end Tree.State

/-! ## Runs -/

/-- Every text that a store holds, from whichever hand, is revived in a state that can be
saved. -/
theorem FileSystem.savable_revive (store : Store) (key : String) (now : Instant) :
    (revive store key now).Savable := by
  by_cases hHolds : ∃ s, store.HoldsState key s
  · obtain ⟨s, hState⟩ := hHolds
    rw [revive_of_holdsState hState]
    obtain ⟨text, _, hLoad⟩ := hState
    have hs : s.Savable := State.savable_of_load? hLoad
    exact ⟨by rw [State.rooted_root]; exact hs.keys, by rw [State.rooted_root]; exact hs.depth⟩
  · rw [revive_of_not_holdsState (not_exists.1 hHolds)]
    exact State.savable_initial now

namespace Shell

variable {sh : Shell}

theorem savable_act (hRegistry : sh.registry = .standard) (h : sh.fs.state.Savable)
    (now : Instant) (a : Action) : (sh.act now a).2.fs.state.Savable := by
  cases hOutside : a.isOutside with
  | false =>
    have hSaves : sh.fs.Saves a.Goes now (sh.act now a).2.fs := saves_act hRegistry hOutside
    apply hSaves.invariant _ h
    intro s s' hs hStep
    exact hs.step hStep
  | true =>
    -- Opening anew may give any state that the store holds; faults and texts from outside
    -- leave the state as it is.
    cases a with
    | reopen key => exact FileSystem.savable_revive sh.fs.store key now
    | faults reads writes => exact h
    | put key text => exact h
    | _ => simp [Action.isOutside] at hOutside

theorem savable_play {fs : FileSystem} (h : fs.state.Savable)
    (script : List (Instant × Action)) :
    ((Shell.new fs).play script).2.fs.state.Savable := by
  let J : Shell → Prop := fun sh => sh.registry = .standard ∧ sh.fs.state.Savable
  have hRun : J ((Shell.new fs).play script).2 := by
    refine play_invariant (fun now a _ sh hJ => ?_) ⟨rfl, h⟩
    obtain ⟨hRegistry, hSavable⟩ := hJ
    exact ⟨(registry_act now a).trans hRegistry, savable_act hRegistry hSavable now a⟩
  exact hRun.2

/-- **Reading back**: after any script, from an initial state or from one that a text
holds, the text that is written nests no deeper than a reader follows and is read as
exactly the state that wrote it. -/
theorem load?_save_play {start : State} (hStart : start.IsStart) (store : Store) (key : String)
    (script : List (Instant × Action)) :
    let s := ((Shell.new ⟨start, store, key⟩).play script).2.fs.state
    s.toJson.fits maxNesting = true ∧ State.load? s.save = some s := by
  intro s
  have hSavable : s.Savable := savable_play hStart.savable script
  exact ⟨hSavable.fits_toJson, hSavable.load?_save⟩

/-- A state whose root says nothing of its children. -/
def childlessText : String :=
  "\x7b\"root\":\x7b\"name\":\"home\",\"type\":\"directory\","
    ++ "\"createdAt\":\"2024-02-29T12:00:00.5Z\",\"modifiedAt\":\"2024-02-29T12:00:00.5Z\"\x7d\x7d"

theorem isSome_load?_childlessText : (State.load? childlessText).isSome = true := by
  decide +kernel

theorem load?_save_play_childlessText :
    ∃ start, State.load? childlessText = some start ∧ start.IsStart ∧
      let fs : FileSystem := ⟨start, { backend := .empty }, "tree"⟩
      let last := ((Shell.new fs).play [(default, .submit "mkdir é"), (default, .delete "é")]).2
      let s := last.fs.state
      s.toJson.fits maxNesting = true ∧ State.load? s.save = some s := by
  obtain ⟨start, hLoad⟩ := Option.isSome_iff_exists.1 isSome_load?_childlessText
  exact ⟨start, hLoad, .loaded hLoad, load?_save_play (.loaded hLoad) _ _ _⟩

end Shell

end TreeShell
