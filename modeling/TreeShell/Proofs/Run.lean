import Mathlib.Tactic.Common
import TreeShell.Proofs.Effect
import TreeShell.Proofs.Store.Backend
import TreeShell.Proofs.Tree.Document

/-!
# Runs of scripts

A property of states that steps keep holds after a script when it also holds of every
state that is read back from the store on the way.  The store gives such states only
(`Store.Trusted`): what the shell writes is the state it is in, and what is read back
from that text is this state again.

Main statements: `Shell.play_invariant`, `Shell.play_kept`.
-/

namespace TreeShell

open TreeShell.Time TreeShell.Tree

/-! ## Scripts -/

/-- **Scripts**: what every action of a script keeps, the script keeps. -/
theorem Shell.play_invariant {J : Shell → Prop} {script : List (Instant × Action)}
    (hAct : ∀ now a, (now, a) ∈ script → ∀ sh, J sh → J (sh.act now a).2) {sh : Shell}
    (h : J sh) : J (sh.play script).2 := by
  induction script generalizing sh with
  | nil => exact h
  | cons entry rest ih =>
    obtain ⟨now, a⟩ := entry
    have hHead : J (sh.act now a).2 := hAct now a List.mem_cons_self sh h
    exact ih (fun now a hMem => hAct now a (List.mem_cons_of_mem _ hMem)) hHead

/-- Whether an action leaves the texts in the store to the shell and opens the file system
anew under one key only. -/
def Action.StaysAt (key : String) : Action → Prop
  | .reopen k => k = key
  | .put _ _ => False
  | _ => True

/-! ## Revived states -/

/-- Whether the text under a key holds a state. -/
def Store.HoldsState (store : Store) (key : String) (s : State) : Prop :=
  ∃ text, store.get key = .ok (some text) ∧ State.load? text = some s

/-- The state with the root in place of an empty working directory. -/
def Tree.State.rooted (s : State) : State :=
  if s.currentPath = "" then s.setCurrentPath "/" else s

theorem Tree.State.rooted_eq (s : State) : s.rooted = s.setCurrentPath "/" ∨ s.rooted = s := by
  unfold rooted
  split
  · exact .inl rfl
  · exact .inr rfl

@[simp] theorem Tree.State.rooted_root (s : State) : s.rooted.root = s.root := by
  rcases s.rooted_eq with hGo | hSame
  · rw [hGo, setCurrentPath]
  · rw [hSame]

theorem Tree.State.rooted_currentPath_ne_empty (s : State) : s.rooted.currentPath ≠ "" := by
  unfold rooted
  split
  · have hRoot : "/" ≠ "" := by decide
    exact hRoot
  · assumption

namespace FileSystem

variable {store : Store} {key : String}

theorem revive_of_holdsState {s : State} (h : store.HoldsState key s) (now : Instant) :
    revive store key now = s.rooted := by
  obtain ⟨text, hText, hLoad⟩ := h
  simp only [revive, hText, hLoad]
  rfl

/-- What is revived from a store is told by what reading it answers. -/
theorem revive_congr {store' : Store} (h : store.get key = store'.get key)
    (now : Instant) : revive store key now = revive store' key now := by
  simp only [revive, h]

theorem revive_of_not_holdsState (h : ∀ s, ¬ store.HoldsState key s) (now : Instant) :
    revive store key now = .initial now := by
  unfold revive
  split
  · rename_i text hText
    split
    · rename_i s hLoad
      exact absurd ⟨text, hText, hLoad⟩ (h s)
    · rfl
  · rfl
  · rfl

end FileSystem

/-! ## Properties that a run keeps -/

/-- A property of states of trees of maps that the initial state has and every step
keeps. -/
structure Tree.State.Kept (I : State → Prop) : Prop where
  initial : ∀ now, I (.initial now)
  step : ∀ {goes now s s'}, I s → s.root.DistinctKeys → s.Step goes now s' → I s'

/-- A property of states of trees of maps that the initial state of an instant has and every
step at this instant keeps. -/
structure Tree.State.KeptAt (I : State → Prop) (now : Instant) : Prop where
  initial : I (.initial now)
  step : ∀ {goes s s'}, I s → s.root.DistinctKeys → s.Step goes now s' → I s'

theorem Tree.State.Kept.keptAt {I : State → Prop} (h : Kept I) (now : Instant) :
    KeptAt I now :=
  ⟨h.initial now, h.step⟩

/-- Whether every state that is read from the text under a key has a property. -/
def Store.Trusted (I : State → Prop) (store : Store) (key : String) : Prop :=
  ∀ text s, store.backend.get key = .ok (some text) → State.load? text = some s → I s

theorem Tree.State.distinctKeys_initial (now : Instant) : (initial now).root.DistinctKeys :=
  Node.stable_nodup_keys.initial now

theorem Tree.State.Step.distinctKeys {goes : String → Prop} {now : Instant} {s s' : State}
    (hKeys : s.root.DistinctKeys) (h : s.Step goes now s') : s'.root.DistinctKeys :=
  Node.Everywhere.step Node.stable_nodup_keys hKeys hKeys h

namespace FileSystem

/-- Whether a file system is in a state with a property, and its store holds no state
without it. -/
structure Holds (I : State → Prop) (fs : FileSystem) : Prop where
  state : I fs.state
  keys : fs.state.root.DistinctKeys
  trusted : fs.store.Trusted I fs.key

variable {I : State → Prop} {fs : FileSystem}

theorem Holds.mono {I' : State → Prop} (h : fs.Holds I) (hI : ∀ s, I s → I' s) : fs.Holds I' :=
  ⟨hI _ h.state, h.keys, fun text s hText hLoad => hI s (h.trusted text s hText hLoad)⟩

theorem Holds.commit (h : fs.Holds I) {s : State} (hs : I s) (hKeys : s.root.DistinctKeys) :
    (fs.commit s).Holds I := by
  refine ⟨hs, hKeys, fun text s' hText hLoad => ?_⟩
  -- A write that fails leaves the trusted text; one that works puts the text of `s`, from
  -- which nothing but `s` is read, though a tree that is too deep may not be read at all.
  have hStore : (fs.commit s).store = fs.store.set fs.key s.save := rfl
  have hKey : (fs.commit s).key = fs.key := rfl
  rw [hStore, hKey] at hText
  rcases Store.backend_set fs.store fs.key s.save with hOld | hNew
  · rw [hOld] at hText
    exact h.trusted text s' hText hLoad
  · rw [hNew, Store.Backend.get_set_self] at hText
    obtain rfl : s.save = text := by simpa using hText
    obtain rfl : s' = s := State.eq_of_load?_save hKeys hLoad
    exact hs

theorem Holds.saves {now : Instant} (hI : State.KeptAt I now) {goes : State → String → Prop}
    {last : FileSystem} (h : fs.Holds I) (hSaves : fs.Saves goes now last) : last.Holds I := by
  induction hSaves with
  | still => exact h
  | commit _ hStep ih =>
    exact ih.commit (hI.step ih.state ih.keys hStep) (hStep.distinctKeys ih.keys)

theorem revive_kept {now : Instant} (hI : State.KeptAt I now) {store : Store} {key : String}
    (h : store.Trusted I key) :
    I (revive store key now) ∧ (revive store key now).root.DistinctKeys := by
  by_cases hHolds : ∃ s, store.HoldsState key s
  · obtain ⟨s, hState⟩ := hHolds
    rw [revive_of_holdsState hState]
    obtain ⟨text, hText, hLoad⟩ := hState
    have hs : I s := h text s (Store.get_eq_ok hText) hLoad
    have hKeys : s.root.DistinctKeys := State.distinctKeys_of_load? hLoad
    refine ⟨?_, by rwa [State.rooted_root]⟩
    -- The root in place of an empty working directory is no more than a step.
    rcases s.rooted_eq with hGo | hSame
    · rw [hGo]
      have hStep : s.Step (fun _ => True) now (s.setCurrentPath "/") := .go trivial
      exact hI.step hs hKeys hStep
    · rwa [hSame]
  · rw [revive_of_not_holdsState (not_exists.1 hHolds)]
    exact ⟨hI.initial, State.distinctKeys_initial now⟩

end FileSystem

namespace Shell

variable {I : State → Prop} {sh : Shell} {key : String}

theorem holds_act {now : Instant} (hI : State.KeptAt I now) (hRegistry : sh.registry = .standard)
    (hKey : sh.fs.key = key) (h : sh.fs.Holds I) {a : Action} (hStays : a.StaysAt key) :
    (sh.act now a).2.fs.key = key ∧ (sh.act now a).2.fs.Holds I := by
  cases hOutside : a.isOutside with
  | false =>
    have hSaves : sh.fs.Saves a.Goes now (sh.act now a).2.fs := saves_act hRegistry hOutside
    exact ⟨hSaves.key_eq.trans hKey, h.saves hI hSaves⟩
  | true =>
    cases a with
    | reopen k =>
      obtain rfl : k = key := hStays
      have hTrusted : sh.fs.store.Trusted I k := hKey ▸ h.trusted
      obtain ⟨hState, hKeys⟩ := FileSystem.revive_kept hI hTrusted
      exact ⟨rfl, hState, hKeys, hTrusted⟩
    | faults reads writes => exact ⟨hKey, h.state, h.keys, h.trusted⟩
    | put k text => exact hStays.elim
    | _ => simp [Action.isOutside] at hOutside

/-- **Runs**: a script under one key keeps what steps keep, whichever reads and writes
fail. -/
theorem play_kept (hI : State.Kept I) {fs : FileSystem} (h : fs.Holds I)
    {script : List (Instant × Action)} (hStays : ∀ e ∈ script, e.2.StaysAt fs.key) :
    ((Shell.new fs).play script).2.fs.Holds I := by
  -- Along the script, the commands and the key stay what they are.
  let J : Shell → Prop := fun sh =>
    sh.registry = .standard ∧ sh.fs.key = fs.key ∧ sh.fs.Holds I
  have hRun : J ((Shell.new fs).play script).2 := by
    refine play_invariant (fun now a hMem sh hJ => ?_) ⟨rfl, rfl, h⟩
    obtain ⟨hRegistry, hKey, hHolds⟩ := hJ
    exact ⟨(registry_act now a).trans hRegistry,
      holds_act (hI.keptAt now) hRegistry hKey hHolds (hStays _ hMem)⟩
  exact hRun.2.2

end Shell

end TreeShell
