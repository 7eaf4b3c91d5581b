import Mathlib.Data.List.Chain
import TreeShell.Proofs.ReadBack
import TreeShell.Proofs.WriteFaults

/-!
# Reads that fail

A file system that cannot be read when it is opened starts from the initial state, whatever
its store holds, and nothing remembers that the read failed: what is done next is saved like
anything else.  So what the store held is safe as long as no write works, and the first write
that works puts another tree in its place, one that grew from the initial state alone.

Main statement: `Shell.play_afterFailedRead`.
-/

namespace TreeShell

open TreeShell.Time TreeShell.Tree

/-- The store when nothing fails any more. -/
def Store.recovered (store : Store) : Store :=
  { store with readsFail := false, writesFail := fun _ => false }

namespace FileSystem

theorem revive_of_readsFail {store : Store} (h : store.readsFail = true) (key : String)
    (now : Instant) : revive store key now = .initial now := by
  simp only [revive, Store.get, h, if_true]

/-- A state that was saved whole is revived as it is, but for an empty working directory. -/
theorem revive_of_get_save {store : Store} {key : String} {s : State} (hs : s.Savable)
    (h : store.backend.get key = .ok (some s.save)) (now : Instant) :
    revive store.recovered key now = s.rooted := by
  have hText : store.recovered.get key = .ok (some s.save) := h
  exact revive_of_holdsState ⟨s.save, hText, hs.load?_save⟩ now

/-- When all writes of some states failed, the store holds what it held. -/
theorem HoldsLast.get_key_of_fails {start last : FileSystem} {states : List State}
    (h : start.HoldsLast states last)
    (hFails : ∀ n, start.store.writes ≤ n → n < last.store.writes →
      start.store.writesFail n = true) :
    last.store.backend.get start.key = start.store.backend.get start.key := by
  have hNone : lastWritten start.store.writesFail start.store.writes states = none := by
    rw [lastWritten_eq_none_iff, ← h.writes_eq]
    exact hFails
  rw [h.get_key, hNone]

/-- When a write of some states worked, the store holds one of them. -/
theorem HoldsLast.get_key_of_not_fails {start last : FileSystem} {states : List State}
    (h : start.HoldsLast states last) {n : Nat} (hFirst : start.store.writes ≤ n)
    (hLast : n < last.store.writes) (hWorks : start.store.writesFail n = false) :
    ∃ s ∈ states, last.store.backend.get start.key = .ok (some s.save) := by
  cases hWritten : lastWritten start.store.writesFail start.store.writes states with
  | none =>
    have hFails : start.store.writesFail n = true :=
      lastWritten_eq_none_iff.1 hWritten n hFirst (h.writes_eq ▸ hLast)
    simp [hWorks] at hFails
  | some s =>
    refine ⟨s, mem_of_lastWritten hWritten, ?_⟩
    rw [h.get_key, hWritten]

end FileSystem

namespace Shell

/-- The states on a chain from one that can be saved can be saved. -/
theorem savable_of_isChain {script : List (Instant × Action)} {s : State} {states : List State}
    (hs : s.Savable) (hChain : (s :: states).IsChain (ScriptLeads script)) :
    ∀ s' ∈ states, s'.Savable := by
  have hAll := hChain.induction State.Savable _
    (fun _ _ ⟨_, _, hStep⟩ hBefore => hBefore.step hStep) fun _ => hs
  exact fun s' hMem => hAll s' (List.mem_cons_of_mem s hMem)

/-- **A failed read at opening costs the saved state**, unless every later write fails too.
When the store cannot be read as a file system is opened, a script goes through the same
states over every such store, each a step of one of its actions after the one before, from the
initial state on.  If none of its writes works, the store holds what it held, and revives it
once it is well again.  Otherwise it holds one of the states of the script in its place, and
revives that. -/
theorem play_afterFailedRead (key : String) (start : Instant) {script : List (Instant × Action)}
    (hInside : ∀ e ∈ script, e.2.isOutside = false) :
    ∃ states : List State, (State.initial start :: states).IsChain (ScriptLeads script) ∧
      ∀ store : Store, store.readsFail = true →
        let last := ((Shell.new (.openAt store key start)).play script).2.fs
        last.state = states.getLastD (.initial start) ∧
        ((∀ n, store.writes ≤ n → n < last.store.writes → store.writesFail n = true) →
          last.store.backend.get key = store.backend.get key ∧
          ∀ now, FileSystem.revive last.store.recovered key now
            = FileSystem.revive store.recovered key now) ∧
        (∀ n, store.writes ≤ n → n < last.store.writes → store.writesFail n = false →
          ∃ s ∈ states, last.store.backend.get key = .ok (some s.save) ∧
            ∀ now, FileSystem.revive last.store.recovered key now = s.rooted) := by
  obtain ⟨answers, session, states, hChain, hPlay⟩ :=
    exists_play_eq hInside (State.initial start) {}
  refine ⟨states, hChain, ?_⟩
  intro store hReads last
  have hState : (FileSystem.openAt store key start).state = .initial start :=
    FileSystem.revive_of_readsFail hReads key start
  have hLast : last = states.foldl FileSystem.commit (.openAt store key start) :=
    congrArg (·.2.fs) (hPlay (Shell.new (.openAt store key start)) rfl hState rfl)
  have hHolds : (FileSystem.openAt store key start).HoldsLast states last := by
    rw [hLast]
    exact FileSystem.holdsLast_foldl_commit _ states
  refine ⟨?_, ?_, ?_⟩
  · rw [hLast, FileSystem.state_foldl_commit, hState]
  · intro hFails
    have hKept : last.store.backend.get key = store.backend.get key :=
      hHolds.get_key_of_fails hFails
    exact ⟨hKept, FileSystem.revive_congr hKept⟩
  · intro n hFirst hTried hWorks
    obtain ⟨s, hMem, hSaved⟩ := hHolds.get_key_of_not_fails hFirst hTried hWorks
    have hSavable : s.Savable := savable_of_isChain (State.savable_initial start) hChain s hMem
    exact ⟨s, hMem, hSaved, FileSystem.revive_of_get_save hSavable hSaved⟩

/-- A store that holds a state and cannot be read; its writes with some numbers fail. -/
def unreadableStore (fails : Nat → Bool) : Store where
  backend := .memory ⟨[("tree", childlessText)]⟩
  readsFail := true
  writesFail := fails

/-- What a script leaves after such a store could not be read. -/
def leftUnread (fails : Nat → Bool) (script : List (Instant × Action)) : FileSystem :=
  ((Shell.new (.openAt (unreadableStore fails) "tree" default)).play script).2.fs

theorem savable_leftUnread (fails : Nat → Bool) (script : List (Instant × Action)) :
    (leftUnread fails script).state.Savable := by
  have hStart : (FileSystem.openAt (unreadableStore fails) "tree" default).state.Savable :=
    FileSystem.savable_revive (unreadableStore fails) "tree" default
  exact savable_play hStart script

/-- A script that saves three times. -/
def threeSaves : List (Instant × Action) :=
  [(default, .submit "mkdir a"), (default, .createFile "/a/b" "é"), (default, .submit "cd a")]

theorem play_afterFailedRead_threeSaves :
    let unwritten := leftUnread (fun _ => true) threeSaves
    let written := leftUnread (fun n => n != 1) threeSaves
    (∀ e ∈ threeSaves, e.2.isOutside = false) ∧
    unwritten.store.backend.get "tree" = .ok (some childlessText) ∧
    ∃ s : State, written.store.backend.get "tree" = .ok (some s.save) ∧
      ∀ now, FileSystem.revive written.store.recovered "tree" now = s.rooted := by
  intro unwritten written
  have hInside : ∀ e ∈ threeSaves, e.2.isOutside = false := by simp [threeSaves, Action.isOutside]
  obtain ⟨states, _, hStore⟩ := play_afterFailedRead "tree" default hInside
  refine ⟨hInside, ?_, ?_⟩
  · exact ((hStore (unreadableStore fun _ => true) rfl).2.1 fun _ _ _ => rfl).1
  · -- The second of the three writes is the one that works.
    have hTried : 1 < (leftUnread (fun n => n != 1) threeSaves).store.writes := by decide +kernel
    obtain ⟨s, _, hSaved, hRevive⟩ :=
      (hStore (unreadableStore fun n => n != 1) rfl).2.2 1 (Nat.zero_le 1) hTried rfl
    exact ⟨s, hSaved, hRevive⟩

/-- One directory that is made after a failed read, when the store is well again. -/
def mkdirRecovered : List (Instant × Action) :=
  [(default, .faults false fun _ => false), (default, .submit "mkdir a")]

/-- The directory takes the place of all that was saved. -/
theorem leftUnread_mkdirRecovered :
    let store := unreadableStore fun _ => false
    let last := leftUnread (fun _ => false) mkdirRecovered
    store.backend.get "tree" = .ok (some childlessText) ∧
      last.store.backend.get "tree" ≠ .ok (some childlessText) ∧
      (FileSystem.revive store.recovered "tree" default).root.name = "home" ∧
      (FileSystem.revive last.store.recovered "tree" default).root.name = "root" := by
  intro store last
  have hHeld : store.backend.get "tree" = .ok (some childlessText) := rfl
  have hBefore : (FileSystem.revive store.recovered "tree" default).root.name = "home" := by
    decide +kernel
  have hSaved : last.store.backend.get "tree" = .ok (some last.state.save) :=
    Store.Backend.get_set_self store.backend "tree" last.state.save
  have hAfter : (FileSystem.revive last.store.recovered "tree" default).root.name = "root" := by
    have hSavable : last.state.Savable := savable_leftUnread (fun _ => false) mkdirRecovered
    rw [FileSystem.revive_of_get_save hSavable hSaved, State.rooted_root]
    decide +kernel
  refine ⟨hHeld, fun hSame => ?_, hBefore, hAfter⟩
  -- The same text would give the same state back.
  have hText : last.store.recovered.get "tree" = store.recovered.get "tree" :=
    hSame.trans hHeld.symm
  rw [FileSystem.revive_congr hText, hBefore] at hAfter
  exact absurd hAfter (by decide)

end Shell

end TreeShell
