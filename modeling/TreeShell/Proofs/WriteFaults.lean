import Mathlib.Data.List.Basic
import Mathlib.Data.List.Induction
import Mathlib.Tactic.Common
import TreeShell.Proofs.Effect
import TreeShell.Proofs.Store.Backend

/-!
# Writes that fail

What is done through the shell goes on in memory whether or not it can be saved.  A script
answers the same, and leaves the same state and session, whichever of its writes fail; and
the states that it tries to save are the same too.  The store then holds the last of them
whose write did not fail, whole, and nothing else in it has changed.  So the first write that
works after any number of failures makes the store current again.

## Layers

- `lastWritten`: the last of some states whose write works;
- `HoldsLast.commit`: the store after one more write, and `holdsLast_foldl_commit` after any
  number of them;
- `Shell.exists_play_eq`: a script saves the same states over every store, each one step
  after the one before;
- `Shell.play_holdsLast`: the two together.
-/

namespace TreeShell

open TreeShell.Command TreeShell.Time TreeShell.Tree

namespace FileSystem

/-! ## The last write that works -/

/-- The last of some states whose write does not fail, when their writes have the numbers
from `first` on. -/
def lastWritten (fails : Nat → Bool) (first : Nat) (states : List State) : Option State :=
  ((states.zipIdx first).filter fun e => !fails e.2).getLast?.map Prod.fst

theorem lastWritten_concat_of_fails {fails : Nat → Bool} {first : Nat} {states : List State}
    (h : fails (first + states.length) = true) (s : State) :
    lastWritten fails first (states ++ [s]) = lastWritten fails first states := by
  simp [lastWritten, List.zipIdx_append, List.filter_append, h]

theorem lastWritten_concat {fails : Nat → Bool} {first : Nat} {states : List State}
    (h : fails (first + states.length) = false) (s : State) :
    lastWritten fails first (states ++ [s]) = some s := by
  simp [lastWritten, List.zipIdx_append, List.filter_append, h]

theorem lastWritten_eq_none_iff {fails : Nat → Bool} {first : Nat} {states : List State} :
    lastWritten fails first states = none ↔
      ∀ n, first ≤ n → n < first + states.length → fails n = true := by
  simp only [lastWritten, Option.map_eq_none_iff, List.getLast?_eq_none_iff,
    List.filter_eq_nil_iff, Prod.forall, List.mem_zipIdx_iff_le_and_getElem?_sub]
  constructor
  · intro h n hFirst hLast
    have hIndex : n - first < states.length := by omega
    simpa using h states[n - first] n ⟨hFirst, List.getElem?_eq_getElem hIndex⟩
  · rintro h s n ⟨hFirst, hState⟩
    obtain ⟨hIndex, -⟩ := List.getElem?_eq_some_iff.1 hState
    simpa using h n hFirst (by omega)

theorem mem_of_lastWritten {fails : Nat → Bool} {first : Nat} {states : List State} {s : State}
    (h : lastWritten fails first states = some s) : s ∈ states := by
  obtain ⟨⟨s', n⟩, hLast, rfl⟩ := Option.map_eq_some_iff.1 h
  have hMem := (List.mem_filter.1 (List.mem_of_getLast? hLast)).1
  exact List.mem_of_getElem? (List.mem_zipIdx_iff_le_and_getElem?_sub.1 hMem).2

/-- Whether a file system was left after saving some states in order, with a store that holds
the last of them that could be written and is as it was apart from it. -/
structure HoldsLast (start : FileSystem) (states : List State) (last : FileSystem) : Prop where
  eq_foldl : last = states.foldl commit start
  writes_eq : last.store.writes = start.store.writes + states.length
  get_key : last.store.backend.get start.key =
    match lastWritten start.store.writesFail start.store.writes states with
    | some s => .ok (some s.save)
    | none => start.store.backend.get start.key
  get_other : ∀ other, other ≠ start.key →
    last.store.backend.get other = start.store.backend.get other

variable {start last : FileSystem} {states : List State}

theorem holdsLast_nil (start : FileSystem) : start.HoldsLast [] start where
  eq_foldl := rfl
  writes_eq := rfl
  get_key := rfl
  get_other := fun _ _ => rfl

theorem key_foldl_commit (states : List State) (fs : FileSystem) :
    (states.foldl commit fs).key = fs.key := by
  induction states generalizing fs with
  | nil => rfl
  | cons s rest ih => exact ih (fs.commit s)

theorem writesFail_foldl_commit (states : List State) (fs : FileSystem) :
    (states.foldl commit fs).store.writesFail = fs.store.writesFail := by
  induction states generalizing fs with
  | nil => rfl
  | cons s rest ih => exact ih (fs.commit s)

theorem HoldsLast.key_eq (h : start.HoldsLast states last) : last.key = start.key := by
  rw [h.eq_foldl, key_foldl_commit]

/-- The write of one more state has the next number, which decides whether it works. -/
theorem HoldsLast.fails_eq (h : start.HoldsLast states last) :
    last.store.writesFail last.store.writes
      = start.store.writesFail (start.store.writes + states.length) := by
  rw [h.writes_eq, h.eq_foldl, writesFail_foldl_commit]

theorem HoldsLast.commit (h : start.HoldsLast states last) (s : State) :
    start.HoldsLast (states ++ [s]) (last.commit s) := by
  have hReached : last.commit s = (states ++ [s]).foldl FileSystem.commit start := by
    rw [List.foldl_append, ← h.eq_foldl]
    rfl
  have hWrites : (last.commit s).store.writes = start.store.writes + (states ++ [s]).length := by
    have hOne : (last.commit s).store.writes = last.store.writes + 1 := rfl
    rw [hOne, h.writes_eq, List.length_append, List.length_singleton, Nat.add_assoc]
  cases hFails : start.store.writesFail (start.store.writes + states.length) with
  | true =>
    -- Nothing is put into the store, and the state is not among the written ones.
    have hStore : (last.commit s).store.backend = last.store.backend := by
      simp [FileSystem.commit, Store.set, h.fails_eq, hFails]
    refine ⟨hReached, hWrites, ?_, ?_⟩
    · rw [hStore, lastWritten_concat_of_fails hFails, h.get_key]
    · rw [hStore]
      exact h.get_other
  | false =>
    -- The key is that of the start, since saving never moves it.
    have hStore : (last.commit s).store.backend = last.store.backend.set start.key s.save := by
      simp [FileSystem.commit, Store.set, h.fails_eq, hFails, h.key_eq]
    refine ⟨hReached, hWrites, ?_, ?_⟩
    · rw [hStore, lastWritten_concat hFails, Store.Backend.get_set_self]
    · intro other hOther
      rw [hStore, Store.Backend.get_set_of_ne hOther, h.get_other other hOther]

theorem holdsLast_foldl_commit (start : FileSystem) (states : List State) :
    start.HoldsLast states (states.foldl FileSystem.commit start) := by
  -- State by state from the first; the invariant is about the states saved so far.
  induction states using List.reverseRecOn with
  | nil => exact holdsLast_nil start
  | append_singleton states s ih =>
    rw [List.foldl_append]
    exact ih.commit s

/-- When something was saved and the last write worked, the store is current. -/
theorem HoldsLast.get_key_of_works (h : start.HoldsLast states last)
    (hSaved : start.store.writes < last.store.writes)
    (hWorks : start.store.writesFail (last.store.writes - 1) = false) :
    last.store.backend.get start.key = .ok (some last.state.save) := by
  rcases List.eq_nil_or_concat' states with rfl | ⟨before, s, rfl⟩
  · rw [h.writes_eq] at hSaved
    simp at hSaved
  · -- The write before the next one is that of the last state saved.
    have hNumber : last.store.writes - 1 = start.store.writes + before.length := by
      rw [h.writes_eq, List.length_append, List.length_singleton]
      omega
    have hLast : last.state = s := by
      rw [h.eq_foldl, state_foldl_commit]
      simp
    rw [h.get_key, lastWritten_concat (hNumber ▸ hWorks), hLast]

end FileSystem

/-! ## Scripts -/

namespace Shell

/-- Whether one state comes after another by a step of one of the actions of a script. -/
def ScriptLeads (script : List (Instant × Action)) (s s' : State) : Prop :=
  ∃ e ∈ script, State.Leads e.2.Goes e.1 s s'

/-- **Scripts over any store**: what a script answers, the session that it leaves and the
states that it saves in order are told by the state and the session it starts from.  Each of
these states is one step of one of its actions after the one before. -/
theorem exists_play_eq {script : List (Instant × Action)}
    (hInside : ∀ e ∈ script, e.2.isOutside = false) (s : State) (session : Session) :
    ∃ (answers : List Answer) (session' : Session) (states : List State),
      (s :: states).IsChain (ScriptLeads script) ∧
      ∀ sh : Shell, sh.registry = .standard → sh.fs.state = s → sh.session = session →
        sh.play script
          = (answers, { sh with
              fs := states.foldl FileSystem.commit sh.fs
              session := session' }) := by
  induction script generalizing s session with
  | nil =>
    refine ⟨[], session, [], .singleton s, ?_⟩
    rintro sh - - rfl
    rfl
  | cons entry rest ih =>
    obtain ⟨now, a⟩ := entry
    obtain ⟨hHead, hRest⟩ := List.forall_mem_cons.1 hInside
    -- The rest runs from the last state that the first action saves.
    obtain ⟨u, hChain, hAct⟩ := Action.settles hHead now s session
    obtain ⟨answers, session', states, hSteps, hPlay⟩ := ih hRest (u.saved.getLastD s) u.session
    have hFirst : (s :: u.saved).IsChain (ScriptLeads ((now, a) :: rest)) :=
      hChain.imp fun _ _ hStep => ⟨(now, a), List.mem_cons_self, hStep⟩
    have hLater : (u.saved.getLastD s :: states).IsChain (ScriptLeads ((now, a) :: rest)) :=
      hSteps.imp fun _ _ ⟨e, hMem, hStep⟩ => ⟨e, List.mem_cons_of_mem _ hMem, hStep⟩
    refine ⟨u.answer :: answers, session', u.saved ++ states,
      State.isChain_append hFirst hLater, ?_⟩
    intro sh hRegistry hState hSession
    have hMid : (u.on sh).2.fs.state = u.saved.getLastD s := by
      rw [← hState]
      exact FileSystem.state_foldl_commit u.saved sh.fs
    have hAfter := hPlay (u.on sh).2 hRegistry hMid rfl
    simp only [play, hAct sh hRegistry hState hSession, hAfter, List.foldl_append]
    rfl

/-- A new shell over a file system in which the writes with some numbers fail. -/
def overFaults (fs : FileSystem) (session : Session) (fails : Nat → Bool) : Shell :=
  { fs := fs.withFaults fs.store.readsFail fails, session }

/-- **Failed writes do not show.**  Whichever writes fail, a script answers the same and
leaves the same session and state as when none fails; it tries to save the same states, each
a whole step of one of its actions after the one before, and the store holds the last of them
whose write worked, or what it held before when none did.  As every beginning of a script is
a script, this holds after each of its actions.  Where the last write worked, the store holds
the state itself. -/
theorem play_holdsLast (fs : FileSystem) (session : Session) {script : List (Instant × Action)}
    (hInside : ∀ e ∈ script, e.2.isOutside = false) :
    ∃ states : List State, (fs.state :: states).IsChain (ScriptLeads script) ∧
      ∀ fails : Nat → Bool,
        let run := (overFaults fs session fails).play script
        let working := (overFaults fs session fun _ => false).play script
        (run.1 = working.1 ∧ run.2.session = working.2.session ∧
          run.2.fs.state = working.2.fs.state) ∧
        (overFaults fs session fails).fs.HoldsLast states run.2.fs ∧
        (fs.store.writes < run.2.fs.store.writes →
          fails (run.2.fs.store.writes - 1) = false →
            run.2.fs.store.backend.get fs.key = .ok (some run.2.fs.state.save)) := by
  obtain ⟨answers, session', states, hSteps, hPlay⟩ := exists_play_eq hInside fs.state session
  have hRun : ∀ fails, (overFaults fs session fails).play script
      = (answers, { overFaults fs session fails with
          fs := states.foldl FileSystem.commit (overFaults fs session fails).fs
          session := session' }) := by
    intro fails
    exact hPlay (overFaults fs session fails) rfl rfl rfl
  refine ⟨states, hSteps, ?_⟩
  intro fails run working
  have hFirst : run = _ := hRun fails
  have hSecond : working = _ := hRun fun _ => false
  have hHolds : (overFaults fs session fails).fs.HoldsLast states run.2.fs := by
    rw [hFirst]
    exact FileSystem.holdsLast_foldl_commit (overFaults fs session fails).fs states
  refine ⟨⟨?_, ?_, ?_⟩, hHolds, ?_⟩
  · rw [hFirst, hSecond]
  · rw [hFirst, hSecond]
  · -- Both runs took on the same last state.
    rw [hFirst, hSecond]
    simp only [FileSystem.state_foldl_commit]
    rfl
  · intro hSaved hWorks
    exact hHolds.get_key_of_works hSaved hWorks

/-- A script that saves twice in one action. -/
def twoPosts : List (Instant × Action) :=
  [(default, .submit "mkdir é"), (default, .seed [⟨"a", "1"⟩, ⟨"a", "2"⟩, ⟨"b", "3"⟩]),
    (default, .submit "rm blog"), (default, .write "blog/b" ""), (default, .reset)]

theorem play_holdsLast_twoPosts :
    let fs : FileSystem := .openAt { backend := .database ⟨[]⟩ } "tree" default
    (∀ e ∈ twoPosts, e.2.isOutside = false) ∧
    ∃ states : List State, (fs.state :: states).IsChain (ScriptLeads twoPosts) ∧
      ∀ fails : Nat → Bool,
        let run := (overFaults fs {} fails).play twoPosts
        let working := (overFaults fs {} fun _ => false).play twoPosts
        (run.1 = working.1 ∧ run.2.session = working.2.session ∧
          run.2.fs.state = working.2.fs.state) ∧
        (overFaults fs {} fails).fs.HoldsLast states run.2.fs ∧
        (fs.store.writes < run.2.fs.store.writes →
          fails (run.2.fs.store.writes - 1) = false →
            run.2.fs.store.backend.get fs.key = .ok (some run.2.fs.state.save)) := by
  intro fs
  have hInside : ∀ e ∈ twoPosts, e.2.isOutside = false := by simp [twoPosts, Action.isOutside]
  exact ⟨hInside, play_holdsLast fs {} hInside⟩

end Shell

end TreeShell
