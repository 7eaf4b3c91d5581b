import Mathlib.Tactic.Common
import TreeShell.Proofs.Alike
import TreeShell.Proofs.ReadBack

/-!
# Opening anew

Opening a file system anew between two actions does not show.  Either something was saved
since it was first opened: then the store holds the state it is in, which reads back as
itself.  Or nothing was: then the store is still the one it was opened from, and gives a
state that differs in instants at most.  `FileSystem.Settled` says so of a file system in
a store that works, and every action that goes through the shell keeps it.

Instants do show in the second case, where the store holds no state: the initial state is
made anew at another instant, and a listing gives the nodes with their instants.

Main statement: `Shell.seen_withoutReopens`.
-/

namespace TreeShell

open TreeShell.Time TreeShell.Tree

/-! ## Working directories -/

/-- No argument means the empty path in a working directory that is not empty. -/
theorem Path.resolve_ne_empty {cwd : String} (h : cwd ≠ "") (target : String) :
    resolve cwd target ≠ "" := by
  have hJoin : ∀ segs, join segs ≠ "" := by
    intro segs hEq
    simp [join] at hEq
  unfold resolve
  split
  · rename_i hAbsolute
    rintro rfl
    contradiction
  · split
    · exact h
    · split
      · exact hJoin _
      · split
        · exact hJoin _
        · split <;> simp

theorem FileSystem.LineGoes.ne_empty {s : State} {path : String} (h : LineGoes s path)
    (hPath : s.currentPath ≠ "") : path ≠ "" := by
  rcases h with rfl | ⟨arg, rfl⟩
  · decide
  · exact Path.resolve_ne_empty hPath arg

theorem Tree.State.Step.currentPath_ne_empty {goes : String → Prop} {now : Instant} {s s' : State}
    (hStep : s.Step goes now s') (hGoes : ∀ path, goes path → path ≠ "")
    (h : s.currentPath ≠ "") : s'.currentPath ≠ "" := by
  cases hStep with
  | go hPath => exact hGoes _ hPath
  | restart =>
    have hRoot : "/" ≠ "" := by decide
    exact hRoot
  | add => exact h
  | remove => exact h
  | rewrite => exact h

/-! ## Stores that work -/

/-- Whether reading and writing never fail. -/
structure Store.Works (store : Store) : Prop where
  reads : store.readsFail = false
  writes : ∀ n, store.writesFail n = false

namespace FileSystem

theorem revive_currentPath_ne_empty (store : Store) (key : String) (now : Instant) :
    (revive store key now).currentPath ≠ "" := by
  by_cases hHolds : ∃ s, store.HoldsState key s
  · obtain ⟨s, hState⟩ := hHolds
    rw [revive_of_holdsState hState]
    exact s.rooted_currentPath_ne_empty
  · rw [revive_of_not_holdsState (not_exists.1 hHolds)]
    have hRoot : "/" ≠ "" := by decide
    exact hRoot

/-- What is revived from one store differs in instants at most. -/
theorem alike_revive (store : Store) (key : String) (t t' : Instant) :
    (revive store key t).Alike (revive store key t') := by
  by_cases hHolds : ∃ s, store.HoldsState key s
  · obtain ⟨s, hState⟩ := hHolds
    rw [revive_of_holdsState hState, revive_of_holdsState hState]
    rfl
  · have hNone := not_exists.1 hHolds
    rw [revive_of_not_holdsState hNone, revive_of_not_holdsState hNone]
    exact State.alike_initial t t'

/-! ## Settled file systems -/

/-- Whether the store holds the state that the file system is in. -/
def IsSaved (fs : FileSystem) : Prop :=
  fs.store.get fs.key = .ok (some fs.state.save)

/-- What holds of a file system that was opened from a store that works: its state is the
saved one, or revived from this store and not changed since. -/
structure Settled (store : Store) (fs : FileSystem) : Prop where
  works : fs.store.Works
  savable : fs.state.Savable
  path : fs.state.currentPath ≠ ""
  saved : fs.IsSaved ∨ (fs.store = store ∧ ∃ t, fs.state = revive store fs.key t)

variable {store : Store} {fs : FileSystem}

theorem settled_openAt (hWorks : store.Works) (key : String) (now : Instant) :
    (openAt store key now).Settled store where
  works := hWorks
  savable := savable_revive store key now
  path := revive_currentPath_ne_empty store key now
  saved := .inr ⟨rfl, now, rfl⟩

theorem Settled.commit (h : fs.Settled store) {s : State} (hs : s.Savable)
    (hPath : s.currentPath ≠ "") : (fs.commit s).Settled store where
  works := ⟨h.works.reads, h.works.writes⟩
  savable := hs
  path := hPath
  saved := .inl (Store.get_set_self h.works.reads h.works.writes fs.key s.save)

theorem Settled.saves (h : fs.Settled store) {goes : State → String → Prop} {now : Instant}
    (hGoes : ∀ s path, s.currentPath ≠ "" → goes s path → path ≠ "") {last : FileSystem}
    (hSaves : fs.Saves goes now last) : last.Settled store := by
  induction hSaves with
  | still => exact h
  | @commit mid s _ hStep ih =>
    have hPath : s.currentPath ≠ "" :=
      hStep.currentPath_ne_empty (fun path => hGoes mid.state path ih.path) ih.path
    exact ih.commit (ih.savable.step hStep) hPath

theorem Settled.reopen_of_isSaved (h : fs.Settled store) (hSaved : fs.IsSaved) (now : Instant) :
    fs.reopen fs.key now = fs := by
  have hText : fs.store.get fs.key = .ok (some fs.state.save) := hSaved
  -- What was saved reads back as itself, and its path needs no root in its place.
  have hRevive : revive fs.store fs.key now = fs.state := by
    simp only [revive, hText, h.savable.load?_save, if_neg h.path]
  rw [reopen, openAt, hRevive]

theorem Settled.reopen (h : fs.Settled store) (now : Instant) :
    (fs.reopen fs.key now).Settled store ∧ fs.state.Alike (fs.reopen fs.key now).state := by
  rcases h.saved with hSaved | ⟨hStore, t, hState⟩
  · rw [h.reopen_of_isSaved hSaved now]
    exact ⟨h, rfl⟩
  · -- Nothing was saved since: the store is still the one from the beginning.
    have hReopen : fs.reopen fs.key now = openAt store fs.key now := by
      rw [FileSystem.reopen, hStore]
    rw [hReopen, hState]
    exact ⟨settled_openAt (hStore ▸ h.works) fs.key now, alike_revive store fs.key t now⟩

/-- Where the store held a state from the beginning, opening anew changes nothing. -/
theorem Settled.reopen_of_holdsState (h : fs.Settled store) {s : State}
    (hHolds : store.HoldsState fs.key s) (now : Instant) : fs.reopen fs.key now = fs := by
  rcases h.saved with hSaved | ⟨hStore, t, hState⟩
  · exact h.reopen_of_isSaved hSaved now
  · have hRevive : revive fs.store fs.key now = fs.state := by
      rw [hStore, hState, revive_of_holdsState hHolds, revive_of_holdsState hHolds]
    rw [FileSystem.reopen, openAt, hRevive]

/-- Once a write was tried, opening anew changes nothing. -/
theorem Settled.reopen_of_writes (h : fs.Settled store) (hWrites : store.writes < fs.store.writes)
    (now : Instant) : fs.reopen fs.key now = fs := by
  rcases h.saved with hSaved | ⟨hStore, _⟩
  · exact h.reopen_of_isSaved hSaved now
  · rw [hStore] at hWrites
    exact absurd hWrites (Nat.lt_irrefl _)

end FileSystem

/-! ## Uses of a file system -/

/-- Whether an action opens the file system anew. -/
def Action.isReopen : Action → Bool
  | .reopen _ => true
  | _ => false

/-- Whether an action goes through the shell, without an empty working directory, or opens
the file system anew under a key. -/
def Action.Uses (key : String) : Action → Prop
  | .reopen k => k = key
  | .setCurrentPath path => path ≠ ""
  | .faults _ _ => False
  | .put _ _ => False
  | _ => True

theorem Action.Uses.isOutside {key : String} {a : Action} (h : a.Uses key)
    (hReopen : a.isReopen = false) : a.isOutside = false := by
  cases a with
  | reopen k => contradiction
  | faults reads writes => exact h.elim
  | put k text => exact h.elim
  | _ => rfl

theorem Action.Uses.goes {key : String} {a : Action} (h : a.Uses key) (s : State) (path : String)
    (hPath : s.currentPath ≠ "") (hGoes : a.Goes s path) : path ≠ "" := by
  cases a with
  | handle line => exact FileSystem.LineGoes.ne_empty hGoes hPath
  | submit line => exact FileSystem.LineGoes.ne_empty hGoes hPath
  | setCurrentPath p =>
    obtain rfl : path = p := hGoes
    exact h
  | _ => exact hGoes.elim

/-- A shell of the standard commands over a settled file system. -/
structure Shell.Opened (store : Store) (key : String) (sh : Shell) : Prop where
  registry : sh.registry = .standard
  key : sh.fs.key = key
  settled : sh.fs.Settled store

namespace Shell

variable {store : Store} {key : String} {sh sh' : Shell} {script : List (Instant × Action)}

theorem opened_openAt (hWorks : store.Works) (key : String) (now : Instant) :
    (Shell.new (.openAt store key now)).Opened store key :=
  ⟨rfl, rfl, FileSystem.settled_openAt hWorks key now⟩

theorem Opened.act (h : sh.Opened store key) {a : Action} (hUses : a.Uses key) (now : Instant) :
    (sh.act now a).2.Opened store key := by
  have hRegistry : (sh.act now a).2.registry = .standard := (registry_act now a).trans h.registry
  cases hReopen : a.isReopen with
  | false =>
    have hSaves : sh.fs.Saves a.Goes now (sh.act now a).2.fs :=
      saves_act h.registry (hUses.isOutside hReopen)
    exact ⟨hRegistry, hSaves.key_eq.trans h.key, h.settled.saves hUses.goes hSaves⟩
  | true =>
    cases a with
    | reopen k =>
      obtain rfl : k = sh.fs.key := Eq.trans hUses h.key.symm
      exact ⟨hRegistry, h.key, (h.settled.reopen now).1⟩
    | _ => contradiction

theorem Opened.play (h : sh.Opened store key) (hUses : ∀ e ∈ script, e.2.Uses key) :
    (sh.play script).2.Opened store key :=
  play_invariant (fun now _ hMem _ hOpened => hOpened.act (hUses _ hMem) now) h

/-! ## What shows of a script -/

/-- What shows of an action: its answer, and the state that it leaves. -/
structure Shown where
  answer : Answer
  state : State

/-- What shows of an action, with one instant everywhere. -/
def Shown.timeless (shown : Shown) : Shown :=
  ⟨shown.answer.timeless, shown.state.timeless⟩

/-- What shows of the actions of a script, apart from those that open anew. -/
def seen (sh : Shell) : List (Instant × Action) → List Shown
  | [] => []
  | (now, a) :: rest =>
    let (answer, after) := sh.act now a
    if a.isReopen then after.seen rest else ⟨answer, after.fs.state⟩ :: after.seen rest

/-- The script without the actions that open anew. -/
def withoutReopens (script : List (Instant × Action)) : List (Instant × Action) :=
  script.filter fun e => !e.2.isReopen

theorem withoutReopens_cons {a : Action} (h : a.isReopen = false) (now : Instant)
    (rest : List (Instant × Action)) :
    withoutReopens ((now, a) :: rest) = (now, a) :: withoutReopens rest := by
  simp [withoutReopens, h]

theorem seen_cons {a : Action} (h : a.isReopen = false) (now : Instant)
    (rest : List (Instant × Action)) :
    sh.seen ((now, a) :: rest)
      = ⟨(sh.act now a).1, (sh.act now a).2.fs.state⟩ :: (sh.act now a).2.seen rest := by
  simp only [seen, h, Bool.false_eq_true, if_false]

/-- Whether something was saved before every action of a script that opens anew. -/
def ReopensSaved (sh : Shell) (script : List (Instant × Action)) : Prop :=
  ∀ before now k after, script = before ++ (now, .reopen k) :: after →
    sh.fs.store.writes < (sh.play before).2.fs.store.writes

/-- **Opening anew leaves alike**: two runs from alike shells, one of them with actions
that open anew, show the same but for instants. -/
theorem Alike.seen_withoutReopens (hOpened : sh.Opened store key) (h : sh.Alike sh')
    (hUses : ∀ e ∈ script, e.2.Uses key) :
    (sh.seen script).map Shown.timeless
        = (sh'.seen (withoutReopens script)).map Shown.timeless ∧
      (sh.play script).2.Alike (sh'.play (withoutReopens script)).2 := by
  -- Along the script.  The first shell moves alone when it opens anew, and stays alike to
  -- the second, which stands still; on every other action both move.
  induction script generalizing sh sh' with
  | nil => exact ⟨rfl, h⟩
  | cons entry rest ih =>
    obtain ⟨now, a⟩ := entry
    have hHead : a.Uses key := hUses (now, a) List.mem_cons_self
    have hRest : ∀ e ∈ rest, e.2.Uses key := fun e hMem => hUses e (List.mem_cons_of_mem _ hMem)
    have hAfter : (sh.act now a).2.Opened store key := hOpened.act hHead now
    cases hReopen : a.isReopen with
    | true =>
      cases a with
      | reopen k =>
        obtain rfl : k = sh.fs.key := Eq.trans hHead hOpened.key.symm
        have hState : (sh.fs.reopen sh.fs.key now).state.Alike sh'.fs.state :=
          (hOpened.settled.reopen now).2.symm.trans h.state
        have hShells : (sh.act now (.reopen sh.fs.key)).2.Alike sh' :=
          ⟨h.registry, h.registry', h.session, hState⟩
        exact ih hAfter hShells hRest
      | _ => contradiction
    | false =>
      obtain ⟨hAnswer, hShells⟩ := h.act (hHead.isOutside hReopen) now
      obtain ⟨hSeen, hLast⟩ := ih hAfter hShells hRest
      rw [withoutReopens_cons hReopen, seen_cons hReopen, seen_cons hReopen, List.map_cons,
        List.map_cons, hSeen]
      refine ⟨?_, hLast⟩
      simp only [Shown.timeless, hAnswer, hShells.state.eq]

/-- Where opening anew changes nothing, it does not show at all. -/
theorem seen_withoutReopens_of_idle
    (hIdle : ∀ before now k after, script = before ++ (now, .reopen k) :: after →
      (sh.play before).2.fs.reopen k now = (sh.play before).2.fs) :
    sh.seen script = sh.seen (withoutReopens script) ∧
      (sh.play script).2 = (sh.play (withoutReopens script)).2 := by
  induction script generalizing sh with
  | nil => exact ⟨rfl, rfl⟩
  | cons entry rest ih =>
    obtain ⟨now, a⟩ := entry
    -- A prefix of the rest is a prefix of the whole behind this action.
    obtain ⟨hSeen, hLast⟩ := @ih (sh.act now a).2 fun before later k after hEq =>
      hIdle ((now, a) :: before) later k after (by rw [hEq, List.cons_append])
    cases hReopen : a.isReopen with
    | true =>
      cases a with
      | reopen k =>
        have hSame : (sh.act now (.reopen k)).2 = sh :=
          congrArg sh.withFs (hIdle [] now k rest rfl)
        rw [hSame] at hSeen hLast
        have hPlain : withoutReopens ((now, .reopen k) :: rest) = withoutReopens rest := rfl
        rw [hPlain, ← hSeen, ← hLast]
        simp only [seen, play, hReopen, if_true, hSame]
        exact ⟨trivial, trivial⟩
      | _ => contradiction
    | false =>
      rw [withoutReopens_cons hReopen, seen_cons hReopen, seen_cons hReopen, hSeen]
      exact ⟨rfl, hLast⟩

/-- **Opening anew does not show.**  In a store that works, a script shows the same as
without the actions that open anew, up to instants, and leaves the same session and the
same tree up to instants.  Where the store held a state from the beginning, or something was
saved before every action that opens anew, the instants are the same too. -/
theorem seen_eq_withoutReopens {store : Store} (hWorks : store.Works) {key : String}
    (start : Instant) {script : List (Instant × Action)} (hUses : ∀ e ∈ script, e.2.Uses key) :
    let sh := Shell.new (.openAt store key start)
    let last := (sh.play script).2
    let plain := (sh.play (withoutReopens script)).2
    ((sh.seen script).map Shown.timeless
        = (sh.seen (withoutReopens script)).map Shown.timeless ∧
      last.session = plain.session ∧ last.fs.state.timeless = plain.fs.state.timeless) ∧
    ((∃ s, store.HoldsState key s) ∨ sh.ReopensSaved script →
      sh.seen script = sh.seen (withoutReopens script) ∧ last.fs.state = plain.fs.state) := by
  intro sh last plain
  have hOpened : sh.Opened store key := opened_openAt hWorks key start
  have hSelf : sh.Alike sh := ⟨rfl, rfl, rfl, rfl⟩
  obtain ⟨hSeen, hLast⟩ := hSelf.seen_withoutReopens hOpened hUses
  refine ⟨⟨hSeen, hLast.session, hLast.state⟩, fun hExact => ?_⟩
  -- For equal instants, opening anew has to change nothing wherever it happens.
  have hIdle : ∀ before now k after, script = before ++ (now, .reopen k) :: after →
      (sh.play before).2.fs.reopen k now = (sh.play before).2.fs := by
    intro before now k after hScript
    have hBefore : ∀ e ∈ before, e.2.Uses key := by
      intro e hMem
      exact hUses e (hScript ▸ List.mem_append_left _ hMem)
    have hReopen : (Action.reopen k).Uses key := hUses (now, .reopen k) (by simp [hScript])
    have hAt : (sh.play before).2.Opened store key := hOpened.play hBefore
    have hKey : (sh.play before).2.fs.key = k := hAt.key.trans hReopen.symm
    subst hKey
    rcases hExact with ⟨s, hHolds⟩ | hSaved
    · have hKey : (sh.play before).2.fs.key = key := hReopen
      exact hAt.settled.reopen_of_holdsState (hKey ▸ hHolds) now
    · exact hAt.settled.reopen_of_writes (hSaved before now _ after hScript) now
  obtain ⟨hSeen, hLast⟩ := seen_withoutReopens_of_idle hIdle
  exact ⟨hSeen, congrArg (·.fs.state) hLast⟩

/-- A store that holds a state from the beginning. -/
def childlessStore : Store where
  backend := .memory ⟨[("tree", childlessText)]⟩

/-- Lines and uses with actions that open anew between them. -/
def interrupted : List (Instant × Action) :=
  [(default, .reopen "tree"), (default, .submit "mkdir blog"), (default, .reopen "tree"),
    (default, .seed [⟨"a.md", "é"⟩]), (default, .setCurrentPath "nowhere"),
    (default, .reopen "tree"), (default, .list "/blog")]

theorem seen_eq_withoutReopens_interrupted :
    let sh := Shell.new (.openAt childlessStore "tree" default)
    sh.seen interrupted = sh.seen (withoutReopens interrupted) ∧
      (sh.play interrupted).2.fs.state = (sh.play (withoutReopens interrupted)).2.fs.state := by
  have hWorks : childlessStore.Works := ⟨rfl, fun _ => rfl⟩
  have hUses : ∀ e ∈ interrupted, e.2.Uses "tree" := by
    simp [interrupted, Action.Uses]
  have hHolds : ∃ s, childlessStore.HoldsState "tree" s := by
    obtain ⟨s, hLoad⟩ := Option.isSome_iff_exists.1 isSome_load?_childlessText
    exact ⟨s, childlessText, rfl, hLoad⟩
  exact (seen_eq_withoutReopens hWorks default hUses).2 (.inl hHolds)

/-- The instants of creation that an answer shows. -/
def shownCreations : Answer → List Instant
  | .listing nodes => nodes.map Node.created
  | _ => []

/-- An instant other than the default one. -/
def later : Instant :=
  (Instant.ofFields? 1970 1 1 0 0 1 0).getD default

/-- A store that holds nothing. -/
def bareStore : Store where
  backend := .empty

/-- A listing after opening anew. -/
def relisting : List (Instant × Action) :=
  [(later, .reopen "tree"), (later, .list "/")]

/-- Over a store that holds nothing, opening anew before anything was saved makes the
initial state at another instant, and the answers to a listing differ in it. -/
theorem listing_after_reopen_ne :
    bareStore.Works ∧ (∀ e ∈ relisting, e.2.Uses "tree") ∧
      ((Shell.new (.openAt bareStore "tree" default)).seen relisting).map Shown.answer
        ≠ ((Shell.new (.openAt bareStore "tree" default)).seen
            (withoutReopens relisting)).map Shown.answer := by
  refine ⟨⟨rfl, fun _ => rfl⟩, by simp [relisting, Action.Uses], fun hEq => ?_⟩
  -- The protected directory is listed as made at the one instant and at the other.
  have hInstants := congrArg (List.map shownCreations) hEq
  have hDiffer : (((Shell.new (.openAt bareStore "tree" default)).seen relisting).map
      Shown.answer).map shownCreations
        ≠ (((Shell.new (.openAt bareStore "tree" default)).seen
            (withoutReopens relisting)).map Shown.answer).map shownCreations := by
    decide +kernel
  exact hDiffer hInstants

end Shell

end TreeShell
