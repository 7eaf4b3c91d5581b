import Mathlib.Data.List.Forall2
import Mathlib.Tactic.Common
import TreeShell.Proofs.Alike
import TreeShell.Proofs.Launch.Plan
import TreeShell.Proofs.Seeding

/-!
# Nothing is left after a reset

A run that resets its tree begins with the initial one, whatever its database held before, and
saves it.  So two such runs with one errand over two databases show the same, and so do all
runs after them that have their errands in common: from one run to the next, the databases
open to states that differ in instants only.

## Layers

- `Database.Alike`: databases that open to states that differ in instants only;
- `Errand.idle_shell`: errands that reset, or that are over such databases, begin with shells
  that look alike;
- `agree_of_place`: one such run, and the databases that it leaves;
- `Plan.Matches`: plans with the same errand, each over a database of its own, as the same
  invocations have them on hosts with the same files (`matches_of_sameFiles`);
- `shownRuns_eq`: histories over databases that open alike;
- `shownRuns_after_reset`: histories that begin with a reset.
-/

namespace TreeShell.Store

open TreeShell.Launch TreeShell.Time

/-- Whether two databases open to states that differ in instants only. -/
def Database.Alike (key : String) (db db' : Database) : Prop :=
  ∀ t t', (FileSystem.revive (storeOf db) key t).Alike (FileSystem.revive (storeOf db') key t')

end TreeShell.Store

namespace TreeShell.Launch

open TreeShell.Store TreeShell.Time TreeShell.Tree

/-! ## Shells that errands begin with -/

namespace Errand

variable {e : Errand}

/-- **Shells** of one errand look alike after a reset, and also over stores that are revived
alike. -/
theorem idle_shell {store store' : Store}
    (h : e.reset = true ∨ ∀ t t', (FileSystem.revive store e.key t).Alike
      (FileSystem.revive store' e.key t')) (now now' : Instant) :
    (e.shell store now).Idle (e.shell store' now') := by
  -- Before the seeding: either both trees are the initial one, or both are as they were revived.
  have hStart : (if e.reset then (FileSystem.openAt store e.key now).reset now
        else .openAt store e.key now).state.Alike
      (if e.reset then (FileSystem.openAt store' e.key now').reset now'
        else .openAt store' e.key now').state := by
    by_cases hReset : e.reset = true
    · rw [if_pos hReset, if_pos hReset]
      exact State.alike_initial now now'
    · rw [if_neg hReset, if_neg hReset]
      exact h.resolve_left hReset now now'
  refine ⟨rfl, rfl, ⟨rfl, rfl⟩, ⟨rfl, rfl⟩, ?_⟩
  simp only [shell, startShell, Shell.new]
  by_cases hSeeded : e.seeded = true
  · rw [if_pos hSeeded, if_pos hSeeded]
    exact (FileSystem.alike_seed hStart now now' Content.posts).2
  · rw [if_neg hSeeded, if_neg hSeeded]
    exact hStart

/-- What an errand does to its tree at the beginning, it does to its database. -/
theorem onDatabase_shell (e : Errand) (db : Database) (now : Instant) :
    (e.shell (storeOf db) now).OnDatabase db e.key := by
  -- Resetting and seeding are actions of the fresh shell.
  have hFresh := Shell.onDatabase_freshShell db e.key now
  obtain ⟨key, reset, seeded, command, input⟩ := e
  have hReset : ((freshShell db key now).act now .reset).2.OnDatabase db key :=
    hFresh.act (a := .reset) trivial rfl now
  cases reset with
  | false =>
    cases seeded with
    | false => exact hFresh
    | true => exact hFresh.act (a := .seed Content.posts) trivial rfl now
  | true =>
    cases seeded with
    | false => exact hReset
    | true => exact hReset.act (a := .seed Content.posts) trivial rfl now

/-- **After a reset** the tree is the initial one, with the bundled posts when it is seeded. -/
theorem state_shell_of_reset (hReset : e.reset = true) (store : Store) (now : Instant) :
    (e.shell store now).fs.state
      = State.stocked now (if e.seeded then Content.posts else []) := by
  simp only [shell, startShell, Shell.new, hReset, if_true]
  by_cases hSeeded : e.seeded = true
  · rw [if_pos hSeeded, if_pos hSeeded]
    exact (FileSystem.seed_initial rfl fit_posts).2
  · rw [if_neg hSeeded, if_neg hSeeded]
    exact (State.stocked_nil now).symm

end Errand

/-! ## Two runs with one errand -/

variable {h h' : Host} {i i' : Invocation} {e : Errand} {place place' : Location} {key : String}

/-- The database that an errand leaves opens to its last state. -/
theorem databaseAt_run (hPlan : i.plan h = .work e (some place)) :
    let done := operate (e.shell (storeOf (h.databaseAt place)) i.now) i e.command
    ∀ t, done.2.2.fs.state.Alike
      (FileSystem.revive (storeOf ((run h i).host.databaseAt place)) e.key t) := by
  intro done t
  have hOn := (e.onDatabase_shell (h.databaseAt place) i.now).operate i e.command
  obtain ⟨left, hLeft⟩ := hOn.backend
  obtain ⟨-, ⟨h₁, hHost⟩, -⟩ := run_of_place hPlan
  rw [hHost, close_eq hLeft, Host.databaseAt_keepDatabase]
  exact hOn.alike_revive hLeft t

/-- **Two runs** with one errand that resets, or over databases that open alike, show the same
and leave databases that open alike. -/
theorem agree_of_place (hPlan : i.plan h = .work e (some place))
    (hPlan' : i'.plan h' = .work e (some place'))
    (hBefore : e.reset = true ∨ (h.databaseAt place).Alike e.key (h'.databaseAt place')) :
    (run h i).shown = (run h' i').shown ∧
      ((run h i).host.databaseAt place).Alike e.key ((run h' i').host.databaseAt place') := by
  obtain ⟨hShown, -, hInput⟩ := run_of_place hPlan
  obtain ⟨hShown', -, hInput'⟩ := run_of_place hPlan'
  have hIdle := e.idle_shell hBefore i.now i'.now
  obtain ⟨hCode, hPrinted, hAfter⟩ := hIdle.operate (hInput.trans hInput'.symm) e.command
  refine ⟨?_, fun t t' => ?_⟩
  · rw [hShown, hShown', hCode, hPrinted]
  · -- From the one database to the state of its shell, across to the other, and back.
    exact (databaseAt_run hPlan t).symm.trans (hAfter.state.trans (databaseAt_run hPlan' t'))

/-- Two runs with one errand in memory show the same. -/
theorem agree_of_memory (hPlan : i.plan h = .work e none) (hPlan' : i'.plan h' = .work e none) :
    (run h i).shown = (run h' i').shown ∧ (run h i).host = h ∧ (run h' i').host = h' := by
  obtain ⟨hShown, hHost, hInput⟩ := run_of_memory hPlan
  obtain ⟨hShown', hHost', hInput'⟩ := run_of_memory hPlan'
  have hIdle := e.idle_shell (.inr (FileSystem.alike_revive { backend := .empty } e.key))
    i.now i'.now
  obtain ⟨hCode, hPrinted, -⟩ := hIdle.operate (hInput.trans hInput'.symm) e.command
  exact ⟨by rw [hShown, hShown', hCode, hPrinted], hHost, hHost'⟩

/-! ## Histories -/

/-- Whether two plans are the same, but for the place of the database: an errand over one has
this key, and goes to the one place in the first plan and to the other in the second. -/
inductive Plan.Matches (key : String) (place place' : Location) : Plan → Plan → Prop where
  | answer (r : Request) : Matches key place place' (.answer r) (.answer r)
  | refuse (why : SettingsError) : Matches key place place' (.refuse why) (.refuse why)
  | inMemory (e : Errand) : Matches key place place' (.work e none) (.work e none)
  | onDatabase {e : Errand} (hKey : e.key = key) :
      Matches key place place' (.work e (some place)) (.work e (some place'))

/-- The same invocations on hosts with the same files have plans that match, if all their
errands are in memory or over one database under one key. -/
theorem matches_of_sameFiles (h : Host) (i : Invocation) (dbs : List (Location × Database))
    {is : List Invocation}
    (hStay : ∀ p ∈ plans (run h i).host is, Plan.Matches key place place p p) :
    List.Forall₂ (Plan.Matches key place place)
      (plans (run h i).host is) (plans (run (h.withDatabases dbs) i).host is) := by
  obtain ⟨dbs', hHost⟩ := exists_databases_run h dbs i
  rw [hHost, plans_withDatabases]
  exact List.forall₂_same.2 hStay

/-- What two runs with plans that match show, and what they leave. -/
theorem agree_of_matches (hPlan : (i.plan h).Matches key place place' (i'.plan h'))
    (hBefore : (h.databaseAt place).Alike key (h'.databaseAt place')) :
    (run h i).shown = (run h' i').shown ∧
      ((run h i).host.databaseAt place).Alike key ((run h' i').host.databaseAt place') := by
  -- Only an errand over the databases changes what they open to.
  generalize hHere : i.plan h = p at hPlan
  generalize hThere : i'.plan h' = p' at hPlan
  cases hPlan with
  | answer r =>
    obtain ⟨hShown, hHost, hHost'⟩ := run_of_answer hHere hThere
    exact ⟨hShown, by rwa [hHost, hHost']⟩
  | refuse why =>
    rw [run_of_refuse hHere, run_of_refuse hThere]
    exact ⟨rfl, hBefore⟩
  | inMemory e =>
    obtain ⟨hShown, hHost, hHost'⟩ := agree_of_memory hHere hThere
    exact ⟨hShown, by rwa [hHost, hHost']⟩
  | onDatabase hKey =>
    subst hKey
    exact agree_of_place hHere hThere (.inr hBefore)

/-- **Histories** whose plans match show the same when they begin with databases that open
alike. -/
theorem shownRuns_eq {is is' : List Invocation}
    (hMatch : List.Forall₂ (Plan.Matches key place place') (plans h is) (plans h' is'))
    (hBefore : (h.databaseAt place).Alike key (h'.databaseAt place')) :
    shownRuns h is = shownRuns h' is' := by
  -- Run by run; the databases that two runs leave open alike again.
  induction is generalizing h h' is' with
  | nil =>
    cases is' with
    | nil => rfl
    | cons => cases hMatch
  | cons i rest ih =>
    cases is' with
    | nil => cases hMatch
    | cons i' rest' =>
      obtain ⟨hPlan, hRest⟩ := List.forall₂_cons.1 hMatch
      obtain ⟨hShown, hAfter⟩ := agree_of_matches hPlan hBefore
      rw [shownRuns, shownRuns, hShown, ih hRest hAfter]

/-! ## Resets -/

/-- **A reset leaves nothing of the past.**  Two runs with one errand that resets, each over a
database that may hold anything, exit and print the same, and so do all runs after them whose
plans match: those with the same errands under the same key over these databases, those in
memory, and those that print an answer only.  The shell that the errand begins with, over
whatever store, has the initial tree, with the bundled posts when the errand seeds it, and the
root as its working directory.

The plans match in particular for the same invocations on hosts with the same files, whatever
the databases hold: `matches_of_sameFiles`. -/
theorem shownRuns_after_reset {is is' : List Invocation}
    (hPlan : i.plan h = .work e (some place)) (hPlan' : i'.plan h' = .work e (some place'))
    (hReset : e.reset = true)
    (hLater : List.Forall₂ (Plan.Matches e.key place place')
      (plans (run h i).host is) (plans (run h' i').host is')) :
    shownRuns h (i :: is) = shownRuns h' (i' :: is') ∧
      ∀ store now, (e.shell store now).fs.state
        = State.stocked now (if e.seeded then Content.posts else []) := by
  -- The first runs need nothing of their databases, and leave databases that open alike.
  obtain ⟨hShown, hAfter⟩ := agree_of_place hPlan hPlan' (.inl hReset)
  refine ⟨?_, e.state_shell_of_reset hReset⟩
  rw [shownRuns, shownRuns, hShown, shownRuns_eq hLater hAfter]

/-- A host with two databases: bytes that are no text, and a state whose working directory is
gone. -/
def twoPasts : Host where
  entries := []
  databases :=
    [(["d", "state"], Table.put {} (keyBytes FileSystem.defaultKey) ⟨#[0xff]⟩),
      (["x", "state"], Database.setText {} FileSystem.defaultKey
        ((State.initial default).setCurrentPath "gone").save)]
  workingDirectory := []

/-- An invocation over the database in a directory. -/
def onDirectory (directory : String) (now : Instant) (arguments : List String) : Invocation where
  arguments := ("--data-dir=" ++ directory) :: arguments
  environment := { home := "/h" }
  input := .empty
  now := now

/-- The options for a line over the database in a directory. -/
def lineOptions (directory line : String) (reset : Bool) : Options where
  command := some line
  dataDirectory := some directory
  reset := reset

/-- The errand of a line. -/
def lineErrand (line : String) (reset : Bool) : Errand where
  key := FileSystem.defaultKey
  reset := reset
  seeded := true
  command := some line
  input := .empty

theorem shownRuns_after_reset_twoPasts :
    let first := onDirectory "/d" default ["--reset", "-c", "mkdir a"]
    let first' := onDirectory "/x" Shell.later ["--reset", "-c", "mkdir a"]
    let second := onDirectory "/d" Shell.later ["-c", "ls"]
    let second' := onDirectory "/x" default ["-c", "ls"]
    let e := lineErrand "mkdir a" true
    (first.plan twoPasts = .work e (some ["d", "state"]) ∧
      first'.plan twoPasts = .work e (some ["x", "state"]) ∧ e.reset = true ∧
      List.Forall₂ (Plan.Matches e.key ["d", "state"] ["x", "state"])
        (plans (run twoPasts first).host [second])
        (plans (run twoPasts first').host [second'])) ∧
    shownRuns twoPasts [first, second] = shownRuns twoPasts [first', second'] := by
  intro first first' second second' e
  let s : Settings := { path := some "/d" }
  let s' : Settings := { path := some "/x" }
  have hOptions : Request.ofArguments first.arguments
      = .run (lineOptions "/d" "mkdir a" true) := by decide +kernel
  have hOptions' : Request.ofArguments first'.arguments
      = .run (lineOptions "/x" "mkdir a" true) := by decide +kernel
  have hSettings : settingsFor twoPasts first.environment (lineOptions "/d" "mkdir a" true)
      = .ok s := by decide +kernel
  have hSettings' : settingsFor twoPasts first'.environment (lineOptions "/x" "mkdir a" true)
      = .ok s' := by decide +kernel
  have hPlan : first.plan twoPasts = .work e (some ["d", "state"]) :=
    plan_eq_work hOptions hSettings (by decide +kernel)
  have hPlan' : first'.plan twoPasts = .work e (some ["x", "state"]) :=
    plan_eq_work hOptions' hSettings' (by decide +kernel)
  -- The second runs find what opening the databases left, as far as their plans go.
  have hSecond : second.plan (openStore twoPasts first.environment s).host
      = .work (lineErrand "ls" false) (some ["d", "state"]) :=
    plan_eq_work (o := lineOptions "/d" "ls" false) (s := s)
      (by decide +kernel) (by decide +kernel) (by decide +kernel)
  have hSecond' : second'.plan (openStore twoPasts first'.environment s').host
      = .work (lineErrand "ls" false) (some ["x", "state"]) :=
    plan_eq_work (o := lineOptions "/x" "ls" false) (s := s')
      (by decide +kernel) (by decide +kernel) (by decide +kernel)
  have hLater : List.Forall₂ (Plan.Matches e.key ["d", "state"] ["x", "state"])
      (plans (run twoPasts first).host [second]) (plans (run twoPasts first').host [second']) := by
    rw [plans_run hOptions hSettings, plans_run hOptions' hSettings']
    simp only [plans, hSecond, hSecond']
    exact .cons (.onDatabase rfl) .nil
  exact ⟨⟨hPlan, hPlan', rfl, hLater⟩, (shownRuns_after_reset hPlan hPlan' rfl hLater).1⟩

end TreeShell.Launch
