import Mathlib.Tactic.Common
import TreeShell.Proofs.Launch.LineByLine

/-!
# What a run is to do

Before a run opens its store, its arguments, its environment and the files of its host have
told what it is to do: `Invocation.plan`.  The databases of the host do not come into it.  A
run finds in the database of its plan what the host has there, and leaves nothing on the host
but this database and the directories on the way to it.

## Layers

- `Host.withDatabases`: a host with other databases reads the same settings and reaches the
  same places (`settingsFor_withDatabases`, `Host.reach_withDatabases`);
- `Invocation.plan`, `plan_withDatabases`: so the plans are the same;
- `run_of_answer`, `run_of_refuse`, `run_of_memory`, `run_of_place`: what a run with a plan
  does;
- `plans_withDatabases`, `plans_run`: plans of runs one after the other.
-/

namespace TreeShell.Launch

open TreeShell.Store TreeShell.Time TreeShell.Tree

/-! ## Hosts with other databases -/

namespace Host

/-- The host with other databases. -/
def withDatabases (h : Host) (dbs : List (Location × Database)) : Host :=
  { h with databases := dbs }

/-- The database in a directory, which is empty when none was left there. -/
def databaseAt (h : Host) (place : Location) : Database :=
  (h.databases.lookup place).getD {}

variable {h h' : Host} {dbs : List (Location × Database)} {place : Location}

theorem databaseAt_keepDatabase (h : Host) (place : Location) (db : Database) :
    (h.keepDatabase place db).databaseAt place = db := by
  simp [databaseAt, keepDatabase]

theorem entry?_withDatabases (h : Host) (dbs : List (Location × Database)) (place : Location) :
    Host.entry? (h.withDatabases dbs) place = h.entry? place := rfl

theorem walk_withDatabases (h : Host) (dbs : List (Location × Database)) (place : Location)
    (components : List String) :
    (h.withDatabases dbs).walk place components = h.walk place components := by
  induction components generalizing place with
  | nil => rfl
  | cons c cs ih => simp only [walk, entry?_withDatabases, ih]

theorem find_withDatabases (h : Host) (dbs : List (Location × Database)) (path : String) :
    (h.withDatabases dbs).find path = h.find path := by
  simp only [find, walk_withDatabases]
  rfl

theorem isFile_withDatabases (h : Host) (dbs : List (Location × Database)) (path : String) :
    (h.withDatabases dbs).isFile path = h.isFile path := by
  simp only [isFile, find_withDatabases, entry?_withDatabases]

theorem readText_withDatabases (h : Host) (dbs : List (Location × Database)) (path : String) :
    (h.withDatabases dbs).readText path = h.readText path := by
  simp only [readText, find_withDatabases, entry?_withDatabases]

/-- Directories are made whatever the databases are. -/
theorem reach_withDatabases (h : Host) (dbs : List (Location × Database)) (place : Location)
    (components : List String) :
    (h.withDatabases dbs).reach place components
      = (h.reach place components).map fun r => (r.1.withDatabases dbs, r.2) := by
  induction components generalizing h place with
  | nil => rfl
  | cons c cs ih =>
    have hAdd : (h.withDatabases dbs).addDirectory (place ++ [c])
        = (h.addDirectory (place ++ [c])).withDatabases dbs := rfl
    simp only [reach, entry?_withDatabases, hAdd, ih]
    -- The component and what stands at the next place decide, and both hosts have the same there.
    split
    · rfl
    · split
      · rfl
      · split
        · rfl
        · split <;> rfl

theorem databases_reach {components : List String} {target : Location}
    (hReach : h.reach place components = some (h', target)) : h'.databases = h.databases := by
  -- The host is one with its own databases.
  have hOwn := reach_withDatabases h h.databases place components
  have hSelf : h.withDatabases h.databases = h := rfl
  rw [hSelf, hReach, Option.map_some, Option.some.injEq, Prod.mk.injEq] at hOwn
  rw [hOwn.1]
  rfl

theorem openDatabase_withDatabases (h : Host) (dbs : List (Location × Database)) (path : String) :
    (h.withDatabases dbs).openDatabase path
      = (h.openDatabase path).map fun r =>
          (r.1.withDatabases dbs, r.2.1, (h.withDatabases dbs).databaseAt r.2.1) := by
  unfold openDatabase
  split
  · rfl
  · split
    · rfl
    · have hStart : (h.withDatabases dbs).workingDirectory = h.workingDirectory := rfl
      simp only [hStart, reach_withDatabases]
      cases h.reach (if Path.isAbsolute path then [] else h.workingDirectory)
        (components path) <;> rfl

/-- What is opened is what the host has there. -/
theorem eq_databaseAt_of_openDatabase {path : String} {db : Database}
    (hOpen : h.openDatabase path = some (h', place, db)) : db = h.databaseAt place := by
  obtain ⟨-, -, hReach, rfl⟩ := openDatabase_eq_some_iff.1 hOpen
  rw [databaseAt, databases_reach hReach]

end Host

variable {h : Host} {env : Environment} {o : Options} {s : Settings}

theorem loadSettings_withDatabases (h : Host) (dbs : List (Location × Database)) (path : String) :
    loadSettings (h.withDatabases dbs) path = loadSettings h path := by
  simp only [loadSettings, Host.readText_withDatabases]

theorem defaultFile?_withDatabases (h : Host) (dbs : List (Location × Database))
    (env : Environment) : defaultFile? (h.withDatabases dbs) env = defaultFile? h env := by
  have hFile : (h.withDatabases dbs).isFile = h.isFile :=
    funext (Host.isFile_withDatabases h dbs)
  rw [defaultFile?, defaultFile?, hFile]

theorem settingsFor_withDatabases (h : Host) (dbs : List (Location × Database))
    (env : Environment) (o : Options) :
    settingsFor (h.withDatabases dbs) env o = settingsFor h env o := by
  simp only [settingsFor, defaultFile?_withDatabases, loadSettings_withDatabases]

/-! ## Stores that were opened -/

theorem openStore_withDatabases (h : Host) (dbs : List (Location × Database))
    (env : Environment) (s : Settings) :
    (openStore (h.withDatabases dbs) env s).place = (openStore h env s).place ∧
      (openStore (h.withDatabases dbs) env s).host
        = (openStore h env s).host.withDatabases dbs := by
  unfold openStore
  cases s.storage with
  | memory => exact ⟨rfl, rfl⟩
  | database =>
    cases databasePath? env s with
    | none => exact ⟨rfl, rfl⟩
    | some path =>
      simp only [Option.bind_some, Host.openDatabase_withDatabases]
      cases h.openDatabase path with
      | none => exact ⟨rfl, rfl⟩
      | some found => exact ⟨rfl, rfl⟩

/-- A store is a memory, or it is over the database that the host has at its place. -/
theorem openStore_cases (h : Host) (env : Environment) (s : Settings) :
    openStore h env s = ⟨h, { backend := .empty }, none⟩ ∨
      ∃ h' place, openStore h env s = ⟨h', storeOf (h.databaseAt place), some place⟩ := by
  cases hStorage : s.storage with
  | memory => exact .inl (by simp only [openStore, hStorage])
  | database =>
    cases hOpen : (databasePath? env s).bind h.openDatabase with
    | none =>
      -- What cannot be opened is replaced by a memory.
      exact .inl (by simp only [openStore, hStorage, hOpen])
    | some found =>
      obtain ⟨h', place, db⟩ := found
      obtain ⟨path, -, hFound⟩ := Option.bind_eq_some_iff.1 hOpen
      obtain rfl := Host.eq_databaseAt_of_openDatabase hFound
      exact .inr ⟨h', place, openStore_eq hStorage hOpen⟩

/-- A store that is closed leaves a database at most. -/
theorem exists_databases_close (opened : OpenStore) (store : Store) :
    ∃ dbs, opened.close store = opened.host.withDatabases dbs := by
  unfold OpenStore.close
  split
  · exact ⟨_, rfl⟩
  · exact ⟨_, rfl⟩

/-! ## Plans -/

/-- What a run does with the store that is opened for it. -/
structure Errand where
  key : String
  reset : Bool
  seeded : Bool
  command : Option String
  input : ByteArray

/-- The shell that an errand begins with. -/
def Errand.shell (e : Errand) (store : Store) (now : Instant) : Shell :=
  startShell store { key := e.key, seeded := e.seeded } e.reset now

/-- What a run is to do: to print an answer and no more, or to run an errand, over the
database at a place or in memory. -/
inductive Plan where
  | answer (r : Request)
  | refuse (why : SettingsError)
  | work (e : Errand) (place : Option Location)

/-- The errand of an invocation with its options and settings. -/
def Invocation.errand (i : Invocation) (o : Options) (s : Settings) : Errand where
  key := s.key
  reset := o.reset
  seeded := s.seeded
  command := o.command
  input := i.input

/-- What an invocation is to do on a host. -/
def Invocation.plan (h : Host) (i : Invocation) : Plan :=
  match Request.ofArguments i.arguments with
  | .run o =>
    match settingsFor h i.environment o with
    | .error why => .refuse why
    | .ok s => .work (i.errand o s) (openStore h i.environment s).place
  | r => .answer r

/-- **Plans** do not depend on the databases. -/
theorem plan_withDatabases (h : Host) (dbs : List (Location × Database)) (i : Invocation) :
    i.plan (h.withDatabases dbs) = i.plan h := by
  simp only [Invocation.plan, settingsFor_withDatabases, (openStore_withDatabases h dbs _ _).1]

variable {i : Invocation} {e : Errand} {place : Location}

theorem plan_eq_work {place : Option Location}
    (hOptions : Request.ofArguments i.arguments = .run o)
    (hSettings : settingsFor h i.environment o = .ok s)
    (hPlace : (openStore h i.environment s).place = place) :
    i.plan h = .work (i.errand o s) place := by
  simp only [Invocation.plan, hOptions, hSettings, hPlace]

/-! ## Runs with a plan -/

/-- What shows of a run: its exit code and what it prints. -/
def Exit.shown (exit : Exit) : Nat × Printed :=
  (exit.code, exit.printed)

variable {h' : Host} {i' : Invocation}

theorem request_of_answer {r : Request} (hPlan : i.plan h = .answer r) :
    Request.ofArguments i.arguments = r ∧ ∀ o, r ≠ .run o := by
  unfold Invocation.plan at hPlan
  split at hPlan
  · split at hPlan <;> contradiction
  · rename_i hNoRun
    obtain rfl := Plan.answer.inj hPlan
    exact ⟨rfl, hNoRun⟩

/-- An answer is that of the request, and leaves the host. -/
theorem run_of_answer {r : Request} (hPlan : i.plan h = .answer r)
    (hPlan' : i'.plan h' = .answer r) :
    (run h i).shown = (run h' i').shown ∧ (run h i).host = h ∧ (run h' i').host = h' := by
  obtain ⟨hRequest, hNoRun⟩ := request_of_answer hPlan
  obtain ⟨hRequest', -⟩ := request_of_answer hPlan'
  cases r with
  | run o => exact absurd rfl (hNoRun o)
  | help | version | misuse => simp [run, hRequest, hRequest', Exit.shown]

/-- Settings that could not be had are told, and the host is left. -/
theorem run_of_refuse {why : SettingsError} (hPlan : i.plan h = .refuse why) :
    run h i
      = { code := 2, printed := .err ("blogshell: " ++ why.message ++ "\n"), host := h } := by
  unfold Invocation.plan at hPlan
  split at hPlan
  · rename_i o hOptions
    split at hPlan
    · rename_i why' hSettings
      obtain rfl := Plan.refuse.inj hPlan
      simp only [run, hOptions, hSettings]
    · contradiction
  · contradiction

theorem exists_options_of_work {place : Option Location} (hPlan : i.plan h = .work e place) :
    ∃ o s, run h i = runWith h i o s ∧ e = i.errand o s ∧
      (openStore h i.environment s).place = place := by
  unfold Invocation.plan at hPlan
  split at hPlan
  · rename_i o hOptions
    split at hPlan
    · contradiction
    · rename_i s hSettings
      obtain ⟨rfl, rfl⟩ := Plan.work.inj hPlan
      exact ⟨o, s, run_eq_runWith hOptions hSettings, rfl, rfl⟩
  · contradiction

/-- An errand in memory leaves the host. -/
theorem run_of_memory (hPlan : i.plan h = .work e none) :
    let done := operate (e.shell { backend := .empty } i.now) i e.command
    (run h i).shown = (done.1, done.2.1) ∧ (run h i).host = h ∧ i.input = e.input := by
  intro done
  obtain ⟨o, s, hRun, rfl, hPlace⟩ := exists_options_of_work hPlan
  rcases openStore_cases h i.environment s with hOpen | ⟨h₁, place, hOpen⟩
  · rw [hRun, runWith, hOpen]
    exact ⟨rfl, rfl, rfl⟩
  · rw [hOpen] at hPlace
    contradiction

/-- An errand over a database leaves it to the host. -/
theorem run_of_place (hPlan : i.plan h = .work e (some place)) :
    let db := h.databaseAt place
    let done := operate (e.shell (storeOf db) i.now) i e.command
    (run h i).shown = (done.1, done.2.1) ∧
      (∃ h₁, (run h i).host = OpenStore.close ⟨h₁, storeOf db, some place⟩ done.2.2.fs.store) ∧
      i.input = e.input := by
  intro db done
  obtain ⟨o, s, hRun, rfl, hPlace⟩ := exists_options_of_work hPlan
  rcases openStore_cases h i.environment s with hOpen | ⟨h₁, place, hOpen⟩
  · rw [hOpen] at hPlace
    contradiction
  · rw [hOpen] at hPlace
    obtain rfl := Option.some.inj hPlace
    rw [hRun, runWith, hOpen]
    exact ⟨rfl, ⟨h₁, rfl⟩, rfl⟩

/-! ## Histories -/

/-- What shows of runs one after the other, each on the host that the one before left. -/
def shownRuns (h : Host) : List Invocation → List (Nat × Printed)
  | [] => []
  | i :: rest => (run h i).shown :: shownRuns (run h i).host rest

/-- What these runs are to do. -/
def plans (h : Host) : List Invocation → List Plan
  | [] => []
  | i :: rest => i.plan h :: plans (run h i).host rest

/-- A run leaves the files that opening its store left. -/
theorem exists_databases_runWith (h : Host) (i : Invocation) (o : Options) (s : Settings) :
    ∃ dbs, (runWith h i o s).host = (openStore h i.environment s).host.withDatabases dbs :=
  exists_databases_close _ _

theorem exists_databases_run (h : Host) (dbs : List (Location × Database)) (i : Invocation) :
    ∃ dbs', (run (h.withDatabases dbs) i).host = (run h i).host.withDatabases dbs' := by
  unfold run
  split
  · exact ⟨dbs, rfl⟩
  · exact ⟨dbs, rfl⟩
  · exact ⟨dbs, rfl⟩
  · rename_i o hOptions
    rw [settingsFor_withDatabases]
    split
    · exact ⟨dbs, rfl⟩
    · rename_i s hSettings
      -- Both runs leave the files of one opened store, each with databases of its own.
      obtain ⟨left, hLeft⟩ := exists_databases_runWith h i o s
      obtain ⟨left', hLeft'⟩ := exists_databases_runWith (h.withDatabases dbs) i o s
      rw [hLeft, hLeft', (openStore_withDatabases h dbs _ _).2]
      exact ⟨left', rfl⟩

/-- **Histories** of the same invocations have the same plans on hosts with the same files. -/
theorem plans_withDatabases (h : Host) (dbs : List (Location × Database))
    (is : List Invocation) : plans (h.withDatabases dbs) is = plans h is := by
  induction is generalizing h dbs with
  | nil => rfl
  | cons i rest ih =>
    obtain ⟨dbs', hHost⟩ := exists_databases_run h dbs i
    rw [plans, plans, plan_withDatabases, hHost, ih]

/-- The plans after a run are those on the host where its store was opened. -/
theorem plans_run (hOptions : Request.ofArguments i.arguments = .run o)
    (hSettings : settingsFor h i.environment o = .ok s) (is : List Invocation) :
    plans (run h i).host is = plans (openStore h i.environment s).host is := by
  obtain ⟨dbs, hHost⟩ := exists_databases_runWith h i o s
  rw [run_eq_runWith hOptions hSettings, hHost, plans_withDatabases]

end TreeShell.Launch
