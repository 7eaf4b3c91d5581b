import Mathlib.Tactic.Common
import TreeShell.Proofs.Launch.Host
import TreeShell.Proofs.Launch.Input
import TreeShell.Proofs.Launch.Options
import TreeShell.Proofs.Launch.Turn
import TreeShell.Proofs.Reopening

/-!
# A session and a run for each line

A session that is fed some lines, and runs of their own for these lines over the same host,
print the same between the prompts and leave trees that differ in instants only.  What a
session has in memory from one line to the next, a run finds in the database that the run
before it left: the store is current after every line, and a state is revived as it was saved,
or made anew when none was saved yet.  What a line opens is closed when it is printed.  The
session runs at one instant here; `Shell.Idle.converseInTime` shows that this makes no
difference.

## Layers

- `Serves`: a host that gives a run its settings and a database, and `Serves.keepDatabase`: so
  does the host that the run leaves;
- `Shell.OnDatabase`: a shell over a database, which holds what is revived in the next run
  (`OnDatabase.alike_revive`);
- `run_line`, `run_session`: runs over such a host;
- `agree_of_idle`: line by line, a session and the runs print and answer the same;
- `run_lineByLine`: the whole of a session.
-/

namespace TreeShell.Launch

open TreeShell.Command TreeShell.Store TreeShell.Time TreeShell.Tree

/-! ## Runs line by line -/

/-- The invocation of a run of its own for a line, at an instant of its own. -/
def Invocation.withLine (i : Invocation) (now : Instant) (line : String) : Invocation :=
  { i with arguments := "-c" :: line :: i.arguments, now }

/-- A run with the host it found. -/
structure HostedRun where
  before : Host
  exit : Exit

/-- One run for each line, on the host that the run before it left. -/
def runEach (h : Host) (i : Invocation) : List (Instant × String) → List HostedRun
  | [] => []
  | (now, line) :: rest =>
    let exit := run h (i.withLine now line)
    ⟨h, exit⟩ :: runEach exit.host i rest

/-- The host that is there after some runs. -/
def lastHost (h : Host) (runs : List HostedRun) : Host :=
  (runs.map (·.exit.host)).getLastD h

/-- The shell that a run without a reset begins with. -/
def shellOn (h : Host) (env : Environment) (s : Settings) (now : Instant) : Shell :=
  startShell (openStore h env s).store s false now

/-- What the lines of a session answer. -/
def answers (sh : Shell) (now : Instant) : List String → List (Option Result)
  | [] => []
  | line :: rest => (sh.submit now line).1 :: answers (turn sh now line).2 now rest

/-- The code of a run whose line answered this. -/
def codeOf (answer : Option Result) : Nat :=
  if answer.any Result.isError then 1 else 0

/-! ## Hosts that serve a run -/

/-- Whether an invocation asks for a session over a database that is neither reset nor
seeded. -/
structure Invocation.Asks (i : Invocation) (o : Options) (s : Settings) : Prop where
  options : Request.ofArguments i.arguments = .run o
  session : o.command = none
  reset : o.reset = false
  storage : s.storage = .database
  seeded : s.seeded = false

/-- Whether a host gives a run these settings and this database. -/
structure Serves (h : Host) (env : Environment) (o : Options) (s : Settings) (db : Database) :
    Prop where
  settings : settingsFor h env o = .ok s
  database : ∃ h' place, (databasePath? env s).bind h.openDatabase = some (h', place, db)

/-- A store over a database, where nothing fails. -/
def storeOf (db : Database) : Store :=
  { backend := .database db }

theorem works_storeOf (db : Database) : (storeOf db).Works :=
  ⟨rfl, fun _ => rfl⟩

/-- The shell that a run over a database begins with. -/
def freshShell (db : Database) (key : String) (now : Instant) : Shell :=
  .new (.openAt (storeOf db) key now)

variable {h h' : Host} {i : Invocation} {env : Environment} {o : Options} {s : Settings}
  {db db' : Database} {place : Location}

theorem openStore_eq (hStorage : s.storage = .database)
    (hOpen : (databasePath? env s).bind h.openDatabase = some (h', place, db)) :
    openStore h env s = ⟨h', storeOf db, some place⟩ := by
  simp only [openStore, hStorage, hOpen]
  rfl

theorem startShell_eq (hSeeded : s.seeded = false) (store : Store) (now : Instant) :
    startShell store s false now = .new (.openAt store s.key now) := by
  simp only [startShell, hSeeded, Bool.false_eq_true, if_false]

theorem shellOn_eq (hAsks : i.Asks o s) (hServes : Serves h env o s db) (now : Instant) :
    shellOn h env s now = freshShell db s.key now := by
  obtain ⟨h', place, hOpen⟩ := hServes.database
  rw [shellOn, openStore_eq hAsks.storage hOpen, startShell_eq hAsks.seeded, freshShell]

/-- The host that a run leaves serves the next one with the database that was left. -/
theorem Serves.keepDatabase (hServes : Serves h env o s db) (hSeeded : s.seeded = false)
    (hOpen : (databasePath? env s).bind h.openDatabase = some (h', place, db))
    (left : Database) : Serves (h'.keepDatabase place left) env o s left := by
  obtain ⟨path, hPath, hOpen⟩ := Option.bind_eq_some_iff.1 hOpen
  have hExtends : h.Extends (h'.keepDatabase place left) :=
    (Host.extends_openDatabase hOpen).trans (Host.extends_keepDatabase h' place left)
  exact ⟨hExtends.settingsFor hServes.settings hSeeded,
    h'.keepDatabase place left, place,
    Option.bind_eq_some_iff.2 ⟨path, hPath, Host.openDatabase_keepDatabase hOpen left⟩⟩

end TreeShell.Launch

/-! ## Shells over a database -/

namespace TreeShell.Shell

open TreeShell.Command TreeShell.Launch TreeShell.Store TreeShell.Time TreeShell.Tree

/-- Whether a shell was opened over a database and is still over one. -/
structure OnDatabase (db : Database) (key : String) (sh : Shell) : Prop where
  opened : sh.Opened (storeOf db) key
  backend : ∃ left, sh.fs.store.backend = .database left

variable {sh : Shell} {db left : Database} {key : String}

theorem onDatabase_freshShell (db : Database) (key : String) (now : Instant) :
    (freshShell db key now).OnDatabase db key :=
  ⟨opened_openAt (works_storeOf db) key now, db, rfl⟩

theorem exists_database_of_saves {goes : State → String → Prop} {now : Instant}
    {fs last : FileSystem} (h : fs.Saves goes now last)
    (hDatabase : ∃ db, fs.store.backend = .database db) :
    ∃ db, last.store.backend = .database db := by
  induction h with
  | still => exact hDatabase
  | @commit mid s _ _ ih =>
    obtain ⟨db, hBackend⟩ := ih
    rcases Store.backend_set mid.store mid.key s.save with hOld | hNew
    · exact ⟨db, hOld.trans hBackend⟩
    · exact ⟨db.setText mid.key s.save, by rw [FileSystem.commit, hNew, hBackend]; rfl⟩

theorem OnDatabase.act (h : sh.OnDatabase db key) {a : Action} (hUses : a.Uses key)
    (hInside : a.isOutside = false) (now : Instant) : (sh.act now a).2.OnDatabase db key :=
  ⟨h.opened.act hUses now,
    exists_database_of_saves (saves_act h.opened.registry hInside) h.backend⟩

theorem OnDatabase.printTurn (h : sh.OnDatabase db key) (line : String) (r : Result) :
    (Launch.printTurn sh line r).2.OnDatabase db key :=
  ⟨⟨h.opened.registry, h.opened.key, h.opened.settled⟩, h.backend⟩

theorem OnDatabase.alone (h : sh.OnDatabase db key) (now : Instant) (line : String) :
    (sh.alone now line).2.OnDatabase db key := by
  have hHandle : (sh.handle now line).2.OnDatabase db key :=
    h.act (a := .handle line) trivial rfl now
  exact hHandle.printTurn line (sh.handle now line).1

theorem OnDatabase.turn (h : sh.OnDatabase db key) (now : Instant) (line : String) :
    (Launch.turn sh now line).2.OnDatabase db key := by
  have hSubmit : (sh.submit now line).2.OnDatabase db key := by
    rw [← act_submit_snd]
    exact h.act (a := .submit line) trivial rfl now
  unfold Launch.turn
  revert hSubmit
  rcases sh.submit now line with ⟨_ | r, after⟩
  · exact fun hSubmit => hSubmit
  · exact fun hSubmit => hSubmit.printTurn line r

/-- A session stays over its database, whether or not it reads its input to the end. -/
theorem OnDatabase.converse_lines (h : sh.OnDatabase db key) (now : Instant)
    (lines : List (Option String)) : (Launch.converse sh now lines).2.OnDatabase db key := by
  induction lines generalizing sh with
  | nil => exact h
  | cons line rest ih =>
    cases line with
    | none => exact h
    | some line => exact ih (h.turn now line)

theorem OnDatabase.converse (h : sh.OnDatabase db key) (now : Instant) (lines : List String) :
    (Launch.converse sh now (lines.map some)).2.OnDatabase db key :=
  h.converse_lines now (lines.map some)

/-- A run of a line or of a session stays over its database. -/
theorem OnDatabase.operate (h : sh.OnDatabase db key) (i : Invocation) (command : Option String) :
    (Launch.operate sh i command).2.2.OnDatabase db key := by
  cases command with
  | none => exact h.converse_lines i.now (inputLines i.input)
  | some line => exact h.alone i.now line

/-- **What the next run revives** is the state of the shell, but for instants. -/
theorem OnDatabase.alike_revive (h : sh.OnDatabase db key)
    (hLeft : sh.fs.store.backend = .database left) (t : Instant) :
    sh.fs.state.Alike (FileSystem.revive (storeOf left) key t) := by
  have hReopen := (h.opened.settled.reopen t).2
  have hGet : sh.fs.store.get sh.fs.key = (storeOf left).get sh.fs.key := by
    rw [Store.get_of_readable h.opened.settled.works.reads, hLeft]
    rfl
  rw [← h.opened.key, ← FileSystem.revive_congr hGet]
  exact hReopen

end TreeShell.Shell

namespace TreeShell.Launch

open TreeShell.Command TreeShell.Store TreeShell.Time TreeShell.Tree

variable {h h' : Host} {i : Invocation} {o : Options} {s : Settings}
  {db : Database} {place : Location}

/-! ## Runs over a host that serves them -/

/-- A run that is neither reset nor seeded operates a fresh shell and keeps its database. -/
theorem run_eq {j : Invocation} (hOptions : Request.ofArguments j.arguments = .run o)
    (hReset : o.reset = false) (hStorage : s.storage = .database) (hSeeded : s.seeded = false)
    (hSettings : settingsFor h j.environment o = .ok s)
    (hOpen : (databasePath? j.environment s).bind h.openDatabase = some (h', place, db)) :
    let done := operate (freshShell db s.key j.now) j o.command
    (run h j).code = done.1 ∧ (run h j).printed = done.2.1 ∧
      (run h j).host = OpenStore.close ⟨h', storeOf db, some place⟩ done.2.2.fs.store := by
  intro done
  rw [run_eq_runWith hOptions hSettings, runWith, openStore_eq hStorage hOpen, hReset,
    startShell_eq hSeeded]
  exact ⟨rfl, rfl, rfl⟩

theorem close_eq {store : Store} {left : Database} (hLeft : store.backend = .database left) :
    OpenStore.close ⟨h', storeOf db, some place⟩ store = h'.keepDatabase place left := by
  simp only [OpenStore.close, hLeft]

theorem run_line (hAsks : i.Asks o s) (hServes : Serves h i.environment o s db)
    {line : String} (hLine : isValue line = true) (now : Instant) :
    let alone := (freshShell db s.key now).alone now line
    ∃ left, alone.2.fs.store.backend = .database left ∧
      Serves (run h (i.withLine now line)).host i.environment o s left ∧
      (run h (i.withLine now line)).printed = alone.1 ∧
      (run h (i.withLine now line)).code
        = if ((freshShell db s.key now).handle now line).1.isError then 1 else 0 := by
  intro alone
  obtain ⟨h', place, hOpen⟩ := hServes.database
  have hOptions : Request.ofArguments (i.withLine now line).arguments = .run (o.withLine line) :=
    Request.ofArguments_line hAsks.options hAsks.session hLine
  have hRun := run_eq (j := i.withLine now line) hOptions hAsks.reset hAsks.storage hAsks.seeded
    hServes.settings hOpen
  obtain ⟨left, hLeft⟩ := ((Shell.onDatabase_freshShell db s.key now).alone now line).backend
  refine ⟨left, hLeft, ?_, hRun.2.1, hRun.1⟩
  have hHost : (run h (i.withLine now line)).host = h'.keepDatabase place left :=
    hRun.2.2.trans (close_eq hLeft)
  rw [hHost]
  exact hServes.keepDatabase hAsks.seeded hOpen left

/-! ## Line by line -/

/-- The outputs of runs, each behind the prompt of the shell it begins with. -/
def transcript (i : Invocation) (s : Settings) (runs : List HostedRun) : String :=
  String.join (runs.map fun r =>
    (shellOn r.before i.environment s i.now).prompt ++ " " ++ r.exit.printed.output)

/-- Whether lines in a session come to what runs of their own come to: printed and answered
the same, and the states alike. -/
structure Agree (h : Host) (i : Invocation) (o : Options) (s : Settings) (sh : Shell)
    (lines : List (Instant × String)) : Prop where
  output : (converse sh i.now (lines.map fun e => some e.2)).1.output
    = transcript i s (runEach h i lines)
      ++ (shellOn (lastHost h (runEach h i lines)) i.environment s i.now).prompt ++ " \n"
  errors : (converse sh i.now (lines.map fun e => some e.2)).1.errors
    = String.join ((runEach h i lines).map (·.exit.printed.errors))
  codes : (runEach h i lines).map (·.exit.code)
    = (answers sh i.now (lines.map Prod.snd)).map codeOf
  left : ∃ left, Serves (lastHost h (runEach h i lines)) i.environment o s left ∧
    ∀ t, (converse sh i.now (lines.map fun e => some e.2)).2.fs.state.Alike
      (FileSystem.revive (storeOf left) s.key t)

theorem converse_cons (sh : Shell) (now : Instant) (line : String) (rest : List (Option String)) :
    converse sh now (some line :: rest)
      = (.out (sh.prompt ++ " ") ++ (turn sh now line).1
          ++ (converse (turn sh now line).2 now rest).1,
        (converse (turn sh now line).2 now rest).2) := rfl

theorem lastHost_cons (h : Host) (r : HostedRun) (runs : List HostedRun) :
    lastHost h (r :: runs) = lastHost r.exit.host runs := by
  rw [lastHost, List.map_cons, List.getLastD_cons, lastHost]

theorem agree_of_idle (hAsks : i.Asks o s) {lines : List (Instant × String)}
    (hLines : ∀ e ∈ lines, isValue e.2 = true) {sh : Shell}
    (hServes : Serves h i.environment o s db)
    (hIdle : ∀ t, sh.Idle (freshShell db s.key t)) : Agree h i o s sh lines := by
  -- Line by line; the next run begins with what the session has in memory.
  induction lines generalizing h db sh with
  | nil =>
    have hPrompt : (shellOn h i.environment s i.now).prompt = sh.prompt := by
      rw [shellOn_eq hAsks hServes]
      exact (hIdle i.now).looksAlike.prompt_eq.symm
    refine ⟨?_, ?_, rfl, db, hServes, fun t => (hIdle t).state⟩
    · simp [converse, transcript, runEach, lastHost, hPrompt, Printed.out]
    · simp [converse, runEach, Printed.out]
  | cons e rest ih =>
    obtain ⟨now, line⟩ := e
    obtain ⟨hLine, hRest⟩ := List.forall_mem_cons.1 hLines
    obtain ⟨left, hLeft, hNext, hPrinted, hCode⟩ := run_line hAsks hServes hLine now
    obtain ⟨hTurn, hAfter, hError⟩ := (hIdle now).turn i.now now line
    have hOn := (Shell.onDatabase_freshShell db s.key now).alone now line
    have hIdleNext : ∀ t, (turn sh i.now line).2.Idle (freshShell left s.key t) := fun t =>
      ⟨hAfter.registry, rfl, hAfter.closed, ⟨rfl, rfl⟩,
        hAfter.state.trans (hOn.alike_revive hLeft t)⟩
    have hAgree := ih hRest hNext hIdleNext
    have hPrompt : (shellOn h i.environment s i.now).prompt = sh.prompt := by
      rw [shellOn_eq hAsks hServes]
      exact (hIdle i.now).looksAlike.prompt_eq.symm
    refine ⟨?_, ?_, ?_, ?_⟩
    · rw [List.map_cons, converse_cons, runEach, lastHost_cons, transcript, List.map_cons,
        String.join_cons, hPrompt, hPrinted, ← hTurn, ← transcript]
      have hFirst : (Printed.out (sh.prompt ++ " ") ++ (turn sh i.now line).1
          ++ (converse (turn sh i.now line).2 i.now (rest.map fun e => some e.2)).1).output
          = sh.prompt ++ " " ++ (turn sh i.now line).1.output
            ++ (converse (turn sh i.now line).2 i.now (rest.map fun e => some e.2)).1.output := rfl
      rw [hFirst, hAgree.output]
      simp only [String.append_assoc]
    · rw [List.map_cons, converse_cons, runEach, List.map_cons, String.join_cons, hPrinted, ← hTurn,
        ← hAgree.errors]
      have hFirst : (Printed.out (sh.prompt ++ " ") ++ (turn sh i.now line).1
          ++ (converse (turn sh i.now line).2 i.now (rest.map fun e => some e.2)).1).errors
          = "" ++ (turn sh i.now line).1.errors
            ++ (converse (turn sh i.now line).2 i.now (rest.map fun e => some e.2)).1.errors := rfl
      rw [hFirst, String.empty_append]
    · rw [runEach, List.map_cons, List.map_cons, answers, List.map_cons, hAgree.codes, hCode,
        codeOf, hError]
    · rw [runEach, lastHost_cons]
      exact hAgree.left

/-! ## Sessions -/

/-- Whether a text can be typed as one line and be given as the value of an option. -/
structure IsOrder (line : String) : Prop extends IsLine line where
  dash : line.toList.head? ≠ some '-'

theorem IsOrder.isValue {line : String} (h : IsOrder line) : isValue line = true := by
  unfold Launch.isValue
  split
  · rename_i hDash
    refine absurd ?_ h.dash
    rw [hDash]
    rfl
  · rfl

theorem run_session (hAsks : i.Asks o s) (hServes : Serves h i.environment o s db)
    {lines : List String} (hLines : ∀ line ∈ lines, IsLine line) (hInput : i.input = typed lines) :
    let talk := converse (freshShell db s.key i.now) i.now (lines.map some)
    ∃ left, talk.2.fs.store.backend = .database left ∧
      Serves (run h i).host i.environment o s left ∧
      (run h i).printed = .out welcome ++ talk.1 ∧ (run h i).code = 0 := by
  intro talk
  obtain ⟨h', place, hOpen⟩ := hServes.database
  have hRun := run_eq hAsks.options hAsks.reset hAsks.storage hAsks.seeded hServes.settings hOpen
  rw [hAsks.session, operate, interact, hInput, inputLines_typed hLines] at hRun
  obtain ⟨left, hLeft⟩ :=
    ((Shell.onDatabase_freshShell db s.key i.now).converse i.now lines).backend
  refine ⟨left, hLeft, ?_, hRun.2.1, hRun.1⟩
  have hHost : (run h i).host = h'.keepDatabase place left := hRun.2.2.trans (close_eq hLeft)
  rw [hHost]
  exact hServes.keepDatabase hAsks.seeded hOpen left

/-- **A session and a run for each line are the same program.**  An invocation that neither
resets nor seeds its database, fed some lines, prints the welcome text, and for each line the
prompt of the state before it and what a run of its own prints for this line, and then the
prompt of the state at the end; its errors are those of the runs.  The runs are one after the
other on the host that the one before left, at any instants, and each exits with 1 when its
line is refused in the session and with 0 otherwise.  The hosts that the session and the last
run leave open to states that differ in instants only. -/
theorem run_lineByLine (hAsks : i.Asks o s) (hServes : Serves h i.environment o s db)
    {lines : List (Instant × String)} (hLines : ∀ e ∈ lines, IsOrder e.2)
    (hInput : i.input = typed (lines.map Prod.snd)) :
    let session := run h i
    let runs := runEach h i lines
    let last := lastHost h runs
    (session.code = 0 ∧
      session.printed.output = welcome ++ transcript i s runs
        ++ (shellOn last i.environment s i.now).prompt ++ " \n" ∧
      session.printed.errors = String.join (runs.map (·.exit.printed.errors))) ∧
    runs.map (·.exit.code)
      = (answers (shellOn h i.environment s i.now) i.now (lines.map Prod.snd)).map codeOf ∧
    ∀ t t', (shellOn session.host i.environment s t).fs.state.Alike
      (shellOn last i.environment s t').fs.state := by
  intro session runs last
  have hTyped : ∀ line ∈ lines.map Prod.snd, IsLine line := by
    intro line hMem
    obtain ⟨e, hEntry, rfl⟩ := List.mem_map.1 hMem
    exact (hLines e hEntry).toIsLine
  obtain ⟨left, hLeft, hHost, hPrinted, hCode⟩ := run_session hAsks hServes hTyped hInput
  -- Both begin with the same database, whose state is revived at each instant alike.
  have hIdle : ∀ t, (freshShell db s.key i.now).Idle (freshShell db s.key t) := fun t =>
    ⟨rfl, rfl, ⟨rfl, rfl⟩, ⟨rfl, rfl⟩, FileSystem.alike_revive (storeOf db) s.key i.now t⟩
  have hAgree : Agree h i o s (freshShell db s.key i.now) lines :=
    agree_of_idle hAsks (fun e hMem => (hLines e hMem).isValue) hServes hIdle
  rw [List.map_map] at hLeft hPrinted
  refine ⟨⟨hCode, ?_, ?_⟩, ?_, ?_⟩
  · have hOutput : session.printed.output = welcome
        ++ (converse (freshShell db s.key i.now) i.now (lines.map fun e => some e.2)).1.output :=
      congrArg Printed.output hPrinted
    rw [hOutput, hAgree.output]
    simp only [String.append_assoc]
    rfl
  · rw [← hAgree.errors]
    -- The welcome text is no error.
    exact (congrArg Printed.errors hPrinted).trans String.empty_append
  · rw [shellOn_eq hAsks hServes]
    exact hAgree.codes
  · intro t t'
    obtain ⟨leftAlone, hLast, hStates⟩ := hAgree.left
    have hTalk := (Shell.onDatabase_freshShell db s.key i.now).converse i.now (lines.map Prod.snd)
    rw [List.map_map] at hTalk
    rw [shellOn_eq hAsks hHost, shellOn_eq hAsks hLast]
    exact (hTalk.alike_revive hLeft t).symm.trans (hStates t')

/-- A host with a file of settings that turn the seeding off. -/
def unseededHost : Host where
  entries := [(["c"], .file "[seed]\nenabled = false\n".toUTF8)]
  databases := []
  workingDirectory := []

/-- Two lines, the first of which is refused. -/
def twoOrders : List (Instant × String) :=
  [(default, "cat b"), (default, "mkdir é")]

/-- A session over them. -/
def unseededSession : Invocation where
  arguments := ["--config", "/c", "--data-dir=/d"]
  environment := { home := "/h" }
  input := typed (twoOrders.map Prod.snd)
  now := default

theorem run_lineByLine_twoOrders :
    let o : Options := { settingsFile := some "/c", dataDirectory := some "/d" }
    let s : Settings := { path := some "/d", seeded := false }
    (unseededSession.Asks o s ∧ (∃ db, Serves unseededHost unseededSession.environment o s db) ∧
      (∀ e ∈ twoOrders, IsOrder e.2) ∧
      unseededSession.input = typed (twoOrders.map Prod.snd)) ∧
    (run unseededHost unseededSession).printed.errors
      = String.join ((runEach unseededHost unseededSession twoOrders).map
          (·.exit.printed.errors)) := by
  intro o s
  have hAsks : unseededSession.Asks o s := ⟨by decide +kernel, rfl, rfl, rfl, rfl⟩
  have hSettings : settingsFor unseededHost unseededSession.environment o = .ok s := by
    decide +kernel
  have hOpens : ((databasePath? unseededSession.environment s).bind
      unseededHost.openDatabase).isSome = true := by
    decide +kernel
  obtain ⟨⟨h', place, db⟩, hOpen⟩ := Option.isSome_iff_exists.1 hOpens
  have hServes : Serves unseededHost unseededSession.environment o s db :=
    ⟨hSettings, h', place, hOpen⟩
  have hLines : ∀ e ∈ twoOrders, IsOrder e.2 := by
    intro e hMem
    simp only [twoOrders, List.mem_cons, List.not_mem_nil, or_false] at hMem
    rcases hMem with rfl | rfl
    · exact ⟨⟨by decide, by decide⟩, by decide⟩
    · exact ⟨⟨by decide, by decide⟩, by decide⟩
  exact ⟨⟨hAsks, ⟨db, hServes⟩, hLines, rfl⟩, (run_lineByLine hAsks hServes hLines rfl).1.2.2⟩

end TreeShell.Launch
