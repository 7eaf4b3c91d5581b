import Mathlib.Tactic.Common
import TreeShell.Proofs.Launch.LineByLine

/-!
# Runs in memory leave no trace

A run that is asked to keep everything in memory leaves the host as it found it, whatever else
it is asked for: it makes no directory, and it neither reads a database nor leaves one.  So a
history of runs is the same with such runs inserted anywhere, as far as the other runs and the
host at the end can tell.

A run that has no home and is told of no directory keeps everything in memory, too, and says so
in its log.

## Layers

- `Options.give_ephemeral`, `keeps_argumentStep`, `Request.ephemeral_of_mem`: once `--ephemeral`
  was read, the options have it;
- `storage_of_settingsFor`: then the settings ask for memory;
- `host_runWith`, `host_run_of_inMemory`: and then the host is left;
- `host_runWith_of_homeless`: so it is by a run without a home;
- `history_insert_inMemory`: histories with such runs inserted.
-/

namespace TreeShell.Launch

/-! ## The option among the arguments -/

namespace Options

variable {o o' : Options} {value : String} {s : Sign}

theorem give_ephemeral (h : o.give value s = some o') : o'.ephemeral = o.ephemeral := by
  cases s with
  | command | settingsFile | dataDirectory | level =>
    obtain ⟨new, -, hEq⟩ := Option.bind_eq_some_iff.1 h
    obtain rfl := Option.some.inj hEq
    rfl
  | ephemeral | reset | help | version => simp [give] at h

theorem switch_ephemeral (h : o.switch s = some o') (hSet : o.ephemeral = true) :
    o'.ephemeral = true := by
  cases s with
  | ephemeral => simp [switch, hSet] at h
  | reset =>
    simp only [switch] at h
    split at h
    · contradiction
    · obtain rfl := Option.some.inj h
      exact hSet
  | command | settingsFile | dataDirectory | level | help | version => simp [switch] at h

end Options

/-- Whether a step with some options loses no ephemeral run. -/
inductive Step.Keeps (o : Options) : Step → Prop where
  | next {o' : Options} (h : o.ephemeral = true → o'.ephemeral = true) : Keeps o (.next o')
  | await (s : Sign) : Keeps o (.await o s)
  | stop {r : Request} (hStop : ∀ o', r ≠ .run o') : Keeps o (.stop r)

theorem keeps_give (o : Options) (value : String) (s : Sign) (why : Misuse) :
    Step.Keeps o (.ofOptions why (o.give value s)) := by
  cases hGive : o.give value s with
  | none => exact .stop (misuse_ne_run _)
  | some o' => exact .next fun hSet => (Options.give_ephemeral hGive).trans hSet

theorem keeps_switch (o : Options) (s : Sign) (why : Misuse) :
    Step.Keeps o (.ofOptions why (o.switch s)) := by
  cases hSwitch : o.switch s with
  | none => exact .stop (misuse_ne_run _)
  | some o' => exact .next (Options.switch_ephemeral hSwitch)

theorem keeps_longStep (o : Options) (name : String) (attached : Option String) :
    Step.Keeps o (longStep o name attached) := by
  unfold longStep
  cases Sign.named? name with
  | none => exact .stop (misuse_ne_run _)
  | some s =>
    cases attached with
    | some value =>
      cases hTakes : s.takesValue with
      | true => simpa [hTakes] using keeps_give o value s _
      | false => simpa [hTakes] using .stop (misuse_ne_run _)
    | none =>
      cases s with
      | help => exact .stop help_ne_run
      | version => exact .stop version_ne_run
      | command | settingsFile | dataDirectory | level => exact .await _
      | ephemeral | reset => exact keeps_switch o _ _

theorem keeps_shortStep (o : Options) (c : Char) (cs : List Char) :
    Step.Keeps o (shortStep o (c :: cs)) := by
  simp only [shortStep]
  cases Sign.lettered? c with
  | none => exact .stop (misuse_ne_run _)
  | some s =>
    have hLetter : Step.Keeps o
        (if cs.isEmpty then .await o s
          else .ofOptions (o.refusal s) (o.give (String.ofList (dropEquals cs)) s)) := by
      split
      · exact .await s
      · exact keeps_give o _ s _
    cases s with
    | help => exact .stop help_ne_run
    | version => exact .stop version_ne_run
    | _ => exact hLetter

theorem keeps_argumentStep (o : Options) (arg : String) :
    Step.Keeps o (argumentStep o arg) := by
  unfold argumentStep
  split
  · exact keeps_longStep o _ _
  · exact keeps_shortStep o _ _
  · exact .stop (misuse_ne_run _)

/-- The option itself is set, unless it was given before. -/
theorem argumentStep_ephemeral (o : Options) :
    argumentStep o "--ephemeral" = .next { o with ephemeral := true } ∨
      argumentStep o "--ephemeral" = .stop (.misuse (.repeated .ephemeral)) := by
  have hStep : argumentStep o "--ephemeral"
      = .ofOptions (o.refusal .ephemeral) (o.switch .ephemeral) := rfl
  rw [hStep, Options.switch]
  split
  · rename_i hGiven
    exact .inr (by simp only [Step.ofOptions, Options.refusal, Options.has, hGiven, if_true])
  · exact .inl rfl

/-- **Arguments** with `--ephemeral` among them ask for no run but an ephemeral one, wherever
it stands. -/
theorem ephemeral_of_readArguments {o o' : Options} {awaited : Option Sign}
    {args : List String} (h : readArguments o awaited args = .run o')
    (hAsked : o.ephemeral = true ∨ "--ephemeral" ∈ args) : o'.ephemeral = true := by
  -- Argument by argument: the option was read before, or it stands among those left.
  induction args generalizing o awaited with
  | nil =>
    cases awaited with
    | none =>
      obtain rfl := Request.run.inj h
      simpa using hAsked
    | some s => contradiction
  | cons arg args ih =>
    cases awaited with
    | some s =>
      simp only [readArguments] at h
      split at h
      · rename_i hValue
        cases hGive : o.give arg s with
        | none => simp [hGive] at h
        | some next =>
          simp only [hGive] at h
          -- It begins with a dash, so it is no value.
          have hOther : "--ephemeral" ≠ arg := by
            rintro rfl
            exact absurd hValue (by decide)
          apply ih h
          simpa [Options.give_ephemeral hGive, hOther] using hAsked
      · contradiction
    | none =>
      simp only [readArguments] at h
      split at h
      · rename_i hDashes
        split at h
        · obtain rfl := Request.run.inj h
          simpa [hDashes] using hAsked
        · contradiction
      · by_cases hOption : arg = "--ephemeral"
        · subst hOption
          rcases argumentStep_ephemeral o with hStep | hStep
          · simp only [hStep] at h
            exact ih h (.inl rfl)
          · simp [hStep] at h
        · have hLeft : o.ephemeral = true ∨ "--ephemeral" ∈ args := by
            simpa [Ne.symm hOption] using hAsked
          have hStep := keeps_argumentStep o arg
          revert hStep h
          generalize argumentStep o arg = step
          intro h hStep
          cases hStep with
          | next hKeeps => exact ih h (hLeft.imp_left hKeeps)
          | await s => exact ih h hLeft
          | stop hStop => exact absurd h (hStop o')

theorem Request.ephemeral_of_mem {o : Options} {args : List String}
    (h : Request.ofArguments args = .run o) (hMem : "--ephemeral" ∈ args) : o.ephemeral = true :=
  ephemeral_of_readArguments h (.inr hMem)

/-! ## Runs in memory -/

/-- The settings of an ephemeral run ask for memory, whatever a settings file says. -/
theorem storage_of_settingsFor {h : Host} {env : Environment} {o : Options} {s : Settings}
    (hSettings : settingsFor h env o = .ok s) (hEphemeral : o.ephemeral = true) :
    s.storage = .memory := by
  have hOverride : ∀ s : Settings, (o.override s).storage = .memory := fun s => if_pos hEphemeral
  unfold settingsFor at hSettings
  split at hSettings
  · rename_i path _
    cases hLoad : loadSettings h path with
    | error e => simp [hLoad] at hSettings
    | ok loaded =>
      rw [hLoad] at hSettings
      obtain rfl := Except.ok.inj hSettings
      exact hOverride loaded
  · obtain rfl := Except.ok.inj hSettings
    exact hOverride {}

/-- Whether a run is asked to keep everything in memory: by its arguments, or by the settings
that it finds. -/
def Invocation.InMemory (h : Host) (i : Invocation) : Prop :=
  "--ephemeral" ∈ i.arguments ∨
    ∃ o s, Request.ofArguments i.arguments = .run o ∧ settingsFor h i.environment o = .ok s ∧
      s.storage = .memory

/-- A memory has no place on the host, so that nothing is left there. -/
theorem host_runWith_of_openStore {h : Host} {i : Invocation} {s : Settings}
    (hOpen : openStore h i.environment s = ⟨h, { backend := .empty }, none⟩) (o : Options) :
    (runWith h i o s).host = h := by
  simp only [runWith, hOpen]
  rfl

theorem host_runWith {s : Settings} (hStorage : s.storage = .memory) (h : Host) (i : Invocation)
    (o : Options) : (runWith h i o s).host = h :=
  host_runWith_of_openStore (by simp only [openStore, hStorage]) o

/-- **Without a home** and without a directory in its settings, a run that asks for a database
has none, leaves the host, and tells that it has none. -/
theorem host_runWith_of_homeless {s : Settings} {i : Invocation}
    (hHome : i.environment.homeDirectory? = none) (hPath : s.path = none)
    (hStorage : s.storage = .database) (h : Host) (o : Options) :
    (runWith h i o s).host = h ∧
      .unavailable SettingsError.noDataDirectory.message ∈ eventsWith h i o s := by
  have hNowhere : databasePath? i.environment s = none := by
    simp [databasePath?, Settings.dataDirectory?, Environment.dataDirectory?,
      Environment.directory?, hHome, hPath]
  refine ⟨host_runWith_of_openStore (by simp only [openStore, hStorage, hNowhere]; rfl) o, ?_⟩
  simp [eventsWith, openStoreEvents, hStorage, hNowhere]

/-- **A run in memory** leaves the host as it was, with every database. -/
theorem host_run_of_inMemory {h : Host} {i : Invocation} (hMemory : i.InMemory h) :
    (run h i).host = h := by
  unfold run
  split
  · rfl
  · rfl
  · rfl
  · rename_i o hRequest
    split
    · rfl
    · rename_i s hSettings
      apply host_runWith
      rcases hMemory with hMem | ⟨o', s', hRequest', hSettings', hStorage⟩
      · exact storage_of_settingsFor hSettings (Request.ephemeral_of_mem hRequest hMem)
      · obtain rfl := Request.run.inj (hRequest'.symm.trans hRequest)
        obtain rfl := Except.ok.inj (hSettings'.symm.trans hSettings)
        exact hStorage

/-! ## Histories -/

namespace Host

/-- A host with files laid out on it, in front of those that are there. -/
def lay (h : Host) (files : List (Location × Entry)) : Host :=
  { h with entries := files ++ h.entries }

/-- A host with some files taken away again that were laid out. -/
def lift (h : Host) (files : List (Location × Entry)) : Host :=
  { h with entries := h.entries.drop files.length }

theorem lift_lay (h : Host) (files : List (Location × Entry)) : (h.lay files).lift files = h := by
  simp [lay, lift]

end Host

/-- A run in a history: what it is given, the configuration files that are there for it, and
whether it was inserted. -/
structure Visit where
  files : List (Location × Entry)
  invocation : Invocation
  inserted : Bool

/-- The run of a visit. -/
def Visit.exit (v : Visit) (h : Host) : Exit :=
  let exit := run (h.lay v.files) v.invocation
  { exit with host := exit.host.lift v.files }

/-- The runs of a history, each with the host that the one before left. -/
def history (h : Host) : List Visit → List (Visit × HostedRun)
  | [] => []
  | v :: rest => (v, ⟨h, v.exit h⟩) :: history (v.exit h).host rest

theorem host_exit_of_inMemory {v : Visit} {h : Host}
    (hMemory : v.invocation.InMemory (h.lay v.files)) : (v.exit h).host = h := by
  simp only [Visit.exit, host_run_of_inMemory hMemory, Host.lift_lay]

/-- **Runs in memory leave no trace**: inserted into a history at any points, they change
nothing of the other runs, neither the host that these find and leave nor their exit code nor
what they print, and nothing of the host at the end. -/
theorem history_insert_inMemory (h : Host) (visits : List Visit)
    (hMemory : ∀ e ∈ history h visits,
      e.1.inserted = true → e.1.invocation.InMemory (e.2.before.lay e.1.files)) :
    let others := visits.filter fun v => !v.inserted
    (history h visits).filter (fun e => !e.1.inserted) = history h others ∧
      lastHost h ((history h visits).map Prod.snd)
        = lastHost h ((history h others).map Prod.snd) := by
  induction visits generalizing h with
  | nil => exact ⟨rfl, rfl⟩
  | cons v rest ih =>
    have hRest := ih (v.exit h).host fun e hMem => hMemory e (List.mem_cons_of_mem _ hMem)
    cases hInserted : v.inserted with
    | true =>
      -- The rest of the history goes on from the host that this run found.
      have hHost : (v.exit h).host = h :=
        host_exit_of_inMemory (hMemory _ List.mem_cons_self hInserted)
      rw [hHost] at hRest
      simpa [history, hInserted, lastHost_cons, hHost] using hRest
    | false => simpa [history, hInserted, lastHost_cons] using hRest

/-- Two runs on a database, with a run before each that is to leave no trace. -/
def watchedHistory : List Visit :=
  let onDatabase (line : String) : List String :=
    ["--config", "/c", "--data-dir=/d", "-c", line]
  let asked (arguments : List String) : Invocation :=
    { arguments, environment := { home := "/h" }, input := .empty, now := default }
  let memoryFile : Location × Entry := (["m"], .file "[storage]\nbackend = 'memory'\n".toUTF8)
  [{ files := [memoryFile], invocation := asked ["--config=/m", "--reset"], inserted := true },
    { files := [], invocation := asked (onDatabase "mkdir a"), inserted := false },
    { files := [], invocation := asked (onDatabase "rm a" ++ ["--ephemeral"]), inserted := true },
    { files := [], invocation := asked (onDatabase "ls"), inserted := false }]

theorem history_insert_inMemory_watched :
    (∀ e ∈ history unseededHost watchedHistory,
      e.1.inserted = true → e.1.invocation.InMemory (e.2.before.lay e.1.files)) ∧
    (history unseededHost watchedHistory).filter (fun e => !e.1.inserted)
      = history unseededHost (watchedHistory.filter fun v => !v.inserted) := by
  have hMemory : ∀ e ∈ history unseededHost watchedHistory,
      e.1.inserted = true → e.1.invocation.InMemory (e.2.before.lay e.1.files) := by
    intro e hMem hInserted
    simp only [watchedHistory, history, List.mem_cons, List.not_mem_nil, or_false] at hMem
    rcases hMem with rfl | rfl | rfl | rfl
    · -- The settings file that is laid out asks for memory.
      right
      exact ⟨{ settingsFile := some "/m", reset := true }, { storage := .memory },
        by decide +kernel, by decide +kernel, rfl⟩
    · contradiction
    · left
      simp
    · contradiction
  exact ⟨hMemory, (history_insert_inMemory unseededHost watchedHistory hMemory).1⟩

end TreeShell.Launch
