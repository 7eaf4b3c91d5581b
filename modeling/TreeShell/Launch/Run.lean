import TreeShell.Launch.Host
import TreeShell.Launch.Options
import TreeShell.Launch.Terminal
import TreeShell.Log.Filter
import TreeShell.Seed

/-!
# Runs of the program

A run reads its options and settings, opens the file system of its database or one in
memory, resets and seeds it as it is told, and then runs one line or holds an interactive
session.  What it saved is left on the host, and what it tells of its work goes through
the log filter.
-/

namespace TreeShell.Launch

open TreeShell.Log TreeShell.Store TreeShell.Time

/-! ## Settings of a run -/

/-- Why settings could not be had. -/
inductive SettingsError where
  | unreadable (path : String) (why : AccessError)
  | invalid (why : Settings.Problem)
  | noDataDirectory
deriving DecidableEq, Repr

/-- The text of a settings error. -/
def SettingsError.message : SettingsError → String
  | .unreadable path why => "cannot read config file " ++ path ++ ": " ++ why.message
  | .invalid why => "invalid config: " ++ why.message
  | .noDataDirectory =>
    "could not determine a data directory; set storage.path or --data-dir"

/-- The settings in the file at a path. -/
def loadSettings (h : Host) (path : String) : Except SettingsError Settings :=
  match h.readText path with
  | .error why => .error (.unreadable path why)
  | .ok text => (Settings.ofText text).mapError .invalid

/-- The settings file that is read when none is asked for, if there is one. -/
def defaultFile? (h : Host) (env : Environment) : Option String :=
  env.settingsFile?.filter h.isFile

/-- The settings with what the options ask for in their place. -/
def Options.override (o : Options) (s : Settings) : Settings :=
  { s with
    path := o.dataDirectory.or s.path
    storage := if o.ephemeral then .memory else s.storage
    level := o.level.getD s.level }

/-- The settings of a run. -/
def settingsFor (h : Host) (env : Environment) (o : Options) :
    Except SettingsError Settings :=
  match o.settingsFile.or (defaultFile? h env) with
  | some path => o.override <$> loadSettings h path
  | none => .ok (o.override {})

/-! ## The store of a run -/

/-- A store with the place of its database on the host, if it has one. -/
structure OpenStore where
  host : Host
  store : Store
  place : Option Location

/-- The directory of a run's database, if there is one for its data. -/
def databasePath? (env : Environment) (s : Settings) : Option String :=
  (s.dataDirectory? env).map fun d => Path.below d "state"

/-- Opens the store that the settings ask for.  A database that cannot be opened is
replaced by a memory. -/
def openStore (h : Host) (env : Environment) (s : Settings) : OpenStore :=
  match s.storage with
  | .memory => ⟨h, { backend := .empty }, none⟩
  | .database =>
    match (databasePath? env s).bind h.openDatabase with
    | some (h, place, db) => ⟨h, { backend := .database db }, some place⟩
    | none => ⟨h, { backend := .empty }, none⟩

/-- What is told when a store is opened. -/
def openStoreEvents (h : Host) (env : Environment) (s : Settings) : List Event :=
  match s.storage, databasePath? env s with
  | .memory, _ => []
  | .database, none => [.unavailable SettingsError.noDataDirectory.message]
  | .database, some path =>
    if (h.openDatabase path).isSome then [] else [.unavailable Fault.backend.message]

/-- The host with what a store holds at the end. -/
def OpenStore.close (o : OpenStore) (store : Store) : Host :=
  match o.place, store.backend with
  | some place, .database db => o.host.keepDatabase place db
  | _, _ => o.host

/-- The shell that a run begins with. -/
def startShell (store : Store) (s : Settings) (reset : Bool) (now : Instant) : Shell :=
  let fs := FileSystem.openAt store s.key now
  let fs := if reset then fs.reset now else fs
  let fs := if s.seeded then (fs.seed now Content.posts).2 else fs
  .new fs

/-- What is told until the shell of a run begins. -/
def startEvents (store : Store) (s : Settings) (reset : Bool) (now : Instant) : List Event :=
  let fs := FileSystem.openAt store s.key now
  FileSystem.openingEvents store s.key
    ++ (if reset then .resetting :: .cleared :: fs.savingEvents else [])
    ++ if s.seeded then
      (if reset then fs.reset now else fs).seedEvents now Content.posts
    else []

/-! ## Runs -/

/-- What a run is given. -/
structure Invocation where
  arguments : List String
  environment : Environment
  input : ByteArray
  now : Instant

/-- What a run leaves. -/
structure Exit where
  code : Nat
  printed : Printed
  host : Host
  /-- What the log shows. -/
  logged : List Event := []

/-- Runs a line or an interactive session in a shell. -/
def operate (sh : Shell) (i : Invocation) : Option String → Nat × Printed × Shell
  | some line =>
    let (r, sh) := sh.handle i.now line
    let (printed, sh) := printTurn sh line r
    (if r.isError then 1 else 0, printed, sh)
  | none =>
    let (printed, sh) := interact sh i.now i.input
    (0, printed, sh)

/-- What is told of the lines of a run. -/
def operateEvents (sh : Shell) (i : Invocation) : Option String → List Event
  | some line => sh.lineEvents i.now line
  | none => converseEvents sh i.now (inputLines i.input)

/-- All that a run with understood options and settings tells. -/
def eventsWith (h : Host) (i : Invocation) (o : Options) (s : Settings) : List Event :=
  let store := (openStore h i.environment s).store
  openStoreEvents h i.environment s ++ startEvents store s o.reset i.now
    ++ operateEvents (startShell store s o.reset i.now) i o.command

/-- A run with understood options and settings. -/
def runWith (h : Host) (i : Invocation) (o : Options) (s : Settings) : Exit :=
  let opened := openStore h i.environment s
  let (code, printed, sh) := operate (startShell opened.store s o.reset i.now) i o.command
  let filter := Filter.choose i.environment.logFilter s.level
  { code, printed
    host := opened.close sh.fs.store
    logged := (eventsWith h i o s).filter filter.shows }

/-- A run of the program. -/
def run (h : Host) (i : Invocation) : Exit :=
  match Request.ofArguments i.arguments with
  | .help => { code := 0, printed := .out helpText, host := h }
  | .version => { code := 0, printed := .out versionText, host := h }
  | .misuse why => { code := 2, printed := .err why.message, host := h }
  | .run o =>
    match settingsFor h i.environment o with
    | .error why =>
      { code := 2, printed := .err ("blogshell: " ++ why.message ++ "\n"), host := h }
    | .ok s => runWith h i o s

end TreeShell.Launch
