import Std.Time.DateTime
import TreeShell.Launch.Run

/-!
# The program

The program looks at the machine's files where a run would look, opens the store that the
settings ask for, and then runs one line or holds a session with whoever types.  A
database is a directory with a file for every key; it is kept after every line.  The log
goes to the channel for errors.
-/

namespace TreeShell.Launch

open TreeShell.Log TreeShell.Store TreeShell.Time

/-! ## The machine -/

/-- The present. -/
def present : IO Instant := do
  let t := Std.Time.PlainDateTime.ofWallTime
    (.ofDuration (← Std.Time.Timestamp.now).toDurationSinceUnixEpoch)
  let now? := Instant.ofFields? t.date.year t.date.month.val.toNat t.date.day.val.toNat
    t.time.hour.val.toNat t.time.minute.val.toNat t.time.second.val.toNat
    t.time.nanosecond.val.toNat
  return now?.getD default

/-- The number of the account in the status of a process. -/
def accountIn? (status : String) : Option String :=
  (status.splitOn "\n").findSome? fun line =>
    match line.splitOn "\t" with
    | "Uid:" :: number :: _ => some number
    | _ => none

/-- The home directory of an account in a list of all, a line for each. -/
def homeIn? (accounts number : String) : Option String :=
  (accounts.splitOn "\n").findSome? fun line =>
    match line.splitOn ":" with
    | [_, _, other, _, _, home, _] => if other = number then some home else none
    | _ => none

/-- The home directory of the account that the process runs for. -/
def accountHome : IO (Option String) := do
  try
    let number := accountIn? (← IO.FS.readFile "/proc/self/status")
    let accounts ← IO.FS.readFile "/etc/passwd"
    return number.bind (homeIn? accounts)
  catch _ => return none

/-- The environment of the process. -/
def surroundings : IO Environment := do
  return {
    home := (← IO.getEnv "HOME").getD ""
    dataHome := ← IO.getEnv "XDG_DATA_HOME"
    configHome := ← IO.getEnv "XDG_CONFIG_HOME"
    accountHome := ← accountHome
    logFilter := ← IO.getEnv "RUST_LOG" }

/-- What stands at a place of the machine. -/
def entryAt (place : Location) : IO (Option Entry) := do
  try return some (.file (← IO.FS.readBinFile (Path.join place)))
  catch _ =>
    try
      discard <| IO.FS.realPath (Path.join place ++ "/.")
      return some .directory
    catch _ => return none

/-- The host with what stands along a path of the machine. -/
def look (h : Host) (path : String) : IO Host := do
  let start := if Path.isAbsolute path then [] else h.workingDirectory
  let mut h := h
  for place in Host.stops start (Host.components path) do
    if let some entry ← entryAt place then
      h := { h with entries := h.entries ++ [(place, entry)] }
  return h

/-- The host with what stands along a path of the machine, if one is given. -/
def lookIfGiven (h : Host) : Option String → IO Host
  | some path => look h path
  | none => pure h

/-- The machine at its working directory. -/
def machine : IO Host := do
  let here := (← IO.currentDir).toString
  look ⟨[], [], Path.segments here⟩ here

/-! ## Databases on the machine -/

/-- The file of a key in the directory of a database. -/
def keyFile (place : Location) (key : String) : String :=
  let digits := (keyBytes key).toList.flatMap fun b =>
    [Nat.digitChar (b.toNat / 16), Nat.digitChar (b.toNat % 16)]
  Path.join (place ++ ["key" ++ String.ofList digits])

/-- The database in a directory, as far as one key. -/
def readDatabase (place : Location) (key : String) : IO Database := do
  try return Table.put {} (keyBytes key) (← IO.FS.readBinFile (keyFile place key))
  catch _ => return {}

/-- Keeps what a store holds under a key.  A failure is forgotten, as it is by a file
system. -/
def keep (place : Option Location) (key : String) (store : Store) : IO Unit := do
  match place, store.backend with
  | some place, .database db =>
    if let some bytes := Table.get? db (keyBytes key) then
      try
        IO.FS.createDirAll (Path.join place)
        IO.FS.writeBinFile (keyFile place key) bytes
      catch _ => pure ()
  | _, _ => pure ()

/-- Opens the store that the settings ask for on the machine. -/
def openOnMachine (h : Host) (env : Environment) (s : Settings) : IO OpenStore := do
  match (databasePath? env s).bind h.openDatabase with
  | some (_, place, _) =>
    let db ← readDatabase place s.key
    return openStore { h with databases := [(place, db)] } env s
  | none => return openStore h env s

/-! ## Sessions on the machine -/

/-- Prints on both channels. -/
def Printed.print (p : Printed) : IO Unit := do
  IO.print p.output
  (← IO.getStdout).flush
  IO.eprint p.errors

/-- Writes what a filter shows of some events into the log. -/
def tell (filter : Filter) (events : List Event) : IO Unit := do
  for e in events.filter filter.shows do
    IO.eprintln e.record.line

/-- The next line of an input, if there is one, after the bytes of it that were read. -/
partial def nextLine (input : IO.FS.Stream) (read : List UInt8) :
    IO (Option InputLine) := do
  match (← input.read 1).toList with
  | [] => return if read.isEmpty then none else some ⟨read.reverse, false⟩
  | b :: _ => if b = 10 then return some ⟨read.reverse, true⟩ else nextLine input (b :: read)

/-- Prompts for lines and keeps the store after each, until the input ends or is no
text. -/
partial def hold (sh : Shell) (saved : Store → IO Unit) (filter : Filter) : IO Unit := do
  (Printed.out (sh.prompt ++ " ")).print
  match ← nextLine (← IO.getStdin) [] with
  | none => (Printed.out "\n").print
  | some bytes =>
    match bytes.text? with
    | none => (Printed.err notTextError).print
    | some line =>
      let now ← present
      let (printed, after) := turn sh now line
      tell filter (sh.lineEvents now line)
      saved after.fs.store
      printed.print
      hold after saved filter

/-- A run with understood options on the machine. -/
def runOnMachine (args : List String) (o : Options) : IO UInt32 := do
  let env ← surroundings
  let h ← lookIfGiven (← machine) (o.settingsFile.or env.settingsFile?)
  match settingsFor h env o with
  | .error _ =>
    let exit := run h ⟨args, env, .empty, ← present⟩
    exit.printed.print
    return exit.code.toUInt32
  | .ok s =>
    let filter := Filter.choose env.logFilter s.level
    let h ← lookIfGiven h (databasePath? env s)
    tell filter (openStoreEvents h env s)
    let opened ← openOnMachine h env s
    let now ← present
    let sh := startShell opened.store s o.reset now
    tell filter (startEvents opened.store s o.reset now)
    keep opened.place s.key sh.fs.store
    match o.command with
    | some line =>
      let (code, printed, after) := operate sh ⟨args, env, .empty, now⟩ (some line)
      tell filter (sh.lineEvents now line)
      keep opened.place s.key after.fs.store
      printed.print
      return code.toUInt32
    | none =>
      (Printed.out welcome).print
      hold sh (keep opened.place s.key) filter
      return 0

end TreeShell.Launch

/-- Runs the program on the machine. -/
def main (args : List String) : IO UInt32 := do
  match TreeShell.Launch.Request.ofArguments args with
  | .run o => TreeShell.Launch.runOnMachine args o
  | _ =>
    let env ← TreeShell.Launch.surroundings
    let exit := TreeShell.Launch.run ⟨[], [], []⟩ ⟨args, env, .empty, ← TreeShell.Launch.present⟩
    exit.printed.print
    return exit.code.toUInt32
