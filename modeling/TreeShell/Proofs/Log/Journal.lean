import Mathlib.Tactic.Common
import TreeShell.Proofs.Effect
import TreeShell.Proofs.Log.Levels

/-!
# The log is a journal of the tree

Every change that a run makes to its tree is told once, in order, and nothing is told that was
not done.  So the log of a run under the level `debug`, or under a higher one, leads from the
tree that was revived to the tree at the end; only where the working directory went is left
out.  A log without a change is that of a run that left the tree as it was.

## Layers

- `Event.Tells`: the change that an event tells of; `Journal`: changes one after the other,
  from a state to a state;
- `FileSystem.journal_changeEvents`, `FileSystem.journal_seedEvents`: operations and seeding;
- `Command.journal_run`, `Shell.journal_handle`, `Shell.journal_converse`: commands, lines and
  sessions;
- `journal_eventsWith`, `journal_logged`: runs, and what their logs show.
-/

namespace TreeShell.Log

open TreeShell.Time TreeShell.Tree

/-! ## Journals -/

/-- The changes among what is told. -/
def changes (told : List Event) : List Event :=
  told.filter Event.isChange

/-- Whether an event tells of the change from one state to another. -/
inductive Event.Tells (now : Instant) (s s' : State) : Event → Prop where
  | file {path content : String} (h : s.createFile now path content = .ok s') :
      Tells now s s' (.created .createFile path)
  | directory {path : String} (h : s.createDirectory now path = .ok s') :
      Tells now s s' (.created .createDirectory path)
  | removed {path : String} (h : s.delete now path = .ok s') : Tells now s s' (.removed path)
  | written {path content : String} (h : s.write now path content = .ok s') :
      Tells now s s' (.written path content.utf8ByteSize)
  | cleared (h : s' = .initial now) : Tells now s s' .cleared

/-- Whether events tell of the changes from one state to another, one after the other.  Going
to another working directory is no change to the tree. -/
inductive Journal (now : Instant) : State → List Event → State → Prop where
  | done (s : State) : Journal now s [] s
  | go {s s' : State} {es : List Event} (path : String)
      (rest : Journal now (s.setCurrentPath path) es s') : Journal now s es s'
  | change {s mid s' : State} {e : Event} {es : List Event} (h : e.Tells now s mid)
      (rest : Journal now mid es s') : Journal now s (e :: es) s'

namespace Journal

variable {now : Instant} {s mid s' : State} {e : Event} {es es' : List Event}

theorem trans (h : Journal now s es mid) (h' : Journal now mid es' s') :
    Journal now s (es ++ es') s' := by
  induction h with
  | done s => exact h'
  | go path _ ih => exact .go path (ih h')
  | change hTells _ ih => exact .change hTells (ih h')

theorem single (h : e.Tells now s s') : Journal now s [e] s' :=
  .change h (.done s')

/-- **Without an entry** the tree is as it was. -/
theorem root_eq (h : Journal now s [] s') : s'.root = s.root := by
  generalize hNone : ([] : List Event) = es at h
  induction h with
  | done s => rfl
  | go path _ ih => exact ih hNone
  | change => contradiction

end Journal

theorem Event.Tells.isChange {now : Instant} {s s' : State} {e : Event}
    (h : e.Tells now s s') : e.isChange = true := by
  cases h <;> rfl

theorem changes_append (told told' : List Event) :
    changes (told ++ told') = changes told ++ changes told' :=
  List.filter_append ..

end TreeShell.Log

namespace TreeShell

open TreeShell.Command TreeShell.Content TreeShell.Launch TreeShell.Log TreeShell.Text
  TreeShell.Time TreeShell.Tree

/-! ## Operations -/

namespace FileSystem

variable {fs : FileSystem} {now : Instant}

theorem changes_savingEvents (fs : FileSystem) : changes fs.savingEvents = [] := by
  unfold savingEvents
  cases fs.store.nextFault? <;> rfl

theorem changes_openingEvents (store : Store) (key : String) :
    changes (openingEvents store key) = [] := by
  unfold openingEvents
  split
  · split <;> rfl
  · rfl
  · rfl

/-- A change is told once, whatever is told of saving it. -/
theorem journal_commit {s : State} {e : Event} (hTells : e.Tells now fs.state s) :
    Journal now fs.state (changes (e :: fs.savingEvents)) (fs.commit s).state := by
  have hCons : changes (e :: fs.savingEvents) = e :: changes fs.savingEvents :=
    List.filter_cons_of_pos hTells.isChange
  rw [hCons, changes_savingEvents]
  exact .single hTells

/-- **Operations** are told when they are not refused. -/
theorem journal_changeEvents {change : Except Failure State} {e : Event}
    (hTells : ∀ s, change = .ok s → e.Tells now fs.state s) (refusal : String) :
    Journal now fs.state (changes (fs.changeEvents e (fs.commit <$> change)))
      (Outcome.ofChange fs (fs.commit <$> change) refusal).fs.state := by
  cases change with
  | error why => exact .done fs.state
  | ok s => exact journal_commit (hTells s rfl)

/-! ## Seeding -/

theorem journal_addPost (now : Instant) (progress : Nat × FileSystem) (post : Post) :
    Journal now progress.2.state (changes (addPostEvents now progress.2 post))
      (addPost now progress post).2.state := by
  obtain ⟨count, fs⟩ := progress
  simp only [addPostEvents, addPost]
  split
  · exact .done fs.state
  · simp only [createFile]
    cases hCreate : fs.state.createFile now (postPath post) post.content with
    | error why => exact .done fs.state
    | ok s => exact journal_commit (.file hCreate)

theorem journal_addPosts (now : Instant) (progress : Nat × FileSystem) (posts : List Post) :
    Journal now progress.2.state (changes (addPostsEvents now progress posts))
      (posts.foldl (addPost now) progress).2.state := by
  induction posts generalizing progress with
  | nil => exact .done progress.2.state
  | cons post posts ih =>
    rw [addPostsEvents, changes_append, List.foldl_cons]
    exact (journal_addPost now progress post).trans (ih (addPost now progress post))

/-- **Seeding** is told post by post; the number of posts is no change. -/
theorem journal_seedEvents (fs : FileSystem) (now : Instant) (posts : List Post) :
    Journal now fs.state (changes (fs.seedEvents now posts)) (fs.seed now posts).2.state := by
  have hCount : ∀ n, changes (if n = 0 then [] else [.seeded n]) = [] := by
    intro n
    split <;> rfl
  unfold seedEvents seed
  split
  · rw [changes_append, hCount, List.append_nil]
    exact journal_addPosts now (0, fs) posts
  · exact .done fs.state

end FileSystem

/-! ## Commands -/

namespace Command

variable {now : Instant} {fs : FileSystem}

/-- A command that only looks tells nothing. -/
theorem events_of_looking {c : Command} (hc : c ∈ looking) (now : Instant) (args : List String)
    (fs : FileSystem) : c.events now args fs = [] := by
  simp only [looking, List.mem_cons, List.not_mem_nil, or_false] at hc
  rcases hc with rfl | rfl | rfl | rfl | rfl | rfl | rfl | rfl <;> rfl

theorem fs_run_of_looking {c : Command} (hc : c ∈ looking)
    (hStandard : c ∈ Registry.standard.commands) (now : Instant) (args : List String)
    (fs : FileSystem) : (c.run now args fs).fs = fs := by
  obtain ⟨reply, hAllowed, hRun⟩ := replies_run hStandard now args fs.state
  rw [hRun fs rfl]
  cases hAllowed with
  | refuse text => rfl
  | save hWrites hStep => exact absurd hWrites (not_writes_of_looking hc args)
  | say text signals hLooks => rfl

theorem journal_cd (args : List String) :
    Journal now fs.state (changes (cd.events now args fs)) (cd.run now args fs).fs.state := by
  have hGo : ∀ path, Journal now fs.state [] (fs.setCurrentPath path).state :=
    fun path => .go path (.done _)
  cases args with
  | nil =>
    simp only [cd, FileSystem.changes_savingEvents]
    exact hGo "/"
  | cons arg args =>
    simp only [cd]
    cases hNode : fs.node? (fs.resolve arg) with
    | none => exact .done fs.state
    | some n =>
      cases hKind : n.isDirectory with
      | false => simpa [hKind, Outcome.still] using .done fs.state
      | true => simpa [hKind, FileSystem.changes_savingEvents] using hGo (fs.resolve arg)

theorem journal_mkdir (args : List String) :
    Journal now fs.state (changes (mkdir.events now args fs))
      (mkdir.run now args fs).fs.state := by
  cases args with
  | nil => exact .done fs.state
  | cons dir args => exact FileSystem.journal_changeEvents (fun _ h => .directory h) _

theorem journal_touch (args : List String) :
    Journal now fs.state (changes (touch.events now args fs))
      (touch.run now args fs).fs.state := by
  cases args with
  | nil => exact .done fs.state
  | cons file args => exact FileSystem.journal_changeEvents (fun _ h => .file h) _

theorem journal_rm (args : List String) :
    Journal now fs.state (changes (rm.events now args fs)) (rm.run now args fs).fs.state := by
  cases args with
  | nil => exact .done fs.state
  | cons target args =>
    -- Other than that of an operation elsewhere, the refusal of a removal is told.
    simp only [rm, FileSystem.delete]
    cases hDelete : fs.state.delete now (fs.resolve target) with
    | error why => exact .done fs.state
    | ok s => exact FileSystem.journal_commit (.removed hDelete)

theorem journal_echo (args : List String) :
    Journal now fs.state (changes (echo.events now args fs))
      (echo.run now args fs).fs.state := by
  simp only [echo]
  split
  · exact .done fs.state
  · split
    · exact FileSystem.journal_changeEvents (fun _ h => .written h) _
    · exact FileSystem.journal_changeEvents (fun _ h => .file h) _

/-- **Commands** tell of every change that they make. -/
theorem journal_run {c : Command} (hc : c ∈ Registry.standard.commands) (now : Instant)
    (args : List String) (fs : FileSystem) :
    Journal now fs.state (changes (c.events now args fs)) (c.run now args fs).fs.state := by
  rcases Registry.mem_standard hc with hChanging | hLooking
  · simp only [changing, List.mem_cons, List.not_mem_nil, or_false] at hChanging
    rcases hChanging with rfl | rfl | rfl | rfl | rfl
    · exact journal_cd args
    · exact journal_mkdir args
    · exact journal_touch args
    · exact journal_rm args
    · exact journal_echo args
  · rw [events_of_looking hLooking, fs_run_of_looking hLooking hc]
    exact .done fs.state

end Command

/-! ## Lines and sessions -/

namespace Shell

variable {sh : Shell}

/-- **Lines** tell of the changes of their command. -/
theorem journal_handle (hRegistry : sh.registry = .standard) (now : Instant) (line : String) :
    Journal now sh.fs.state (changes (sh.lineEvents now line))
      (sh.handle now line).2.fs.state := by
  simp only [lineEvents, handle, hRegistry]
  split
  · exact .done sh.fs.state
  · split
    · exact .done sh.fs.state
    · rename_i c hFind
      exact Command.journal_run (Registry.mem_of_find? hFind) now _ sh.fs

/-- Printing takes nothing from the file system and the commands. -/
theorem turn_keeps (sh : Shell) (now : Instant) (line : String) :
    (turn sh now line).2.fs = (sh.submit now line).2.fs ∧
      (turn sh now line).2.registry = (sh.submit now line).2.registry := by
  unfold turn
  rcases sh.submit now line with ⟨_ | r, after⟩ <;> exact ⟨rfl, rfl⟩

theorem fs_submit (sh : Shell) (now : Instant) (line : String) :
    (sh.submit now line).2.fs = (sh.handle now line).2.fs := by
  unfold submit
  split
  · rename_i hBlank
    -- A line of blanks, which is passed over, would have done nothing.
    rw [handle, words_eq_nil_iff.2 hBlank]
  · rfl

theorem registry_turn (sh : Shell) (now : Instant) (line : String) :
    (turn sh now line).2.registry = sh.registry := by
  rw [(turn_keeps sh now line).2, ← act_submit_snd, registry_act]

/-- **Sessions** tell of the changes of their lines. -/
theorem journal_converse (hRegistry : sh.registry = .standard) (now : Instant)
    (lines : List (Option String)) :
    Journal now sh.fs.state (changes (converseEvents sh now lines))
      (converse sh now lines).2.fs.state := by
  induction lines generalizing sh with
  | nil => exact .done sh.fs.state
  | cons line rest ih =>
    cases line with
    | none => exact .done sh.fs.state
    | some line =>
      have hLine := journal_handle hRegistry now line
      rw [← fs_submit, ← (turn_keeps sh now line).1] at hLine
      rw [converseEvents, changes_append]
      exact hLine.trans (ih ((registry_turn sh now line).trans hRegistry))

end Shell

/-! ## Runs -/

namespace Launch

/-- The state of the tree at the end of a run. -/
def lastState (h : Host) (i : Invocation) (o : Options) (s : Settings) : State :=
  let store := (openStore h i.environment s).store
  (operate (startShell store s o.reset i.now) i o.command).2.2.fs.state

theorem journal_startEvents (store : Store) (s : Settings) (reset : Bool) (now : Instant) :
    Journal now (FileSystem.revive store s.key now) (changes (startEvents store s reset now))
      (startShell store s reset now).fs.state := by
  have hReset : Journal now (FileSystem.revive store s.key now)
      (changes (if reset then
        .resetting :: .cleared :: (FileSystem.openAt store s.key now).savingEvents else []))
      (if reset then (FileSystem.openAt store s.key now).reset now
        else .openAt store s.key now).state := by
    cases reset with
    | false => exact .done _
    | true =>
      -- The announcement of a reset is no change yet.
      exact (FileSystem.openAt store s.key now).journal_commit (.cleared rfl)
  have hSeed : ∀ fs : FileSystem, Journal now fs.state
      (changes (if s.seeded then fs.seedEvents now Content.posts else []))
      (if s.seeded then (fs.seed now Content.posts).2 else fs).state := by
    intro fs
    split
    · exact fs.journal_seedEvents now Content.posts
    · exact .done fs.state
  simp only [startEvents, changes_append, FileSystem.changes_openingEvents, List.nil_append]
  exact hReset.trans (hSeed _)

theorem journal_operateEvents {sh : Shell} (hRegistry : sh.registry = .standard)
    (i : Invocation) (command : Option String) :
    Journal i.now sh.fs.state (changes (operateEvents sh i command))
      (operate sh i command).2.2.fs.state := by
  cases command with
  | some line => exact sh.journal_handle hRegistry i.now line
  | none => exact sh.journal_converse hRegistry i.now (inputLines i.input)

theorem changes_openStoreEvents (h : Host) (env : Environment) (s : Settings) :
    changes (openStoreEvents h env s) = [] := by
  unfold openStoreEvents
  split
  · rfl
  · rfl
  · split <;> rfl

theorem journal_eventsWith (h : Host) (i : Invocation) (o : Options) (s : Settings) :
    Journal i.now (FileSystem.revive (openStore h i.environment s).store s.key i.now)
      (changes (eventsWith h i o s)) (lastState h i o s) := by
  rw [eventsWith, changes_append, changes_append, changes_openStoreEvents, List.nil_append]
  exact (journal_startEvents _ s o.reset i.now).trans (journal_operateEvents rfl i o.command)

variable {h : Host} {i : Invocation} {o : Options} {s : Settings} {l : Level}

/-- **The log is a journal of the tree**: under a level from `debug` on, the changes that the
log of a run shows lead from the state that was revived to the state at the end. -/
theorem journal_logged (hOptions : Request.ofArguments i.arguments = .run o)
    (hSettings : settingsFor h i.environment o = .ok s)
    (hLevel : Level.debug.number ≤ l.number) :
    Journal i.now (FileSystem.revive (openStore h i.environment s).store s.key i.now)
      (changes (run h (i.logging (some l.name))).logged) (lastState h i o s) := by
  rw [logged_of_debug_le h i hLevel, told_eq hOptions hSettings]
  exact journal_eventsWith h i o s

/-- **A log without a change** is that of a run that leaves the tree as it was revived. -/
theorem root_lastState (hOptions : Request.ofArguments i.arguments = .run o)
    (hSettings : settingsFor h i.environment o = .ok s)
    (hLevel : Level.debug.number ≤ l.number)
    (hNone : ∀ e ∈ (run h (i.logging (some l.name))).logged, e.isChange = false) :
    (lastState h i o s).root
      = (FileSystem.revive (openStore h i.environment s).store s.key i.now).root := by
  have hJournal := journal_logged hOptions hSettings hLevel
  have hChanges : changes (run h (i.logging (some l.name))).logged = [] := by
    rw [changes, List.filter_eq_nil_iff]
    intro e hMem
    rw [hNone e hMem]
    exact Bool.false_ne_true
  rw [hChanges] at hJournal
  exact hJournal.root_eq

end Launch

end TreeShell
