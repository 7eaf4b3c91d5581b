import Mathlib.Data.List.Induction
import TreeShell.Proofs.Path.Resolve
import TreeShell.Proofs.Reopening
import TreeShell.Proofs.Tree.Directories

/-!
# The working directory

The working directory is a text, and nothing ties it to the tree: `cd` looks up what its
argument means from the old working directory, and sets the path without looking again.  As
the path is absolute, it means the same node from itself, so `cd` ends in a directory.  From
there on only `rm` can take this directory away, by its own path or by that of a directory
above it, until the next `cd`.

## Layers

- commands: what `cd` and `rm` do when they are not refused (`Command.run_cd`,
  `Command.run_rm`), and that all others leave every directory (`Command.grows_run`);
- actions: `Shell.course_act`, one of three courses for an action that runs a line or opens
  anew;
- runs: `Shell.located_play`, and what it says in full, `Shell.play_workingDirectory`.
-/

namespace TreeShell

open TreeShell.Command TreeShell.Path TreeShell.Text TreeShell.Time TreeShell.Tree

/-! ## Commands -/

namespace Command

variable {now : Instant} {args : List String} {fs : FileSystem}

/-- `cd` that is not refused goes to the root or to a directory that is there. -/
theorem run_cd (h : (cd.run now args fs).result.isError = false) :
    ∃ path, (cd.run now args fs).fs = fs.setCurrentPath path ∧
      (path = "/" ∨ ∃ arg, path = fs.resolve arg ∧
        (fs.node? path).any Node.isDirectory = true) := by
  cases args with
  | nil => exact ⟨"/", rfl, .inl rfl⟩
  | cons arg args =>
    simp only [cd] at h ⊢
    cases hNode : fs.node? (fs.resolve arg) with
    | none => simp [hNode, Outcome.still, Result.refuse] at h
    | some n =>
      simp only [hNode] at h ⊢
      cases hKind : n.isDirectory with
      | false => simp [hKind, Outcome.still, Result.refuse] at h
      | true => exact ⟨fs.resolve arg, rfl, .inr ⟨arg, rfl, by simp [hNode, hKind]⟩⟩

theorem ofChange_of_not_isError {change : Except Failure State} {refusal : String}
    (h : (Outcome.ofChange fs (fs.commit <$> change) refusal).result.isError = false) :
    ∃ s, change = .ok s ∧
      (Outcome.ofChange fs (fs.commit <$> change) refusal).fs = fs.commit s := by
  cases change with
  | error f => simp [Outcome.ofChange, Outcome.still, Result.refuse] at h
  | ok s => exact ⟨s, rfl, rfl⟩

/-- `rm` that is not refused takes away what its argument means. -/
theorem run_rm (h : (rm.run now args fs).result.isError = false) :
    ∃ target rest s, args = target :: rest ∧
      fs.state.delete now (fs.resolve target) = .ok s ∧ (rm.run now args fs).fs = fs.commit s := by
  cases args with
  | nil => simp [rm, Outcome.still, Result.refuse] at h
  | cons target rest =>
    obtain ⟨s, hDelete, hAfter⟩ := ofChange_of_not_isError h
    exact ⟨target, rest, s, rfl, hDelete, hAfter⟩

theorem grows_ofChange {change : Except Failure State} (refusal : String)
    (hGrows : ∀ s, change = .ok s → fs.state.Grows s) :
    fs.state.Grows (Outcome.ofChange fs (fs.commit <$> change) refusal).fs.state := by
  cases change with
  | error f => exact .refl fs.state
  | ok s => exact hGrows s rfl

/-- A command other than `cd` and `rm` leaves the working directory and all directories. -/
theorem grows_run {c : Command} (hc : c ∈ Registry.standard.commands) (hCd : c.name ≠ "cd")
    (hRm : c.name ≠ "rm") (now : Instant) (args : List String) (fs : FileSystem) :
    fs.state.Grows (c.run now args fs).fs.state := by
  rcases Registry.mem_standard hc with hChanging | hLooking
  · simp only [changing, List.mem_cons, List.not_mem_nil, or_false] at hChanging
    rcases hChanging with rfl | rfl | rfl | rfl | rfl
    · exact absurd rfl hCd
    · cases args with
      | nil => exact .refl fs.state
      | cons dir args => exact grows_ofChange _ fun _ => State.grows_insert
    · cases args with
      | nil => exact .refl fs.state
      | cons file args => exact grows_ofChange _ fun _ => State.grows_insert
    · exact absurd rfl hRm
    · simp only [echo]
      split
      · exact .refl fs.state
      · split
        · exact grows_ofChange _ fun _ => State.grows_write
        · exact grows_ofChange _ fun _ => State.grows_insert
  · -- What only looks saves nothing.
    obtain ⟨reply, hAllowed, hRun⟩ := replies_run hc now args fs.state
    rw [hRun fs rfl]
    cases hAllowed with
    | refuse text => exact .refl fs.state
    | save hWrites hStep => exact absurd hWrites (not_writes_of_looking hLooking args)
    | say text signals hLooks => exact .refl fs.state

end Command

/-! ## Lines -/

/-- Whether an action runs a line. -/
def Action.RunsLine (a : Action) (line : String) : Prop :=
  a = .handle line ∨ a = .submit line

namespace Shell

variable {sh : Shell} {now : Instant} {a : Action} {line name : String} {args : List String}

/-- Whether an action runs the command of a name with some arguments, and is not refused. -/
def Does (sh : Shell) (now : Instant) (a : Action) (name : String) (args : List String) : Prop :=
  ∃ line first, a.RunsLine line ∧ words line = first :: args ∧ toLower first = name ∧
    (sh.handle now line).1.isError = false

theorem fs_act_of_runsLine (h : a.RunsLine line) :
    (sh.act now a).2.fs = (sh.handle now line).2.fs := by
  rcases h with rfl | rfl
  · rfl
  · rw [act_submit_snd, submit]
    split
    · rename_i hBlank
      rw [handle, words_eq_nil_iff.2 hBlank]
    · rfl

/-- What does something has run the command of its name. -/
theorem Does.exists_run (h : sh.Does now a name args) (hRegistry : sh.registry = .standard) :
    ∃ c, Registry.standard.find? name = some c ∧ (c.run now args sh.fs).result.isError = false ∧
      (sh.act now a).2.fs = (c.run now args sh.fs).fs := by
  obtain ⟨line, first, hRuns, hWords, rfl, hDone⟩ := h
  rw [fs_act_of_runsLine hRuns]
  simp only [handle, hWords, hRegistry] at hDone ⊢
  cases hFind : Registry.standard.find? (toLower first) with
  | none => simp [hFind, notFound, Result.refuse] at hDone
  | some c =>
    simp only [hFind] at hDone ⊢
    exact ⟨c, rfl, hDone, rfl⟩

/-- A line that does nothing leaves the file system as it is. -/
theorem fs_act_eq_or_does (hRegistry : sh.registry = .standard) (hRuns : a.RunsLine line)
    (now : Instant) : (sh.act now a).2.fs = sh.fs ∨ ∃ name args, sh.Does now a name args := by
  cases hWords : words line with
  | nil =>
    refine .inl ?_
    rw [fs_act_of_runsLine hRuns, handle, hWords]
  | cons first args =>
    cases hError : (sh.handle now line).1.isError with
    | false => exact .inr ⟨toLower first, args, line, first, hRuns, hWords, rfl, hError⟩
    | true =>
      obtain ⟨reply, hAllowed, hHandle⟩ := replies_handle sh.fs.state now line
      rw [fs_act_of_runsLine hRuns]
      rw [hHandle sh hRegistry rfl] at hError ⊢
      cases hAllowed with
      | refuse text => exact .inl rfl
      | save => simp [settle, Reply.outcome, Result.silent] at hError
      | say => simp [settle, Reply.outcome, Result.say] at hError

/-! ## Courses -/

/-- What is wanted of the state for `cd` to end in a directory. -/
structure Placed (s : State) : Prop where
  isAbsolute : isAbsolute s.currentPath = true
  isDirectory : s.root.isDirectory = true

/-- Whether the working directory is a directory of the tree. -/
def IsHome (s : State) : Prop :=
  s.root.DirectoryAt (segments s.currentPath)

theorem Placed.isHome_iff {s : State} (h : Placed s) :
    IsHome s ↔ (s.node? s.currentPath).any Node.isDirectory = true := by
  rw [State.any_isDirectory_node?_iff, State.segments,
    absoluteSegments_of_isAbsolute h.isAbsolute, IsHome]

theorem Placed.grows {s s' : State} (h : Placed s) (hGrows : s.Grows s') : Placed s' where
  isAbsolute := hGrows.currentPath_eq ▸ h.isAbsolute
  isDirectory :=
    Node.directoryAt_nil.1 (hGrows.directoryAt [] (Node.directoryAt_nil.2 h.isDirectory))

theorem Placed.loses {s s' : State} {gone : List String} (h : Placed s)
    (hLoses : s.Loses gone s') : Placed s' where
  isAbsolute := hLoses.currentPath_eq ▸ h.isAbsolute
  isDirectory := by
    -- The root is not among what can be lost.
    have hApart : ¬ gone <+: [] := fun hPrefix => hLoses.gone_ne_nil (List.prefix_nil.1 hPrefix)
    exact Node.directoryAt_nil.1
      (hLoses.directoryAt [] (Node.directoryAt_nil.2 h.isDirectory) hApart)

theorem IsHome.grows {s s' : State} (h : IsHome s) (hGrows : s.Grows s') : IsHome s' := by
  rw [IsHome, hGrows.currentPath_eq]
  exact hGrows.directoryAt _ h

/-- What an action that runs a line or opens anew comes to: `cd` went to a directory, `rm` took
a node away, or no directory went away. -/
inductive Course (sh : Shell) (now : Instant) (a : Action) : State → Prop where
  | go {s' : State} {args : List String} (hDoes : sh.Does now a "cd" args) (hPlaced : Placed s')
      (hHome : IsHome s') : Course sh now a s'
  | lose {s' : State} {target : String} {rest : List String}
      (hDoes : sh.Does now a "rm" (target :: rest))
      (hLoses : sh.fs.state.Loses (sh.fs.state.segments (sh.fs.resolve target)) s')
      (hStays : ∀ args, ¬ sh.Does now a "cd" args) : Course sh now a s'
  | grow {s' : State} (hGrows : sh.fs.state.Grows s')
      (hStays : ∀ args, ¬ sh.Does now a "cd" args) : Course sh now a s'

theorem Course.of_does_cd (hDoes : sh.Does now a "cd" args) (hRegistry : sh.registry = .standard)
    (hPlaced : Placed sh.fs.state) : sh.Course now a (sh.act now a).2.fs.state := by
  obtain ⟨c, hFind, hDone, hAct⟩ := hDoes.exists_run hRegistry
  obtain rfl : cd = c := Option.some.inj hFind
  obtain ⟨path, hRun, hPath⟩ := run_cd hDone
  have hAfter : (sh.act now a).2.fs.state = sh.fs.state.setCurrentPath path := by
    rw [hAct, hRun]
    rfl
  rw [hAfter]
  rcases hPath with rfl | ⟨arg, rfl, hDirectory⟩
  · have hAbsolute : isAbsolute "/" = true := by decide
    have hRoot : segments "/" = [] := by decide
    refine .go hDoes ⟨hAbsolute, hPlaced.isDirectory⟩ ?_
    rw [IsHome, State.setCurrentPath, hRoot]
    exact Node.directoryAt_nil.2 hPlaced.isDirectory
  · -- The path is absolute, so it means from itself what it meant before.
    have hAbsolute : isAbsolute (sh.fs.resolve arg) = true :=
      isAbsolute_resolve hPlaced.isAbsolute arg
    have hThere : sh.fs.state.root.DirectoryAt (sh.fs.state.segments (sh.fs.resolve arg)) :=
      State.any_isDirectory_node?_iff.1 hDirectory
    rw [State.segments, absoluteSegments_of_isAbsolute hAbsolute] at hThere
    exact .go hDoes ⟨hAbsolute, hPlaced.isDirectory⟩ hThere

theorem Course.of_does_rm (hDoes : sh.Does now a "rm" args) (hRegistry : sh.registry = .standard)
    (hStays : ∀ args, ¬ sh.Does now a "cd" args) : sh.Course now a (sh.act now a).2.fs.state := by
  obtain ⟨c, hFind, hDone, hAct⟩ := hDoes.exists_run hRegistry
  obtain rfl : rm = c := Option.some.inj hFind
  obtain ⟨target, rest, s, rfl, hDelete, hRun⟩ := run_rm hDone
  have hAfter : (sh.act now a).2.fs.state = s := by
    rw [hAct, hRun]
    rfl
  rw [hAfter]
  exact .lose hDoes (State.loses_delete hDelete) hStays

theorem course_of_runsLine (hRegistry : sh.registry = .standard) (hPlaced : Placed sh.fs.state)
    (hRuns : a.RunsLine line) (now : Instant) :
    sh.Course now a (sh.act now a).2.fs.state := by
  by_cases hCd : ∃ args, sh.Does now a "cd" args
  · obtain ⟨args, hDoes⟩ := hCd
    exact .of_does_cd hDoes hRegistry hPlaced
  · have hStays : ∀ args, ¬ sh.Does now a "cd" args := not_exists.1 hCd
    rcases fs_act_eq_or_does hRegistry hRuns now with hSame | ⟨name, args, hDoes⟩
    · rw [hSame]
      exact .grow (.refl sh.fs.state) hStays
    · by_cases hRm : name = "rm"
      · subst hRm
        exact .of_does_rm hDoes hRegistry hStays
      · obtain ⟨c, hFind, -, hAct⟩ := hDoes.exists_run hRegistry
        have hName : c.name = name := Registry.name_of_find? hFind
        have hNotCd : c.name ≠ "cd" := by
          rintro hEq
          exact hStays args (hEq ▸ hName ▸ hDoes)
        rw [hAct]
        exact .grow (grows_run (Registry.mem_of_find? hFind) hNotCd (hName ▸ hRm) now args sh.fs)
          hStays

/-- Only `cd` sets the working directory. -/
theorem Course.does_cd_of_ne {s' : State} (h : sh.Course now a s')
    (hMoved : s'.currentPath ≠ sh.fs.state.currentPath) : ∃ args, sh.Does now a "cd" args := by
  cases h with
  | go hDoes => exact ⟨_, hDoes⟩
  | lose _ hLoses => exact absurd hLoses.currentPath_eq hMoved
  | grow hGrows => exact absurd hGrows.currentPath_eq hMoved

/-! ## Opening anew -/

theorem directoryAt_of_alike {s s' : State} (h : s.Alike s') {keys : List String}
    (hDirectory : s.root.DirectoryAt keys) : s'.root.DirectoryAt keys := by
  obtain ⟨m, hNode, hKind⟩ := hDirectory
  have hRoot : s.root.timeless = s'.root.timeless := congrArg State.root h.eq
  have hLookup : (s'.root.lookup? keys).map Node.timeless = some m.timeless := by
    have hTimeless := congrArg (·.lookup? keys) hRoot
    simp only [Node.timeless, Node.lookup?_retime, hNode] at hTimeless
    exact hTimeless.symm
  obtain ⟨m', hNode', hSame⟩ := Option.map_eq_some_iff.1 hLookup
  have hKind' : m'.timeless.isDirectory = m.timeless.isDirectory := congrArg _ hSame
  simp only [Node.timeless, Node.isDirectory_retime] at hKind'
  exact ⟨m', hNode', hKind'.trans hKind⟩

theorem grows_of_alike {s s' : State} (h : s.Alike s') : s.Grows s' :=
  ⟨h.currentPath_eq.symm, fun _ => directoryAt_of_alike h⟩

/-- The actions that run a line or open the file system anew under a key. -/
def RunsOrReopens (key : String) (a : Action) : Prop :=
  (∃ line, a.RunsLine line) ∨ a = .reopen key

theorem RunsOrReopens.uses {key : String} (h : RunsOrReopens key a) : a.Uses key := by
  rcases h with ⟨line, rfl | rfl⟩ | rfl
  · trivial
  · trivial
  · exact rfl

/-- **Courses**: an action that runs a line or opens anew follows one of the three. -/
theorem course_act {store : Store} {key : String} (hOpened : sh.Opened store key)
    (hPlaced : Placed sh.fs.state) (h : RunsOrReopens key a) (now : Instant) :
    sh.Course now a (sh.act now a).2.fs.state := by
  rcases h with ⟨line, hRuns⟩ | rfl
  · exact course_of_runsLine hOpened.registry hPlaced hRuns now
  · obtain rfl : sh.fs.key = key := hOpened.key
    refine .grow (grows_of_alike (hOpened.settled.reopen now).2) ?_
    rintro args ⟨line, first, hRuns | hRuns, -⟩ <;> contradiction

/-! ## Runs -/

theorem play_concat_snd (sh : Shell) (script : List (Instant × Action)) (now : Instant)
    (a : Action) : (sh.play (script ++ [(now, a)])).2 = ((sh.play script).2.act now a).2 := by
  induction script generalizing sh with
  | nil => rfl
  | cons entry script ih => exact ih (sh.act entry.1 entry.2).2

/-- Whether an action is an `rm` that takes away the node that some keys lead to, or one above
it. -/
def Removes (sh : Shell) (now : Instant) (a : Action) (keys : List String) : Prop :=
  ∃ target rest, sh.Does now a "rm" (target :: rest) ∧
    sh.fs.state.segments (sh.fs.resolve target) <+: keys ∧
    sh.fs.state.Loses (sh.fs.state.segments (sh.fs.resolve target)) (sh.act now a).2.fs.state

/-- Whether a script took away the node that some keys lead to, or one above it, and did no
`cd` after this. -/
def LostBy (sh : Shell) (script : List (Instant × Action)) (keys : List String) : Prop :=
  ∃ before now a after, script = before ++ (now, a) :: after ∧
    (sh.play before).2.Removes now a keys ∧
    ∀ between later b last, after = between ++ (later, b) :: last →
      ∀ args, ¬ (sh.play (before ++ (now, a) :: between)).2.Does later b "cd" args

theorem LostBy.concat {script : List (Instant × Action)} {keys : List String}
    (h : sh.LostBy script keys) (hStays : ∀ args, ¬ (sh.play script).2.Does now a "cd" args) :
    sh.LostBy (script ++ [(now, a)]) keys := by
  obtain ⟨before, lost, b, after, rfl, hLost, hNone⟩ := h
  refine ⟨before, lost, b, after ++ [(now, a)], by simp, hLost, ?_⟩
  intro between later c last hSplit
  -- The `cd` would be one of those before, or the last action.
  rcases List.eq_nil_or_concat' last with rfl | ⟨middle, entry, rfl⟩
  · obtain ⟨rfl, hEntry⟩ := List.append_inj' hSplit rfl
    obtain ⟨rfl, rfl⟩ : now = later ∧ a = c := by simpa using hEntry
    exact hStays
  · have hAfter : after ++ [(now, a)] = (between ++ (later, c) :: middle) ++ [entry] := by
      simpa using hSplit
    exact hNone between later c middle (List.append_inj' hAfter rfl).1

/-- What is known after a script of lines and reopenings. -/
structure Located (store : Store) (key : String) (sh : Shell) (script : List (Instant × Action)) :
    Prop where
  opened : (sh.play script).2.Opened store key
  placed : Placed (sh.play script).2.fs.state
  lost : ¬ IsHome (sh.play script).2.fs.state →
    sh.LostBy script (segments (sh.play script).2.fs.state.currentPath)

theorem Located.concat {store : Store} {key : String} {script : List (Instant × Action)}
    (h : Located store key sh script) (ha : RunsOrReopens key a) (now : Instant) :
    Located store key sh (script ++ [(now, a)]) := by
  have hOpened := h.opened.act ha.uses now
  have hCourse := course_act h.opened h.placed ha now
  rw [← play_concat_snd] at hOpened hCourse
  cases hCourse with
  | go _ hPlaced hHome => exact ⟨hOpened, hPlaced, fun hAway => absurd hHome hAway⟩
  | @lose target rest hDoes hLoses hStays =>
    refine ⟨hOpened, h.placed.loses hLoses, fun hAway => ?_⟩
    rw [hLoses.currentPath_eq]
    by_cases hAbove : (sh.play script).2.fs.state.segments ((sh.play script).2.fs.resolve target)
        <+: segments (sh.play script).2.fs.state.currentPath
    · rw [play_concat_snd] at hLoses
      exact ⟨script, now, a, [], rfl, ⟨target, rest, hDoes, hAbove, hLoses⟩, by simp⟩
    · -- Another directory was lost, so this one was away before.
      refine (h.lost fun hHome => hAway ?_).concat hStays
      rw [IsHome, hLoses.currentPath_eq]
      exact hLoses.directoryAt _ hHome hAbove
  | grow hGrows hStays =>
    refine ⟨hOpened, h.placed.grows hGrows, fun hAway => ?_⟩
    rw [hGrows.currentPath_eq]
    exact (h.lost fun hHome => hAway (hHome.grows hGrows)).concat hStays

/-- Where nothing is held, the initial tree is opened. -/
theorem state_openAt_of_nothing {store : Store} (hWorks : store.Works) {key : String}
    (hStore : store.backend.get key = .ok none) (start : Instant) :
    (FileSystem.openAt store key start).state = .initial start := by
  apply FileSystem.revive_of_not_holdsState
  rintro s ⟨text, hText, -⟩
  simp [Store.get_of_readable hWorks.reads, hStore] at hText

theorem located_play {store : Store} (hWorks : store.Works) {key : String}
    (hStore : store.backend.get key = .ok none) (start : Instant)
    {script : List (Instant × Action)} (hLines : ∀ e ∈ script, RunsOrReopens key e.2) :
    Located store key (Shell.new (.openAt store key start)) script := by
  -- From the first action on; the working directory may be lost by each and found by each.
  induction script using List.reverseRecOn with
  | nil =>
    have hState := state_openAt_of_nothing hWorks hStore start
    have hAbsolute : isAbsolute "/" = true := by decide
    have hPlaced : Placed (State.initial start) := ⟨hAbsolute, rfl⟩
    have hHome : IsHome (State.initial start) := by
      have hRoot : segments "/" = [] := by decide
      rw [IsHome, State.initial, hRoot]
      exact Node.directoryAt_nil.2 rfl
    refine ⟨opened_openAt hWorks key start, ?_, fun hAway => absurd ?_ hAway⟩
    · exact hState ▸ hPlaced
    · exact hState ▸ hHome
  | append_singleton script entry ih =>
    have hBefore := ih fun e hMem => hLines e (List.mem_append_left _ hMem)
    exact hBefore.concat (hLines entry (by simp)) entry.1

/-- **The working directory.**  Over a store that works and holds nothing under the key, a script
of lines and reopenings leaves an absolute working directory.  It has changed only where a `cd`
was not refused.  When it is not a directory of the tree, an `rm` took away the node that its
segments lead to or one above it, and no later `cd` was not refused.  As every beginning of a
script is a script, this holds after each of its actions. -/
theorem play_workingDirectory {store : Store} (hWorks : store.Works) {key : String}
    (hStore : store.backend.get key = .ok none) (start : Instant)
    {script : List (Instant × Action)} (hLines : ∀ e ∈ script, RunsOrReopens key e.2) :
    let sh := Shell.new (.openAt store key start)
    let last := (sh.play script).2.fs.state
    isAbsolute last.currentPath = true ∧
    (∀ before now a after, script = before ++ (now, a) :: after →
      (sh.play (before ++ [(now, a)])).2.fs.state.currentPath
          ≠ (sh.play before).2.fs.state.currentPath →
        ∃ args, (sh.play before).2.Does now a "cd" args) ∧
    ((last.node? last.currentPath).any Node.isDirectory = false →
      sh.LostBy script (segments last.currentPath)) := by
  intro sh last
  have hLocated : Located store key sh script := located_play hWorks hStore start hLines
  refine ⟨hLocated.placed.isAbsolute, ?_, ?_⟩
  · rintro before now a after rfl hMoved
    have hBefore : Located store key sh before :=
      located_play hWorks hStore start fun e hMem => hLines e (List.mem_append_left _ hMem)
    have hAction : RunsOrReopens key a := hLines (now, a) (by simp)
    rw [play_concat_snd] at hMoved
    exact (course_act hBefore.opened hBefore.placed hAction now).does_cd_of_ne hMoved
  · intro hAway
    apply hLocated.lost
    rw [hLocated.placed.isHome_iff]
    exact Bool.eq_false_iff.1 hAway

/-- A directory that is removed from within, by a path spelled otherwise. -/
def sawnOff : List (Instant × Action) :=
  [(default, .reopen "tree"), (default, .submit "mkdir a"), (default, .handle "CD a//"),
    (default, .submit "rm ../a"), (default, .submit "cd .")]

theorem play_workingDirectory_sawnOff :
    let sh := Shell.new (.openAt bareStore "tree" default)
    let last := (sh.play sawnOff).2.fs.state
    (bareStore.Works ∧ bareStore.backend.get "tree" = .ok none ∧
      ∀ e ∈ sawnOff, RunsOrReopens "tree" e.2) ∧
    (last.node? last.currentPath).any Node.isDirectory = false ∧
    sh.LostBy sawnOff (segments last.currentPath) := by
  have hWorks : bareStore.Works := ⟨rfl, fun _ => rfl⟩
  have hStore : bareStore.backend.get "tree" = .ok none := rfl
  have hLines : ∀ e ∈ sawnOff, RunsOrReopens "tree" e.2 := by
    simp [sawnOff, RunsOrReopens, Action.RunsLine]
  have hRun := play_workingDirectory hWorks hStore default hLines
  refine ⟨⟨hWorks, hStore, hLines⟩, ?_, hRun.2.2 ?_⟩
  · decide +kernel
  · decide +kernel

end Shell

end TreeShell
