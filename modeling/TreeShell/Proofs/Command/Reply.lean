import Mathlib.Tactic.Common
import TreeShell.Command.Registry
import TreeShell.Proofs.Tree.Step

/-!
# What a command makes of a state

A command looks at the state of a file system and at nothing below it.  What it makes of a
state is one of three things (`Reply`): it is refused and has done nothing; it takes one
step, saves it and prints nothing; or it prints a text and changes nothing.  Its name and its
arguments tell beforehand which of the last two it can be.

Everything else about commands follows by cases on the reply, without a look at their
definitions.

Main statement: `Command.replies_run`.
-/

namespace TreeShell

open TreeShell.Command TreeShell.Time TreeShell.Tree

/-- The working directories that a line may set: the root, and what an argument means. -/
def FileSystem.LineGoes (s : State) (path : String) : Prop :=
  path = "/" ∨ ∃ arg, path = Path.resolve s.currentPath arg

theorem FileSystem.resolve_of_state {fs : FileSystem} {s : State} (h : fs.state = s)
    (arg : String) : fs.resolve arg = Path.resolve s.currentPath arg := by
  rw [FileSystem.resolve, FileSystem.currentPath, h]

theorem FileSystem.read_of_state {fs : FileSystem} {s : State} (h : fs.state = s)
    (arg : String) : fs.read (fs.resolve arg) = s.read (Path.resolve s.currentPath arg) := by
  rw [FileSystem.read, FileSystem.resolve_of_state h, h]

namespace Command

/-! ## Replies -/

/-- What a command makes of a state. -/
inductive Reply where
  | refuse (text : String)
  | save (s : State)
  | say (text : String) (signals : List Signal)

/-- What comes of a reply in a file system. -/
def Reply.outcome (fs : FileSystem) : Reply → Outcome
  | .refuse text => .still fs (.refuse text)
  | .save s => { result := .silent, fs := fs.commit s }
  | .say text signals => { result := .say text, fs, signals }

/-- Whether a command of this name, with these arguments, saves when it is not refused. -/
def Writes (name : String) (args : List String) : Prop :=
  name ∈ ["cd", "touch", "mkdir", "rm"] ∨
    (name = "echo" ∧ (Redirect.parse? (" ".intercalate args)).isSome = true)

/-- Whether a reply is a refusal, or one step where something is to be written, or a text
where nothing is. -/
inductive Reply.Allowed (writes : Prop) (now : Instant) (s : State) : Reply → Prop where
  | refuse (text : String) : Allowed writes now s (.refuse text)
  | save {s' : State} (hWrites : writes)
      (hStep : s.Step (FileSystem.LineGoes s) now s') : Allowed writes now s (.save s')
  | say (text : String) (signals : List Signal) (hLooks : ¬ writes) :
      Allowed writes now s (.say text signals)

theorem Reply.Allowed.congr {writes writes' : Prop} {now : Instant} {s : State} {reply : Reply}
    (h : reply.Allowed writes now s) (hIff : writes ↔ writes') : reply.Allowed writes' now s := by
  cases h with
  | refuse text => exact .refuse text
  | save hWrites hStep => exact .save (hIff.1 hWrites) hStep
  | say text signals hLooks => exact .say text signals fun hWrites => hLooks (hIff.2 hWrites)

/-- Whether a command gives one reply, an allowed one, in all file systems in a state. -/
def Replies (c : Command) (now : Instant) (args : List String) (s : State) : Prop :=
  ∃ reply : Reply, reply.Allowed (Writes c.name args) now s ∧
    ∀ fs : FileSystem, fs.state = s → c.run now args fs = reply.outcome fs

variable {c : Command} {now : Instant} {args : List String} {s : State}

theorem Replies.refuse {text : String}
    (h : ∀ fs : FileSystem, fs.state = s → c.run now args fs = .still fs (.refuse text)) :
    c.Replies now args s :=
  ⟨.refuse text, .refuse text, h⟩

theorem Replies.save {s' : State} (hWrites : Writes c.name args)
    (hStep : s.Step (FileSystem.LineGoes s) now s')
    (h : ∀ fs : FileSystem, fs.state = s →
      c.run now args fs = { result := .silent, fs := fs.commit s' }) :
    c.Replies now args s :=
  ⟨.save s', .save hWrites hStep, h⟩

theorem Replies.say {text : String} {signals : List Signal} (hLooks : ¬ Writes c.name args)
    (h : ∀ fs : FileSystem, fs.state = s →
      c.run now args fs = { result := .say text, fs, signals }) :
    c.Replies now args s :=
  ⟨.say text signals, .say text signals hLooks, h⟩

/-- A command that runs an operation is refused with it, or saves what it answers. -/
theorem Replies.ofChange {change : Except Failure State} {refusal : String}
    (hWrites : Writes c.name args)
    (hStep : ∀ s', change = .ok s' → s.Step (FileSystem.LineGoes s) now s')
    (h : ∀ fs : FileSystem, fs.state = s →
      c.run now args fs = .ofChange fs (fs.commit <$> change) refusal) :
    c.Replies now args s := by
  cases change with
  | error f => exact .refuse h
  | ok s' => exact .save hWrites (hStep s' rfl) h

/-! ## Commands that write -/

theorem replies_cd (args : List String) : cd.Replies now args s := by
  have hWrites : Writes cd.name args := .inl (by simp [cd])
  cases args with
  | nil =>
    apply Replies.save hWrites (.go (.inl rfl))
    intro fs hState
    simp only [cd, FileSystem.setCurrentPath, hState]
  | cons arg args =>
    -- The directory is looked up first, so that a refusal has set nothing.
    cases hNode : s.node? (Path.resolve s.currentPath arg) with
    | none =>
      apply Replies.refuse
      intro fs hState
      simp only [cd, FileSystem.node?, FileSystem.resolve_of_state hState, hState, hNode]
      rfl
    | some n =>
      cases hKind : n.isDirectory with
      | false =>
        apply Replies.refuse
        intro fs hState
        simp only [cd, FileSystem.node?, FileSystem.resolve_of_state hState, hState, hNode, hKind,
          Bool.false_eq_true, if_false]
        rfl
      | true =>
        apply Replies.save hWrites (.go (.inr ⟨arg, rfl⟩))
        intro fs hState
        simp only [cd, FileSystem.node?, FileSystem.setCurrentPath,
          FileSystem.resolve_of_state hState, hState, hNode, hKind, if_true]

theorem replies_mkdir (args : List String) : mkdir.Replies now args s := by
  cases args with
  | nil => exact .refuse fun _ _ => rfl
  | cons dir args =>
    apply Replies.ofChange (.inl (by simp [mkdir])) fun _ => State.step_of_createDirectory
    intro fs hState
    simp only [mkdir, FileSystem.createDirectory, FileSystem.resolve_of_state hState, hState]
    rfl

theorem replies_touch (args : List String) : touch.Replies now args s := by
  cases args with
  | nil => exact .refuse fun _ _ => rfl
  | cons file args =>
    apply Replies.ofChange (.inl (by simp [touch])) fun _ => State.step_of_createFile
    intro fs hState
    simp only [touch, FileSystem.createFile, FileSystem.resolve_of_state hState, hState]
    rfl

theorem replies_rm (args : List String) : rm.Replies now args s := by
  cases args with
  | nil => exact .refuse fun _ _ => rfl
  | cons target args =>
    apply Replies.ofChange (.inl (by simp [rm])) fun _ => State.step_of_delete
    intro fs hState
    simp only [rm, FileSystem.delete, FileSystem.resolve_of_state hState, hState]
    rfl

theorem replies_echo (args : List String) : echo.Replies now args s := by
  cases hParse : Redirect.parse? (" ".intercalate args) with
  | none =>
    have hLooks : ¬ Writes echo.name args := by simp [Writes, echo, hParse]
    apply Replies.say hLooks
    intro fs _
    simp only [echo, hParse]
    rfl
  | some r =>
    have hWrites : Writes echo.name args := .inr ⟨rfl, by rw [hParse]; rfl⟩
    -- Whether the file is there is asked once, and decides which operation runs.
    cases hTaken : (s.node? (Path.resolve s.currentPath r.file)).isSome with
    | true =>
      apply Replies.ofChange hWrites fun _ => State.step_of_write
      intro fs hState
      simp only [echo, hParse, FileSystem.node?, FileSystem.write,
        FileSystem.resolve_of_state hState, hState, hTaken, if_true]
      rfl
    | false =>
      apply Replies.ofChange hWrites fun _ => State.step_of_createFile
      intro fs hState
      simp only [echo, hParse, FileSystem.node?, FileSystem.createFile,
        FileSystem.resolve_of_state hState, hState, hTaken, Bool.false_eq_true, if_false]
      rfl

/-! ## Commands that look -/

/-- The commands that can change the file system. -/
def changing : List Command := [cd, mkdir, touch, rm, echo]

/-- The commands that only look at the file system. -/
def looking : List Command := [help, clear, pwd, ls, cat, grep, openFile, whoami]

theorem not_writes_of_looking (hc : c ∈ looking) (args : List String) :
    ¬ Writes c.name args := by
  -- Writing is told by the name alone here, and there are eight names.
  have hNames : ∀ name ∈ looking.map Command.name,
      name ∉ ["cd", "touch", "mkdir", "rm"] ∧ name ≠ "echo" := by decide
  obtain ⟨hOthers, hEcho⟩ := hNames c.name (List.mem_map_of_mem hc)
  rintro (hMem | ⟨hName, -⟩)
  · exact hOthers hMem
  · exact hEcho hName

theorem replies_ls (args : List String) : ls.Replies now args s := by
  have hLooks : ¬ Writes ls.name args := not_writes_of_looking (by simp [looking]) args
  cases args with
  | nil =>
    -- Without an argument the working directory itself is listed.
    cases hList : s.list s.currentPath with
    | error f =>
      apply Replies.refuse
      intro fs hState
      simp only [ls, List.head?_nil, FileSystem.list, FileSystem.currentPath, hState, hList]
      rfl
    | ok nodes =>
      apply Replies.say hLooks
      intro fs hState
      simp only [ls, List.head?_nil, FileSystem.list, FileSystem.currentPath, hState, hList]
      rfl
  | cons arg args =>
    cases hList : s.list (Path.resolve s.currentPath arg) with
    | error f =>
      apply Replies.refuse
      intro fs hState
      simp only [ls, List.head?_cons, FileSystem.list, FileSystem.resolve_of_state hState,
        hState, hList]
      rfl
    | ok nodes =>
      apply Replies.say hLooks
      intro fs hState
      simp only [ls, List.head?_cons, FileSystem.list, FileSystem.resolve_of_state hState,
        hState, hList]
      rfl

theorem replies_cat (args : List String) : cat.Replies now args s := by
  cases args with
  | nil => exact .refuse fun _ _ => rfl
  | cons file args =>
    have hLooks : ¬ Writes cat.name (file :: args) := not_writes_of_looking (by simp [looking]) _
    cases hRead : s.read (Path.resolve s.currentPath file) with
    | error f =>
      apply Replies.refuse
      intro fs hState
      simp only [cat, FileSystem.read_of_state hState, hRead]
      rfl
    | ok content =>
      apply Replies.say hLooks
      intro fs hState
      simp only [cat, FileSystem.read_of_state hState, hRead]
      rfl

theorem replies_grep (args : List String) : grep.Replies now args s := by
  match args with
  | [] => exact .refuse fun _ _ => rfl
  | [_] => exact .refuse fun _ _ => rfl
  | pattern :: file :: args =>
    have hLooks : ¬ Writes grep.name (pattern :: file :: args) :=
      not_writes_of_looking (by simp [looking]) _
    -- The file is read before the pattern is.
    cases hRead : s.read (Path.resolve s.currentPath file) with
    | error f =>
      apply Replies.refuse
      intro fs hState
      simp only [grep, FileSystem.read_of_state hState, hRead]
      rfl
    | ok content =>
      cases hPattern : Pattern.parse? pattern.toList with
      | none =>
        apply Replies.refuse
        intro fs hState
        simp only [grep, FileSystem.read_of_state hState, hRead, hPattern]
        rfl
      | some p =>
        apply Replies.say hLooks
        intro fs hState
        simp only [grep, FileSystem.read_of_state hState, hRead, hPattern]
        rfl

theorem replies_openFile (args : List String) : openFile.Replies now args s := by
  cases args with
  | nil => exact .refuse fun _ _ => rfl
  | cons file args =>
    have hLooks : ¬ Writes openFile.name (file :: args) :=
      not_writes_of_looking (by simp [looking]) _
    -- The ending of the argument is asked for before the file is read.
    cases hMarkdown : isMarkdown file with
    | false =>
      apply Replies.refuse
      intro fs _
      simp only [openFile, hMarkdown, Bool.not_false, if_true]
      rfl
    | true =>
      cases hRead : s.read (Path.resolve s.currentPath file) with
      | error f =>
        apply Replies.refuse
        intro fs hState
        simp only [openFile, hMarkdown, FileSystem.read_of_state hState, hRead, Bool.not_true,
          Bool.false_eq_true, if_false]
        rfl
      | ok content =>
        apply Replies.say hLooks
        intro fs hState
        simp only [openFile, hMarkdown, FileSystem.read_of_state hState, hRead, Bool.not_true,
          Bool.false_eq_true, if_false]
        rfl

theorem replies_pwd (args : List String) : pwd.Replies now args s := by
  apply Replies.say (not_writes_of_looking (by simp [looking]) args)
  intro fs hState
  simp only [pwd, FileSystem.currentPath, hState]
  rfl

end Command

/-! ## The registry -/

namespace Registry

theorem mem_of_find? {r : Registry} {name : String} {c : Command} (h : r.find? name = some c) :
    c ∈ r.commands :=
  List.mem_of_find?_eq_some h

theorem name_of_find? {r : Registry} {name : String} {c : Command} (h : r.find? name = some c) :
    c.name = name := by
  simpa using List.find?_some h

theorem mem_of_mem_register {r : Registry} {c d : Command}
    (h : c ∈ (r.register d).commands) : c = d ∨ c ∈ r.commands := by
  rcases List.mem_cons.1 h with rfl | hMem
  · exact .inl rfl
  · exact .inr (List.mem_filter.1 hMem).1

theorem mem_of_mem_foldl_register {cs : List Command} {r : Registry} {c : Command}
    (h : c ∈ (cs.foldl register r).commands) : c ∈ cs ∨ c ∈ r.commands := by
  -- The registry grows with every command, so it is arbitrary.
  induction cs generalizing r with
  | nil => exact .inr h
  | cons d cs ih =>
    rcases ih h with hMem | hMem
    · exact .inl (List.mem_cons_of_mem d hMem)
    · rcases mem_of_mem_register hMem with rfl | hMem
      · exact .inl List.mem_cons_self
      · exact .inr hMem

theorem mem_standard {c : Command} (h : c ∈ Registry.standard.commands) :
    c ∈ Command.changing ∨ c ∈ Command.looking := by
  rcases mem_of_mem_foldl_register h with hMem | hMem
  · simp only [List.mem_cons, List.not_mem_nil, or_false] at hMem
    simp only [Command.changing, Command.looking, List.mem_cons, List.not_mem_nil, or_false]
    tauto
  · simp at hMem

end Registry

/-- **Commands**: a command of the shell gives one allowed reply in all file systems in a
state, whatever lies below them. -/
theorem Command.replies_run {c : Command} (hc : c ∈ Registry.standard.commands) (now : Instant)
    (args : List String) (s : State) : c.Replies now args s := by
  rcases Registry.mem_standard hc with hChanging | hLooking
  · simp only [changing, List.mem_cons, List.not_mem_nil, or_false] at hChanging
    rcases hChanging with rfl | rfl | rfl | rfl | rfl
    · exact replies_cd args
    · exact replies_mkdir args
    · exact replies_touch args
    · exact replies_rm args
    · exact replies_echo args
  · have hLooks : ¬ Writes c.name args := not_writes_of_looking hLooking args
    simp only [looking, List.mem_cons, List.not_mem_nil, or_false] at hLooking
    rcases hLooking with rfl | rfl | rfl | rfl | rfl | rfl | rfl | rfl
    · exact .say hLooks fun _ _ => rfl
    · exact .say hLooks fun _ _ => rfl
    · exact replies_pwd args
    · exact replies_ls args
    · exact replies_cat args
    · exact replies_grep args
    · exact replies_openFile args
    · exact .say hLooks fun _ _ => rfl

end TreeShell
