import Mathlib.Tactic.Common
import TreeShell.Launch.Run
import TreeShell.Proofs.Command.Alike

/-!
# A line in a session and a line alone

A line at the terminal of a session is run and recorded, and a line of a run of its own is run
only; both print what came of it and close what it opened.  In two shells where nothing is open
and whose states differ in instants only, they print the same and leave two such shells.  The
histories may differ: no command looks at them.

Main statements: `Shell.Idle.turn`, `Shell.Idle.converseInTime`, `Shell.Idle.operate`.
-/

namespace TreeShell

open TreeShell.Command TreeShell.Launch TreeShell.Text TreeShell.Time TreeShell.Tree

/-! ## Views -/

/-- Whether two sessions show the same panel and the profile alike. -/
structure Session.SameView (v v' : Session) : Prop where
  panel : v.panel = v'.panel
  profileOpen : v.profileOpen = v'.profileOpen

theorem Session.SameView.heed {v v' : Session} (h : v.SameView v') (signals : List Signal) :
    (signals.foldl Session.heed v).SameView (signals.foldl Session.heed v') := by
  induction signals generalizing v v' with
  | nil => exact h
  | cons signal signals ih =>
    apply ih
    cases signal with
    | clearHistory => exact ⟨h.panel, h.profileOpen⟩
    | openPanel content title => exact ⟨rfl, h.profileOpen⟩
    | openProfile => exact ⟨h.panel, rfl⟩

/-- Whether nothing is open. -/
structure Session.IsClosed (v : Session) : Prop where
  panel : v.panel = none
  profileOpen : v.profileOpen = false

theorem Session.IsClosed.sameView {v v' : Session} (h : v.IsClosed) (h' : v'.IsClosed) :
    v.SameView v' :=
  ⟨h.panel.trans h'.panel.symm, h.profileOpen.trans h'.profileOpen.symm⟩

namespace Shell

/-! ## Shells that look alike -/

/-- Whether two shells of the standard commands show the same over states that differ in
instants only. -/
structure LooksAlike (sh sh' : Shell) : Prop where
  registry : sh.registry = .standard
  registry' : sh'.registry = .standard
  view : sh.session.SameView sh'.session
  state : sh.fs.state.Alike sh'.fs.state

variable {sh sh' : Shell}

theorem LooksAlike.prompt_eq (h : sh.LooksAlike sh') : sh.prompt = sh'.prompt := by
  have hPath : sh.fs.currentPath = sh'.fs.currentPath := h.state.currentPath_eq
  unfold prompt
  rw [hPath]

theorem LooksAlike.perform (h : sh.LooksAlike sh') {c : Command}
    (hc : c ∈ Registry.standard.commands) (now now' : Instant) (args : List String) :
    (sh.perform now c args).1 = (sh'.perform now' c args).1 ∧
      (sh.perform now c args).2.LooksAlike (sh'.perform now' c args).2 := by
  have hRun := Command.alike_run hc h.state now now' args
  refine ⟨hRun.result, h.registry, h.registry', ?_, hRun.state⟩
  simp only [Shell.perform, hRun.signals]
  exact h.view.heed _

theorem LooksAlike.handle (h : sh.LooksAlike sh') (now now' : Instant) (line : String) :
    (sh.handle now line).1 = (sh'.handle now' line).1 ∧
      (sh.handle now line).2.LooksAlike (sh'.handle now' line).2 := by
  simp only [Shell.handle, h.registry, h.registry']
  split
  · exact ⟨rfl, h⟩
  · split
    · exact ⟨rfl, h⟩
    · rename_i c hFind
      exact h.perform (Registry.mem_of_find? hFind) now now' _

/-! ## Shells where nothing is open -/

/-- Whether two shells look alike with nothing open. -/
structure Idle (sh sh' : Shell) : Prop where
  registry : sh.registry = .standard
  registry' : sh'.registry = .standard
  closed : sh.session.IsClosed
  closed' : sh'.session.IsClosed
  state : sh.fs.state.Alike sh'.fs.state

theorem Idle.looksAlike (h : sh.Idle sh') : sh.LooksAlike sh' :=
  ⟨h.registry, h.registry', h.closed.sameView h.closed', h.state⟩

/-- What a line prints closes what it opened. -/
theorem LooksAlike.printTurn (h : sh.LooksAlike sh') (line : String) (r : Result) :
    (Launch.printTurn sh line r).1 = (Launch.printTurn sh' line r).1 ∧
      (Launch.printTurn sh line r).2.Idle (Launch.printTurn sh' line r).2 := by
  refine ⟨?_, h.registry, h.registry', ⟨rfl, rfl⟩, ⟨rfl, rfl⟩, h.state⟩
  unfold Launch.printTurn
  rw [h.view.panel, h.view.profileOpen]

/-- A shell after a line in a run of its own, with what was printed. -/
def alone (sh : Shell) (now : Instant) (line : String) : Printed × Shell :=
  Launch.printTurn (sh.handle now line).2 line (sh.handle now line).1

theorem printTurn_of_words_eq_nil {line : String} (hWords : words line = [])
    (hClosed : sh.session.IsClosed) : (Launch.printTurn sh line .silent).1 = {} := by
  have hClear : asksToClear line = false := by rw [asksToClear, hWords]
  unfold Launch.printTurn
  rw [hClear, hClosed.panel, hClosed.profileOpen]
  rfl

/-- **Turns**: a line in a session comes to what the line comes to alone. -/
theorem Idle.turn (h : sh.Idle sh') (now now' : Instant) (line : String) :
    (Launch.turn sh now line).1 = (sh'.alone now' line).1 ∧
      (Launch.turn sh now line).2.Idle (sh'.alone now' line).2 ∧
      ((sh.submit now line).1.any Result.isError = (sh'.handle now' line).1.isError) := by
  by_cases hBlank : allBlank line = true
  · -- A line of blanks is passed over in the session, and prints nothing alone.
    have hWords : words line = [] := words_eq_nil_iff.2 hBlank
    have hHandle : sh'.handle now' line = (.silent, sh') := by rw [handle, hWords]
    have hSubmit : sh.submit now line = (none, sh) := by rw [submit, if_pos hBlank]
    simp only [Launch.turn, alone, hHandle, hSubmit]
    refine ⟨(printTurn_of_words_eq_nil hWords h.closed').symm, ?_, rfl⟩
    exact ⟨h.registry, h.registry', h.closed, ⟨rfl, rfl⟩, h.state⟩
  · obtain ⟨hResult, hAfter⟩ := h.looksAlike.handle now now' line
    -- Recording the line changes the history only.
    have hSubmit : sh.submit now line = (some (sh.handle now line).1,
        { (sh.handle now line).2 with
          session := (sh.handle now line).2.session.record line (sh.handle now line).1 }) := by
      rw [submit, if_neg hBlank]
    have hRecorded : LooksAlike
        { (sh.handle now line).2 with
          session := (sh.handle now line).2.session.record line (sh.handle now line).1 }
        (sh'.handle now' line).2 :=
      ⟨hAfter.registry, hAfter.registry', ⟨hAfter.view.panel, hAfter.view.profileOpen⟩,
        hAfter.state⟩
    simp only [Launch.turn, alone, hSubmit, ← hResult]
    obtain ⟨hPrinted, hIdle⟩ := hRecorded.printTurn line (sh.handle now line).1
    exact ⟨hPrinted, hIdle, rfl⟩

/-! ## Sessions in time -/

theorem Idle.symm (h : sh.Idle sh') : sh'.Idle sh :=
  ⟨h.registry', h.registry, h.closed', h.closed, h.state.symm⟩

theorem Idle.trans {sh'' : Shell} (h₁ : sh.Idle sh') (h₂ : sh'.Idle sh'') : sh.Idle sh'' :=
  ⟨h₁.registry, h₂.registry', h₁.closed, h₂.closed', h₁.state.trans h₂.state⟩

/-- A session in which every line has an instant of its own. -/
def converseInTime (sh : Shell) : List (Instant × Option String) → Printed × Shell
  | [] => (.out (sh.prompt ++ " \n"), sh)
  | (_, none) :: _ => (.out (sh.prompt ++ " ") ++ .err notTextError, sh)
  | (now, some line) :: rest =>
    let (printed, after) := Launch.turn sh now line
    let (others, last) := converseInTime after rest
    (.out (sh.prompt ++ " ") ++ printed ++ others, last)

/-- **Sessions in time**: the instants at which a session runs its lines do not show, and it
leaves a state that differs in instants only. -/
theorem Idle.converseInTime (h : sh.Idle sh') (now : Instant)
    (lines : List (Instant × Option String)) :
    (sh.converseInTime lines).1 = (Launch.converse sh' now (lines.map Prod.snd)).1 ∧
      (sh.converseInTime lines).2.Idle (Launch.converse sh' now (lines.map Prod.snd)).2 := by
  induction lines generalizing sh sh' with
  | nil => exact ⟨by rw [Shell.converseInTime, h.looksAlike.prompt_eq]; rfl, h⟩
  | cons entry rest ih =>
    obtain ⟨instant, _ | line⟩ := entry
    · exact ⟨by rw [Shell.converseInTime, h.looksAlike.prompt_eq]; rfl, h⟩
    · -- Both turns come to what the line comes to alone.
      obtain ⟨hHere, hAfter, -⟩ := h.turn instant now line
      obtain ⟨hThere, hAfter', -⟩ := (h.symm.trans h).turn now now line
      obtain ⟨hOthers, hLast⟩ := ih (hAfter.trans hAfter'.symm)
      refine ⟨?_, hLast⟩
      simp only [Shell.converseInTime, List.map_cons, Launch.converse, hHere, hThere, hOthers,
        h.looksAlike.prompt_eq]

/-- Two sessions over the same lines, each at an instant of its own. -/
theorem Idle.converse (h : sh.Idle sh') (now now' : Instant) (lines : List (Option String)) :
    (Launch.converse sh now lines).1 = (Launch.converse sh' now' lines).1 ∧
      (Launch.converse sh now lines).2.Idle (Launch.converse sh' now' lines).2 := by
  -- Both are the session in which every line has the same instant.
  have hTimed : (lines.map fun line => (now, line)).map Prod.snd = lines := by
    simp [Function.comp_def]
  obtain ⟨hHere, hAfter⟩ :=
    (h.trans h.symm).converseInTime now (lines.map fun line => (now, line))
  obtain ⟨hThere, hAfter'⟩ := h.converseInTime now' (lines.map fun line => (now, line))
  rw [hTimed] at hHere hAfter hThere hAfter'
  exact ⟨hHere.symm.trans hThere, hAfter.symm.trans hAfter'⟩

/-- **Runs** in two such shells, of a line or of a session over one input, exit and print the
same. -/
theorem Idle.operate (h : sh.Idle sh') {i i' : Invocation} (hInput : i.input = i'.input)
    (command : Option String) :
    (Launch.operate sh i command).1 = (Launch.operate sh' i' command).1 ∧
      (Launch.operate sh i command).2.1 = (Launch.operate sh' i' command).2.1 ∧
      (Launch.operate sh i command).2.2.Idle (Launch.operate sh' i' command).2.2 := by
  cases command with
  | none =>
    obtain ⟨hPrinted, hAfter⟩ := h.converse i.now i'.now (inputLines i.input)
    rw [hInput] at hPrinted hAfter
    simp only [Launch.operate, interact, hInput, hPrinted]
    exact ⟨trivial, trivial, hAfter⟩
  | some line =>
    obtain ⟨hResult, hLooks⟩ := h.looksAlike.handle i.now i'.now line
    obtain ⟨hPrinted, hAfter⟩ := hLooks.printTurn line (sh.handle i.now line).1
    simp only [Launch.operate, ← hResult, hPrinted]
    exact ⟨trivial, trivial, hAfter⟩

end Shell

end TreeShell
