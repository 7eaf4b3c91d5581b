import Mathlib.Tactic.Common
import TreeShell.Proofs.Command.Reply
import TreeShell.Shell

/-!
# Lines are all or nothing

A line comes to the reply of one command.  If it is refused, the shell is as it was, with
all that lies below it.  Otherwise the line has saved exactly once when its first word asks
for a change, and has left the file system alone when it does not.

Main statements: `Shell.replies_handle`, `Shell.handle_allOrNothing`.
-/

namespace TreeShell

open TreeShell.Command TreeShell.Text TreeShell.Time TreeShell.Tree

/-- A line has no word exactly when it has no character but blanks. -/
theorem Text.words_eq_nil_iff {line : String} : words line = [] ↔ allBlank line = true := by
  have hPieces : ∀ cs : List Char,
      (cs.splitOnP isBlank).filter (fun w => !w.isEmpty) = [] ↔ cs.all isBlank = true := by
    intro cs
    induction cs with
    | nil => simp
    | cons c cs ih =>
      rw [List.splitOnP_cons_eq_if_modifyHead]
      cases hBlank : isBlank c with
      | true => simpa [hBlank] using ih
      | false =>
        -- A character that is not blank stands in the first piece.
        obtain ⟨w, ws, hSplit⟩ := List.exists_cons_of_ne_nil (List.splitOnP_ne_nil isBlank cs)
        simp [hBlank, hSplit]
  simp [words, wordsOf, allBlank, hPieces line.toList]

/-- Whether a line names a command that saves with the arguments of the line, when it is not
refused. -/
def Shell.LineWrites (line : String) : Prop :=
  ∃ first args, words line = first :: args ∧ Command.Writes (toLower first) args

namespace Shell

/-! ## Lines and replies -/

/-- What a shell prints and becomes with the outcome of a command. -/
def settle (sh : Shell) (o : Outcome) : Result × Shell :=
  (o.result, { sh with fs := o.fs, session := o.signals.foldl Session.heed sh.session })

theorem lineWrites_iff {line first : String} {args : List String}
    (h : words line = first :: args) : LineWrites line ↔ Command.Writes (toLower first) args := by
  constructor
  · rintro ⟨first', args', hWords, hWrites⟩
    obtain ⟨rfl, rfl⟩ := List.cons.inj (h.symm.trans hWords)
    exact hWrites
  · intro hWrites
    exact ⟨first, args, h, hWrites⟩

theorem not_lineWrites_of_words_eq_nil {line : String} (h : words line = []) :
    ¬ LineWrites line := by
  rintro ⟨first, args, hWords, -⟩
  rw [h] at hWords
  contradiction

/-- A line runs the command that its first word names. -/
theorem handle_of_words {sh : Shell} {now : Instant} {line first : String} {args : List String}
    {c : Command} (hRegistry : sh.registry = .standard) (hWords : words line = first :: args)
    (hFind : Registry.standard.find? (toLower first) = some c) :
    sh.handle now line = sh.settle (c.run now args sh.fs) := by
  have hKnown : sh.registry.find? (toLower first) = some c := hRegistry ▸ hFind
  simp only [handle, hWords, hKnown]
  rfl

/-- **Lines**: a line comes to one allowed reply in all shells whose file system is in a
state. -/
theorem replies_handle (s : State) (now : Instant) (line : String) :
    ∃ reply : Reply, reply.Allowed (LineWrites line) now s ∧
      ∀ sh : Shell, sh.registry = .standard → sh.fs.state = s →
        sh.handle now line = sh.settle (reply.outcome sh.fs) := by
  cases hWords : words line with
  | nil =>
    -- A line of blanks prints an empty text.
    refine ⟨.say "" [], .say "" [] (not_lineWrites_of_words_eq_nil hWords), ?_⟩
    intro sh _ _
    simp only [handle, hWords]
    rfl
  | cons first args =>
    cases hFind : Registry.standard.find? (toLower first) with
    | none =>
      refine ⟨.refuse (notFound (toLower first)).output, .refuse _, ?_⟩
      intro sh hRegistry _
      have hUnknown : sh.registry.find? (toLower first) = none := hRegistry ▸ hFind
      simp only [handle, hWords, hUnknown]
      rfl
    | some c =>
      obtain ⟨reply, hAllowed, hRun⟩ :=
        Command.replies_run (Registry.mem_of_find? hFind) now args s
      rw [Registry.name_of_find? hFind] at hAllowed
      refine ⟨reply, hAllowed.congr (lineWrites_iff hWords).symm, ?_⟩
      intro sh hRegistry hState
      have hKnown : sh.registry.find? (toLower first) = some c := hRegistry ▸ hFind
      simp only [handle, hWords, hKnown, perform, hRun sh.fs hState]
      rfl

/-! ## All or nothing -/

theorem writes_commit (fs : FileSystem) (s : State) :
    (fs.commit s).store.writes = fs.store.writes + 1 := rfl

/-- **All or nothing**: a line that is refused leaves the shell as it was, with the store
below it.  Any other line has tried one write, of the state that it leaves, when it asks for
a change, and has left the file system as it was when it does not. -/
theorem handle_allOrNothing (fs : FileSystem) (session : Session) (now : Instant)
    (line : String) :
    let sh : Shell := { fs, session }
    let result := (sh.handle now line).1
    let after := (sh.handle now line).2
    (result.isError = true → after = sh) ∧
    (result.isError = false →
      (LineWrites line → after.fs = fs.commit after.fs.state ∧
        after.fs.store.writes = fs.store.writes + 1) ∧
      (¬ LineWrites line → after.fs = fs)) := by
  intro sh result after
  obtain ⟨reply, hAllowed, hHandle⟩ := replies_handle fs.state now line
  have hLine : sh.handle now line = sh.settle (reply.outcome fs) := hHandle sh rfl rfl
  have hResult : result = (reply.outcome fs).result := congrArg Prod.fst hLine
  have hAfter : after = (sh.settle (reply.outcome fs)).2 := congrArg Prod.snd hLine
  rw [hResult, hAfter]
  cases hAllowed with
  | refuse text =>
    -- A refusal asks nothing of the terminal either.
    exact ⟨fun _ => rfl, nofun⟩
  | @save s' hWrites hStep =>
    refine ⟨nofun, fun _ => ⟨fun _ => ⟨rfl, writes_commit fs s'⟩, ?_⟩⟩
    intro hLooks
    exact absurd hWrites hLooks
  | say text signals hLooks =>
    refine ⟨nofun, fun _ => ⟨?_, fun _ => rfl⟩⟩
    intro hWrites
    exact absurd hWrites hLooks

end Shell

end TreeShell
