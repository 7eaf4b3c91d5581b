import Mathlib.Data.List.Induction
import Mathlib.Tactic.Common
import TreeShell.Proofs.Effect
import TreeShell.Proofs.Line

/-!
# The history is a transcript

What the history holds is told by the lines alone and by what they printed: one entry for each
line that is not blank, from the last line on that asks for an empty history.

## Layers

- `Command.clearHistory_mem_signals_iff`: one command asks for an empty history;
- `Shell.history_handle`, `Shell.history_submit`: what one line makes of the history;
- `Shell.submit_fst_eq_none_iff`, `Shell.submit_snd_of_none`: lines that are passed over;
- `Shell.history_play_submit`: what lines one after another make of it;
- `Shell.sinceClear_concat`, `Shell.transcript_sinceClear`: the transcript of one more line;
- `Shell.history_eq_transcript`.
-/

namespace TreeShell

open TreeShell.Command TreeShell.Text TreeShell.Time

/-! ## The command that asks for an empty history -/

namespace Command

variable {c : Command}

@[simp]
theorem Outcome.signals_still (fs : FileSystem) (result : Result) :
    (Outcome.still fs result).signals = [] := rfl

@[simp]
theorem Outcome.signals_ofChange (fs : FileSystem) (change : Except Tree.Failure FileSystem)
    (refusal : String) : (Outcome.ofChange fs change refusal).signals = [] := by
  cases change <;> rfl

/-- The commands that can change the file system ask nothing of the terminal. -/
theorem signals_run_of_changing (hc : c ∈ changing) (now : Instant) (args : List String)
    (fs : FileSystem) : (c.run now args fs).signals = [] := by
  simp only [changing, List.mem_cons, List.not_mem_nil, or_false] at hc
  rcases hc with rfl | rfl | rfl | rfl | rfl
  · simp only [cd]
    split
    · rfl
    · split
      · rfl
      · split <;> rfl
  · cases args <;> simp [mkdir]
  · cases args <;> simp [touch]
  · cases args <;> simp [rm]
  · simp only [echo]
    split
    · rfl
    · split <;> simp

/-- Of the commands that only look, `clear` asks for an empty history. -/
theorem clearHistory_mem_signals_of_looking (hc : c ∈ looking) (now : Instant)
    (args : List String) (fs : FileSystem) :
    .clearHistory ∈ (c.run now args fs).signals ↔ c.name = "clear" := by
  simp only [looking, List.mem_cons, List.not_mem_nil, or_false] at hc
  rcases hc with rfl | rfl | rfl | rfl | rfl | rfl | rfl | rfl
  · simp [help]
  · simp [clear]
  · simp [pwd]
  · simp only [ls]
    split <;> simp
  · simp only [cat]
    split
    · simp
    · split <;> simp
  · simp only [grep]
    split
    · split
      · simp
      · split <;> simp
    · simp
  · -- A panel is asked for, once the file has been read.
    simp only [openFile]
    split
    · simp
    · split
      · simp
      · split <;> simp
  · simp [whoami]

/-- **Signals**: of the commands of the shell, `clear` asks for an empty history, and no other
does. -/
theorem clearHistory_mem_signals_iff (hc : c ∈ Registry.standard.commands) (now : Instant)
    (args : List String) (fs : FileSystem) :
    .clearHistory ∈ (c.run now args fs).signals ↔ c.name = "clear" := by
  rcases Registry.mem_standard hc with hChanging | hLooking
  · have hNames : ∀ name ∈ changing.map Command.name, name ≠ "clear" := by decide
    have hName := hNames c.name (List.mem_map_of_mem hChanging)
    simp [signals_run_of_changing hChanging, hName]
  · exact clearHistory_mem_signals_of_looking hLooking now args fs

end Command

theorem Session.history_foldl_heed (signals : List Signal) (session : Session) :
    (signals.foldl Session.heed session).history
      = if .clearHistory ∈ signals then [] else session.history := by
  induction signals generalizing session with
  | nil => rfl
  | cons signal signals ih =>
    rw [List.foldl_cons, ih]
    cases signal <;> simp [Session.heed]

namespace Shell

/-! ## One line -/

/-- Whether a line asks for an empty history. -/
def Clears (line : String) : Prop :=
  (words line).head?.map toLower = some "clear"

instance : DecidablePred Clears := fun _ => inferInstanceAs (Decidable (_ = _))

theorem not_clears_of_allBlank {line : String} (h : allBlank line = true) : ¬ Clears line := by
  simp [Clears, words_eq_nil_iff.2 h]

/-- A line that is run empties the history or leaves it. -/
theorem history_handle {sh : Shell} (hRegistry : sh.registry = .standard) (now : Instant)
    (line : String) :
    (sh.handle now line).2.session.history = if Clears line then [] else sh.session.history := by
  cases hWords : words line with
  | nil => simp [handle, Clears, hWords]
  | cons first args =>
    cases hFind : Registry.standard.find? (toLower first) with
    | none =>
      -- The name that clears is known, so this is another.
      have hKnown : Registry.standard.contains "clear" = true := by decide +kernel
      have hName : toLower first ≠ "clear" := by
        intro hClear
        simp [Registry.contains, ← hClear, hFind] at hKnown
      simp [handle, Clears, hWords, hRegistry, hFind, hName]
    | some c =>
      have hSignals := clearHistory_mem_signals_iff (Registry.mem_of_find? hFind) now args sh.fs
      rw [Registry.name_of_find? hFind] at hSignals
      simp [handle, perform, Clears, hWords, hRegistry, hFind, Session.history_foldl_heed, hSignals]

/-- The entry for a line, if it was run. -/
def entryOf (line : String) : Answer → Option HistoryEntry
  | .result result => some ⟨line, result⟩
  | _ => none

/-- What a history becomes with a line and its answer. -/
def keep (history : List HistoryEntry) (e : String × Answer) : List HistoryEntry :=
  (if Clears e.1 then [] else history) ++ (entryOf e.1 e.2).toList

/-- **One line** empties the history if it asks for it, and then adds its own entry. -/
theorem history_submit {sh : Shell} (hRegistry : sh.registry = .standard) (now : Instant)
    (line : String) :
    (sh.act now (.submit line)).2.session.history
      = keep sh.session.history (line, (sh.act now (.submit line)).1) := by
  cases hBlank : allBlank line with
  | true => simp [act, submit, keep, entryOf, hBlank, not_clears_of_allBlank hBlank]
  | false =>
    simp [act, submit, keep, entryOf, hBlank, Session.record, history_handle hRegistry now line]

/-! ## Lines that are passed over -/

variable {sh : Shell} {now : Instant} {line : String}

theorem submit_fst_eq_none_iff :
    (sh.submit now line).1 = none ↔ ∀ c ∈ line.toList, isBlank c = true := by
  have hAll : allBlank line = true ↔ ∀ c ∈ line.toList, isBlank c = true := List.all_eq_true
  rw [← hAll]
  cases hBlank : allBlank line <;> simp [submit, hBlank]

theorem submit_snd_of_none (h : (sh.submit now line).1 = none) : (sh.submit now line).2 = sh := by
  unfold submit at h ⊢
  split at h
  · rename_i hBlank
    rw [if_pos hBlank]
  · contradiction

/-! ## Lines one after another -/

/-- Lines with instants as a script that submits them. -/
def submitting (lines : List (Instant × String)) : List (Instant × Action) :=
  lines.map fun e => (e.1, .submit e.2)

/-- Lines with what they are answered. -/
def answered (sh : Shell) (lines : List (Instant × String)) : List (String × Answer) :=
  (lines.map Prod.snd).zip (sh.play (submitting lines)).1

theorem answered_cons (sh : Shell) (now : Instant) (line : String)
    (lines : List (Instant × String)) :
    sh.answered ((now, line) :: lines)
      = (line, (sh.act now (.submit line)).1) ::
        (sh.act now (.submit line)).2.answered lines := rfl

theorem history_play_submit {sh : Shell} (hRegistry : sh.registry = .standard)
    (lines : List (Instant × String)) :
    (sh.play (submitting lines)).2.session.history
      = (sh.answered lines).foldl keep sh.session.history := by
  -- The shell changes with every line, and its registry stays.
  induction lines generalizing sh with
  | nil => rfl
  | cons e lines ih =>
    obtain ⟨now, line⟩ := e
    have hAfter : (sh.act now (.submit line)).2.registry = .standard :=
      (registry_act now (.submit line)).trans hRegistry
    rw [answered_cons, List.foldl_cons, ← history_submit hRegistry]
    exact ih hAfter

/-! ## The transcript -/

/-- The lines from the last one on that asks for an empty history, or all when none does. -/
def sinceClear : List (String × Answer) → List (String × Answer)
  | [] => []
  | e :: rest => if ∃ later ∈ rest, Clears later.1 then sinceClear rest else e :: rest

/-- The entries of the lines that were run, in order. -/
def transcript (es : List (String × Answer)) : List HistoryEntry :=
  es.filterMap fun e => entryOf e.1 e.2

theorem sinceClear_concat (es : List (String × Answer)) (e : String × Answer) :
    sinceClear (es ++ [e]) = (if Clears e.1 then [] else sinceClear es) ++ [e] := by
  induction es with
  | nil => simp [sinceClear]
  | cons d es ih =>
    rw [List.cons_append, sinceClear, sinceClear, ih]
    by_cases hLast : Clears e.1
    · simp [hLast]
    · by_cases hLater : ∃ later ∈ es, Clears later.1 <;> simp [hLast, hLater]

theorem transcript_sinceClear (es : List (String × Answer)) (e : String × Answer) :
    transcript (sinceClear (es ++ [e])) = keep (transcript (sinceClear es)) e := by
  have hEntry : transcript [e] = (entryOf e.1 e.2).toList := by
    cases h : entryOf e.1 e.2 <;> simp [transcript, h]
  rw [sinceClear_concat, keep, ← hEntry]
  split <;> simp [transcript]

/-- Lines kept one by one from an empty history leave the transcript since the last that
clears. -/
theorem foldl_keep (es : List (String × Answer)) :
    es.foldl keep [] = transcript (sinceClear es) := by
  -- From the last line: it decides whether those before it matter.
  induction es using List.reverseRecOn with
  | nil => rfl
  | append_singleton es e ih =>
    rw [List.foldl_append, List.foldl_cons, List.foldl_nil, ih, transcript_sinceClear]

/-- **The history** after lines submitted to a new shell is their transcript since the last one
that clears.  A line is passed over exactly when it has no character but blanks, and then
nothing of the shell has changed. -/
theorem history_eq_transcript (fs : FileSystem) (lines : List (Instant × String)) :
    ((new fs).play (submitting lines)).2.session.history
        = transcript (sinceClear ((new fs).answered lines)) ∧
      ∀ (sh : Shell) (now : Instant) (line : String),
        ((sh.submit now line).1 = none ↔ ∀ c ∈ line.toList, isBlank c = true) ∧
          ((sh.submit now line).1 = none → (sh.submit now line).2 = sh) := by
  refine ⟨?history, fun sh now line => ⟨submit_fst_eq_none_iff, submit_snd_of_none⟩⟩
  rw [history_play_submit rfl]
  exact foldl_keep _

end Shell

end TreeShell
