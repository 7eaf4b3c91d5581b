import Mathlib.Tactic.Common
import TreeShell.Launch.Terminal
import TreeShell.Proofs.History
import TreeShell.Proofs.Text.LowerCase

/-!
# The screen and the history are cleared together

The terminal reads for itself whether a line asks for an empty screen: it compares the first word
in ASCII letter case, where the shell looks up the full lower-case form of this word.  For the name
`clear` both readings are the same, because no character outside ASCII becomes one of its letters.

## Layers

- `Shell.Dispatches`: the command that a line leads to;
- `Launch.asksToClear_iff`: the terminal's reading of a line is the shell's;
- `Launch.printTurn_of_asksToClear`, `Launch.printTurn_of_not_asksToClear`: what a line prints,
  measured by what a line without words prints;
- `Shell.clears_iff_dispatches`.
-/

namespace TreeShell

open TreeShell.Command TreeShell.Launch TreeShell.Text TreeShell.Time

/-! ## What a line is dispatched to -/

namespace Shell

/-- Whether the first word of a line leads a shell to a command. -/
def Dispatches (sh : Shell) (line : String) (c : Command) : Prop :=
  ∃ first args, words line = first :: args ∧ sh.registry.find? (toLower first) = some c

variable {sh : Shell} {line : String}

/-- What a line is dispatched to is performed. -/
theorem handle_of_dispatches {c : Command} (h : sh.Dispatches line c) (now : Instant) :
    ∃ args, sh.handle now line = sh.perform now c args := by
  obtain ⟨first, args, hWords, hFind⟩ := h
  refine ⟨args, ?_⟩
  simp only [handle, hWords, hFind]

theorem dispatches_clear_iff (hRegistry : sh.registry = .standard) :
    sh.Dispatches line clear ↔ Clears line := by
  constructor
  · rintro ⟨first, args, hWords, hFind⟩
    have hName : clear.name = toLower first := Registry.name_of_find? (hRegistry ▸ hFind)
    rw [Clears, hWords, List.head?_cons, Option.map_some, ← hName]
    rfl
  · intro hClears
    cases hWords : words line with
    | nil => simp [Clears, hWords] at hClears
    | cons first args =>
      have hName : toLower first = "clear" := by simpa [Clears, hWords] using hClears
      have hFind : Registry.standard.find? "clear" = some clear := rfl
      exact ⟨first, args, hWords, by rw [hRegistry, hName, hFind]⟩

theorem history_of_dispatches (h : sh.Dispatches line clear) (now : Instant) :
    (sh.handle now line).2.session.history = [] := by
  obtain ⟨args, hHandle⟩ := handle_of_dispatches h now
  rw [hHandle]
  rfl

end Shell

/-! ## What the terminal reads and prints -/

namespace Launch

theorem Printed.append_assoc (a b c : Printed) : a ++ b ++ c = a ++ (b ++ c) :=
  congrArg₂ Printed.mk String.append_assoc String.append_assoc

theorem Printed.empty_append (a : Printed) : ({} : Printed) ++ a = a :=
  congrArg₂ Printed.mk String.empty_append String.empty_append

/-- What is printed behind something that is not empty is not the same again. -/
theorem Printed.out_append_ne {text : String} (h : text ≠ "") (a : Printed) :
    Printed.out text ++ a ≠ a := by
  intro hSame
  have hOutput : text ++ a.output = a.output := congrArg Printed.output hSame
  have hLength := congrArg String.length hOutput
  rw [String.length_append] at hLength
  have hPositive : text.length ≠ 0 := fun hZero => h (String.length_eq_zero_iff.1 hZero)
  omega

/-- **The two readings** of a line agree: the terminal's in ASCII letter case and the shell's in
full lower case. -/
theorem asksToClear_iff {line : String} : asksToClear line = true ↔ Shell.Clears line := by
  have hAll : "clear".toList.all (fun c => decide (IsAsciiOnly c)) = true := by decide +kernel
  have hLetters : ∀ c ∈ "clear".toList, IsAsciiOnly c :=
    fun c hMem => of_decide_eq_true (List.all_eq_true.1 hAll c hMem)
  cases hWords : words line with
  | nil => simp [asksToClear, Shell.Clears, hWords]
  | cons first args =>
    have hWord : toLower first = "clear" ↔ first.toList.map Char.toLower = "clear".toList :=
      toLower_eq_iff hLetters first
    simp only [asksToClear, Shell.Clears, hWords, List.head?_cons, Option.map_some,
      Option.some.injEq, decide_eq_true_eq, hWord]
    rfl

variable {line : String}

theorem printTurn_of_not_asksToClear (h : asksToClear line = false) (sh : Shell) (r : Result) :
    (printTurn sh line r).1 = (printTurn sh "" r).1 := by
  have hNone : asksToClear "" = false := by decide +kernel
  simp only [printTurn, h, hNone]

theorem printTurn_of_asksToClear (h : asksToClear line = true) (sh : Shell) (r : Result) :
    (printTurn sh line r).1 = Printed.out clearScreen ++ (printTurn sh "" r).1 := by
  have hNone : asksToClear "" = false := by decide +kernel
  simp only [printTurn, h, hNone, if_true, Bool.false_eq_true, if_false, Printed.empty_append,
    Printed.append_assoc]

theorem clearScreen_ne : clearScreen ≠ "" := by
  decide

end Launch

/-! ## Both together -/

/-- **Clearing**: whatever a terminal shows of a line's result, it empties the screen before it
exactly when the shell dispatched the line to `clear`, and prints the same otherwise; and the shell
has emptied its history exactly then. -/
theorem Shell.clears_iff_dispatches (fs : FileSystem) (session : Session) (now : Instant)
    (line : String) :
    let sh : Shell := { fs, session }
    (∀ (shown : Shell) (r : Result),
      ((printTurn shown line r).1 = .out clearScreen ++ (printTurn shown "" r).1 ↔
        sh.Dispatches line clear) ∧
      ((printTurn shown line r).1 = (printTurn shown "" r).1 ↔ ¬ sh.Dispatches line clear)) ∧
    (sh.Dispatches line clear → (sh.handle now line).2.session.history = []) ∧
    (¬ sh.Dispatches line clear → (sh.handle now line).2.session.history = session.history) := by
  intro sh
  have hClears : sh.Dispatches line clear ↔ Clears line := dispatches_clear_iff rfl
  refine ⟨fun shown r => ?_, fun h => history_of_dispatches h now, fun h => ?_⟩
  · have hBefore := Printed.out_append_ne clearScreen_ne (printTurn shown "" r).1
    rw [hClears, ← asksToClear_iff]
    cases hAsks : asksToClear line with
    | true =>
      rw [printTurn_of_asksToClear hAsks]
      exact ⟨iff_of_true rfl rfl, iff_of_false hBefore (not_not_intro rfl)⟩
    | false =>
      rw [printTurn_of_not_asksToClear hAsks]
      exact ⟨iff_of_false hBefore.symm Bool.false_ne_true, iff_of_true rfl Bool.false_ne_true⟩
  · rw [history_handle rfl, if_neg (hClears.not.1 h)]

end TreeShell
