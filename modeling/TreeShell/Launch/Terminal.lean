import TreeShell.Content
import TreeShell.Shell

/-!
# The terminal

The terminal prints what a shell answers: outputs, errors, panels and the profile.  An
interactive terminal greets, and then prompts for lines until its input ends.
-/

namespace TreeShell.Launch

open TreeShell.Command TreeShell.Text TreeShell.Time

/-! ## Printing -/

/-- What was printed, on the two channels. -/
structure Printed where
  output : String := ""
  errors : String := ""
deriving DecidableEq, Repr

namespace Printed

/-- A text on the channel for output. -/
def out (text : String) : Printed := ⟨text, ""⟩

/-- A text on the channel for errors. -/
def err (text : String) : Printed := ⟨"", text⟩

/-- One printing after the other. -/
def append (a b : Printed) : Printed := ⟨a.output ++ b.output, a.errors ++ b.errors⟩

instance : Append Printed := ⟨append⟩

end Printed

/-- What clears a screen. -/
def clearScreen : String := "\x1b[2J\x1b[H"

/-- Whether the first word of a line is `clear`, in any ASCII letter case. -/
def asksToClear (line : String) : Bool :=
  match words line with
  | verb :: _ => verb.toList.map Char.toLower = ['c', 'l', 'e', 'a', 'r']
  | [] => false

/-- A result on its channel. -/
def printResult (r : Result) : Printed :=
  if r.output = "" then {}
  else if r.isError then .err (r.output ++ "\n")
  else .out (r.output ++ "\n")

/-- A text without the blanks at its end. -/
def trimmed (text : String) : String :=
  String.ofList (trimEnd text.toList)

/-- A panel with its title. -/
def printPanel (p : Panel) : Printed :=
  .out ("\n== " ++ p.title ++ " ==\n\n" ++ trimmed p.content ++ "\n\n")

/-- The profile. -/
def printProfile : Printed :=
  .out ("\n" ++ trimmed Content.profile ++ "\n\n")

/-- What a line comes to on the screen, with its result and what it opened; that is
closed again. -/
def printTurn (sh : Shell) (line : String) (r : Result) : Printed × Shell :=
  let cleared := if asksToClear line then Printed.out clearScreen else {}
  let panel := match sh.session.panel with
    | some p => printPanel p
    | none => {}
  let profile := if sh.session.profileOpen then printProfile else {}
  (cleared ++ printResult r ++ panel ++ profile,
    { sh with session := { sh.session with panel := none, profileOpen := false } })

/-! ## Input lines -/

/-- The bytes before the first newline and those after it, if there is one. -/
def cutLine : List UInt8 → List UInt8 × Option (List UInt8)
  | [] => ([], none)
  | b :: bs =>
    if b = 10 then ([], some bs)
    else
      let (line, rest) := cutLine bs
      (b :: line, rest)

/-- A line of an input: its bytes, and whether a newline ends it. -/
structure InputLine where
  bytes : List UInt8
  isEnded : Bool
deriving DecidableEq, Repr

/-- The lines of some bytes, as many as the fuel allows; an empty last one is none. -/
def linesOfBytes : Nat → List UInt8 → List InputLine
  | 0, _ => []
  | _ + 1, [] => []
  | fuel + 1, bs =>
    match cutLine bs with
    | (line, some rest) => ⟨line, true⟩ :: linesOfBytes fuel rest
    | (line, none) => [⟨line, false⟩]

/-- A line as text.  A carriage return in front of the newline is part of the ending. -/
def InputLine.text? (line : InputLine) : Option String := do
  let text ← String.fromUTF8? ⟨line.bytes.toArray⟩
  match line.isEnded, text.toList.reverse with
  | true, '\r' :: cs => some (String.ofList cs.reverse)
  | _, _ => some text

/-- The lines of an input; one that is no text is none. -/
def inputLines (input : ByteArray) : List (Option String) :=
  (linesOfBytes (input.size + 1) input.toList).map InputLine.text?

/-! ## Sessions at a terminal -/

/-- What greets a user. -/
def welcome : String :=
  String.join
    ["Welcome to the Terminal Portfolio!\n",
     "Type 'help' to see available commands.\n",
     "Type 'whoami' to learn more about me.\n",
     "\n"]

/-- The error for input that is no text. -/
def notTextError : String := "blogshell: stream did not contain valid UTF-8\n"

/-- One line at the terminal. -/
def turn (sh : Shell) (now : Instant) (line : String) : Printed × Shell :=
  match sh.submit now line with
  | (some r, sh) => printTurn sh line r
  | (none, sh) => ({}, sh)

/-- Prompts for the lines of an input until it ends or is no text. -/
def converse (sh : Shell) (now : Instant) : List (Option String) → Printed × Shell
  | [] => (.out (sh.prompt ++ " \n"), sh)
  | none :: _ => (.out (sh.prompt ++ " ") ++ .err notTextError, sh)
  | some line :: rest =>
    let (printed, after) := turn sh now line
    let (others, last) := converse after now rest
    (.out (sh.prompt ++ " ") ++ printed ++ others, last)

/-- What is told of the lines of an input. -/
def converseEvents (sh : Shell) (now : Instant) : List (Option String) → List Log.Event
  | some line :: rest =>
    sh.lineEvents now line ++ converseEvents (turn sh now line).2 now rest
  | _ => []

/-- An interactive session over an input. -/
def interact (sh : Shell) (now : Instant) (input : ByteArray) : Printed × Shell :=
  let (printed, sh) := converse sh now (inputLines input)
  (.out welcome ++ printed, sh)

end TreeShell.Launch
