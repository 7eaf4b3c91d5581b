import TreeShell.Command.Basic

/-!
# Sessions

A session is what the terminal shows beside the file system: the history of submitted
lines, the panel that is open, and whether the profile is shown.
-/

namespace TreeShell

open TreeShell.Command

/-- A submitted line and what it printed. -/
structure HistoryEntry where
  line : String
  result : Result
deriving DecidableEq, Repr

/-- A markdown text under its title. -/
structure Panel where
  content : String
  title : String
deriving DecidableEq, Repr

/-- The view of a terminal. -/
structure Session where
  history : List HistoryEntry := []
  profileOpen : Bool := false
  panel : Option Panel := none
deriving DecidableEq, Repr

namespace Session

/-- Adds a last entry to the history. -/
def record (s : Session) (line : String) (result : Result) : Session :=
  { s with history := s.history ++ [⟨line, result⟩] }

/-- Does what a command asks. -/
def heed (s : Session) : Signal → Session
  | .clearHistory => { s with history := [] }
  | .openPanel content title => { s with panel := some ⟨content, title⟩ }
  | .openProfile => { s with profileOpen := true }

end Session

end TreeShell
