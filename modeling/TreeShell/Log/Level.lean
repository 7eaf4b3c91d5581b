/-!
# Log levels

A level says how much is logged.  It is written by its name in any letter case, or by its
number.
-/

namespace TreeShell.Log

/-- How much is logged. -/
inductive Level where
  | off
  | error
  | warn
  | info
  | debug
  | trace
deriving DecidableEq, Repr

/-- The name of a level. -/
def Level.name : Level → String
  | .off => "off"
  | .error => "error"
  | .warn => "warn"
  | .info => "info"
  | .debug => "debug"
  | .trace => "trace"

/-- The levels, from the least to the most that is logged. -/
def Level.all : List Level :=
  [.off, .error, .warn, .info, .debug, .trace]

/-- The number of a level, by which levels are compared. -/
def Level.number : Level → Nat
  | .off => 0
  | .error => 1
  | .warn => 2
  | .info => 3
  | .debug => 4
  | .trace => 5

/-- The level with a number from 0 to 5, or with a name in any letter case. -/
def Level.ofText? (cs : List Char) : Option Level :=
  let digits := match cs with
    | '+' :: ds => ds
    | ds => ds
  if !digits.isEmpty ∧ digits.all Char.isDigit then all[Nat.ofDigitChars 10 digits 0]?
  else all.find? fun l => l.name.toList = cs.map Char.toLower

/-- The level after an equals sign; nothing there means everything. -/
def Level.afterSign? (cs : List Char) : Option Level :=
  if cs.isEmpty then some .trace else ofText? cs

end TreeShell.Log
