import TreeShell.Pattern.Parser

/-!
# Matching

A line has a place before each character and one at its end.  A pattern takes a set of
places, where matches may begin, to the set of places where they end; a line matches
when a match can begin anywhere and end somewhere.  Reluctance and capturing have no part
in it.
-/

namespace TreeShell.Pattern

/-! ## Places -/

/-- A place in a line: the characters before and after it. -/
structure Place where
  before : Option Char
  after : Option Char
deriving DecidableEq, Repr

/-- The places of the rest of a line, given the character before it. -/
def placesFrom (before : Option Char) : List Char → List Place
  | [] => [⟨before, none⟩]
  | c :: cs => ⟨before, some c⟩ :: placesFrom (some c) cs

/-- The places of a line. -/
def places (line : List Char) : List Place :=
  placesFrom none line

/-- Whether a neighbouring character belongs to a word. -/
def inWord (c : Option Char) : Bool :=
  c.any CharSet.word.contains

/-- Whether a condition holds at a place. -/
def Look.holds : Look → Place → Bool
  | .start, p => p.before.isNone
  | .finish, p => p.after.isNone
  | .lineStart, p => p.before.isNone || p.before = some '\n'
  | .lineFinish, p => p.after.isNone || p.after = some '\n'
  | .lineStartCrlf, p =>
    p.before.isNone || p.before = some '\n' || (p.before = some '\r' && p.after ≠ some '\n')
  | .lineFinishCrlf, p =>
    p.after.isNone || p.after = some '\r' || (p.after = some '\n' && p.before ≠ some '\r')
  | .wordEdge, p => inWord p.before != inWord p.after
  | .notWordEdge, p => inWord p.before == inWord p.after
  | .wordStart, p => !inWord p.before && inWord p.after
  | .wordFinish, p => inWord p.before && !inWord p.after
  | .wordStartHalf, p => !inWord p.before
  | .wordFinishHalf, p => !inWord p.after

/-! ## Sets of places -/

/-- A set of places of a line: for each place in order, whether it belongs to the set. -/
abbrev Marks := List Bool

/-- The places in either set. -/
def Marks.union (s t : Marks) : Marks :=
  List.zipWith (· || ·) s t

/-- The places of a set where a condition holds. -/
def Marks.keep (line : List Place) (test : Place → Bool) (s : Marks) : Marks :=
  List.zipWith (fun b p => b && test p) s line

/-- The places one character after those of a set. -/
def Marks.shift (s : Marks) : Marks :=
  false :: s.dropLast

/-- Applies a step a number of times; a set that it leaves as it is ends the run. -/
def times (step : Marks → Marks) : Nat → Marks → Marks
  | 0, s => s
  | n + 1, s =>
    let t := step s
    if t = s then s else times step n t

/-! ## Patterns -/

mutual

/-- The places where matches of a pattern end that begin at places of a set. -/
def advance (line : List Place) : Pattern → Marks → Marks
  | .empty, s => s
  | .char c, s => (s.keep line fun p => p.after = some c).shift
  | .chars set, s => (s.keep line fun p => p.after.any set.contains).shift
  | .look l, s => s.keep line l.holds
  | .group _ p, s => advance line p s
  | .repeated least most p, s =>
    let more := match most with
      | some m => m - least
      | none => line.length
    times (fun t => t.union (advance line p t)) more (times (advance line p) least s)
  | .sequence ps, s => advanceThrough line ps s
  | .choice ps, s => advanceAny line ps s

/-- The ends of matches of one part after the other. -/
def advanceThrough (line : List Place) : List Pattern → Marks → Marks
  | [], s => s
  | p :: ps, s => advanceThrough line ps (advance line p s)

/-- The ends of matches of any branch. -/
def advanceAny (line : List Place) : List Pattern → Marks → Marks
  | [], s => s.map fun _ => false
  | p :: ps, s => (advance line p s).union (advanceAny line ps s)

end

/-- Whether some part of a line matches. -/
def isFoundIn (p : Pattern) (line : String) : Bool :=
  let ps := places line.toList
  (advance ps p (ps.map fun _ => true)).any id

end TreeShell.Pattern
