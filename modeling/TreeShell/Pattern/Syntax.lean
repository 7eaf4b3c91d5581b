import TreeShell.Pattern.CharSet

/-!
# Search patterns

A pattern describes texts.  Beside its meaning it has a nesting depth and a size, both
of which are limited: the size is what an automaton for the pattern would take in bytes,
where a counted repetition takes its body over and over.
-/

namespace TreeShell.Pattern

/-- A condition on the two characters around a place in a line. -/
inductive Look where
  | start
  | finish
  | lineStart
  | lineFinish
  | lineStartCrlf
  | lineFinishCrlf
  | wordEdge
  | notWordEdge
  | wordStart
  | wordFinish
  | wordStartHalf
  | wordFinishHalf
deriving DecidableEq, Repr

/-- What a capturing group is known by: its number, as groups open from 1 on, and its
name, if it has one. -/
structure Capture where
  number : Nat
  name : Option String
deriving DecidableEq, Repr

end TreeShell.Pattern

namespace TreeShell

open TreeShell.Pattern

/-- A search pattern. -/
inductive Pattern where
  /-- The empty text. -/
  | empty
  /-- One certain character. -/
  | char (c : Char)
  /-- One character of a set. -/
  | chars (set : CharSet)
  /-- The empty text where the condition holds. -/
  | look (condition : Look)
  /-- A capturing group. -/
  | group (capture : Capture) (body : Pattern)
  /-- At least `least` and, if there is a limit, at most `most` times the body. -/
  | repeated (least : Nat) (most : Option Nat) (body : Pattern)
  /-- One part after the other. -/
  | sequence (parts : List Pattern)
  /-- Any of the branches. -/
  | choice (branches : List Pattern)

namespace Pattern

instance : Inhabited Pattern := ⟨.empty⟩

/-! ## Smart constructors -/

/-- A sequence; one part stands for itself. -/
def ofParts : List Pattern → Pattern
  | [] => .empty
  | [p] => p
  | ps => .sequence ps

/-- A choice; one branch stands for itself. -/
def ofBranches : List Pattern → Pattern
  | [p] => p
  | ps => .choice ps

/-- A repetition; once is the body itself, and no times the empty text. -/
def ofCount (least : Nat) (most : Option Nat) (body : Pattern) : Pattern :=
  if most = some 0 then .empty
  else if least = 1 ∧ most = some 1 then body
  else .repeated least most body

/-! ## Depth -/

mutual

/-- Whether no leaf lies more than `limit` steps down. -/
def depthWithin (limit : Nat) : Pattern → Bool
  | .empty | .char _ | .chars _ | .look _ => true
  | .group _ p | .repeated _ _ p => 0 < limit && depthWithin (limit - 1) p
  | .sequence ps | .choice ps => 0 < limit && depthsWithin (limit - 1) ps

/-- `depthWithin` for every part. -/
def depthsWithin (limit : Nat) : List Pattern → Bool
  | [] => true
  | p :: ps => depthWithin limit p && depthsWithin limit ps

end

/-! ## The empty text -/

mutual

/-- Whether a pattern can match without taking a character. -/
def canBeEmpty : Pattern → Bool
  | .empty | .look _ => true
  | .char _ | .chars _ => false
  | .group _ p => canBeEmpty p
  | .repeated least _ p => least = 0 || canBeEmpty p
  | .sequence ps => allCanBeEmpty ps
  | .choice ps => anyCanBeEmpty ps

/-- Whether every part can match without taking a character. -/
def allCanBeEmpty : List Pattern → Bool
  | [] => true
  | p :: ps => canBeEmpty p && allCanBeEmpty ps

/-- Whether some branch can match without taking a character. -/
def anyCanBeEmpty : List Pattern → Bool
  | [] => false
  | p :: ps => canBeEmpty p || anyCanBeEmpty ps

end

/-! ## Captures -/

mutual

/-- The capturing groups of a pattern, in the order in which they open. -/
def captures : Pattern → List Capture
  | .empty | .char _ | .chars _ | .look _ => []
  | .group c p => c :: captures p
  | .repeated _ _ p => captures p
  | .sequence ps | .choice ps => capturesOfAll ps

/-- The capturing groups of some patterns. -/
def capturesOfAll : List Pattern → List Capture
  | [] => []
  | p :: ps => captures p ++ capturesOfAll ps

end

/-! ## Size -/

/-- What a state takes, without its ranges and branches. -/
def stateSize : Nat := 32

/-- What a range of characters takes. -/
def rangeSize : Nat := 8

/-- What a branch takes. -/
def branchSize : Nat := 4

/-- What a state with some branches takes. -/
def forkSize (branches : Nat) : Nat :=
  stateSize + branchSize * branches

/-- What a repetition takes of a body with a size.  Optional turns share a state where
they meet.  A body that can be empty is left through a second fork, so that a turn
without progress does not come back. -/
def repeatedSize (least : Nat) (most : Option Nat) (body : Nat) (canBeEmpty : Bool) : Nat :=
  match most with
  | none =>
    if least = 0 ∧ canBeEmpty then body + 2 * forkSize 2 + stateSize
    else max least 1 * body + forkSize 2
  | some most =>
    let required := least * body
    let optional := (most - least) * (body + forkSize 2)
    if least = most then required
    else if least = 0 ∧ most ≠ 1 then 2 * stateSize + optional
    else required + stateSize + optional

mutual

/-- The size of the states for a pattern. -/
def size : Pattern → Nat
  | .empty | .char _ | .look _ => stateSize
  | .chars s => stateSize + rangeSize * s.ranges.length
  | .group _ p => size p + 2 * stateSize
  | .repeated least most p => repeatedSize least most (size p) (canBeEmpty p)
  | .sequence ps => sizes ps
  | .choice ps => sizes ps + forkSize ps.length + stateSize

/-- The sum of the sizes of some parts. -/
def sizes : List Pattern → Nat
  | [] => 0
  | p :: ps => size p + sizes ps

end

/-- What a place in the table of groups takes. -/
def slotSize : Nat := 16

/-- What the name of a group takes: its bytes and the number that it stands for. -/
def nameSize (c : Capture) : Nat :=
  match c.name with
  | none => 0
  | some name => name.utf8ByteSize + branchSize

/-- The size of the table of groups.  It has a place for the whole match and one for
every number up to the highest, and it holds the names. -/
def tableSize (cs : List Capture) : Nat :=
  slotSize * (cs.foldl (fun n c => max n c.number) 0 + 1)
    + cs.foldl (fun n c => n + nameSize c) 0

/-- The size of the automaton for a pattern: its states, those around the whole match and
the last one, and the table of groups. -/
def automatonSize (p : Pattern) : Nat :=
  size p + 3 * stateSize + tableSize (captures p)

/-! ## Limits -/

/-- How deep groups and patterns may nest. -/
def maxDepth : Nat := 50

/-- How large the automaton of a pattern may be. -/
def maxSize : Nat := 10 * 1024 * 1024

/-- Whether a pattern keeps to the limits. -/
def withinLimits (p : Pattern) : Bool :=
  depthWithin maxDepth p && decide (automatonSize p ≤ maxSize)

end Pattern

end TreeShell
