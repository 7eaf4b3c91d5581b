import TreeShell.Pattern.Parser

/-!
# Patterns for field values

A log directive can ask for a value by a pattern.  Beside the notation of searches a class
may stand in a class, with the signs of set arithmetic.  Only whether a text is a pattern
is told here.

Such a pattern goes by all characters or, where it says so, by those of ASCII.  No table
of characters is at hand, so that the classes of a letter, the edges of words and letters
in either case need ASCII.  There, on the other hand, nothing may match a part of a
character beyond it.  Counts are never complete, since a brace ends the field.

A pattern is a tree, which may stand only so high.  Groups, repetitions and classes are
nodes of it, and so is what holds several parts, branches or items; its leaves have no
height.
-/

namespace TreeShell.Log

open TreeShell.Pattern

/-! ## What may stand in a pattern -/

/-- Whether single characters can be matched. -/
def allowsLiterals (f : Flags) : Bool :=
  !(f.unicode && f.caseless)

/-- Whether a part of a class, with its characters, can be matched. -/
def allowsSet (f : Flags) (s : CharSet) : Bool :=
  if f.unicode then allowsLiterals f else s.ranges.all fun r => r.2 < 0x80

/-- Whether an item is a place at the edge of a word, or one that is not. -/
def isWordEdge : Item → Bool
  | .look l => l ≠ .start && l ≠ .finish
  | _ => false

/-- Reads an escape after its backslash. -/
def escapeEnd? (f : Flags) (cs : List Char) : Option (List Char) :=
  match escape? { f with caseless := false } cs with
  | none => none
  | some (.literal c, rest) =>
    let isByte := !f.unicode && cs.head? = some 'x'
    if allowsLiterals f && !(isByte && 0x80 ≤ c.toNat) then some rest else none
  | some (.set s, rest) => if !f.unicode && allowsSet f s then some rest else none
  | some (item, rest) => if f.unicode && isWordEdge item then none else some rest

/-! ## Heights -/

/-- How high nodes in a row stand: more than one need a node that holds them. -/
def rowHeight : List Nat → Nat
  | [] => 0
  | [h] => h
  | hs => hs.foldl (fun m h => max m h) 0 + 1

/-! ## Classes -/

/-- Whether a text begins with the class of a letter. -/
def beginsWithClass : List Char → Bool
  | '\\' :: c :: _ => (classOf? c).isSome
  | _ => false

/-- Reads an item or a range of a class. -/
def classPartEnd? (f : Flags) (cs : List Char) : Option (List Char) :=
  match classRange? { f with caseless := false } cs with
  | some (s, rest) =>
    if allowsSet f s && !(f.unicode && beginsWithClass cs) then some rest else none
  | none => none

/-- A class that is open: how high its items stand. -/
structure OpenClass where
  /-- The items since the last sign of set arithmetic, latest first. -/
  items : List Nat := []
  /-- What stands before that sign. -/
  before : Option Nat := none
deriving DecidableEq, Repr

namespace OpenClass

/-- How high what the class holds stands. -/
def height (c : OpenClass) : Nat :=
  match c.before with
  | none => rowHeight c.items
  | some h => max h (rowHeight c.items) + 1

/-- Adds an item. -/
def add (c : OpenClass) (height : Nat) : OpenClass :=
  { c with items := height :: c.items }

/-- Begins the next operand of set arithmetic. -/
def operand (c : OpenClass) : OpenClass :=
  { items := [], before := some c.height }

end OpenClass

/-- Reads the beginning of a class after its bracket: a caret, and the dashes or the
bracket that stand for themselves. -/
def classStart? (f : Flags) (cs : List Char) : Option (OpenClass × List Char) :=
  let cs := f.skip cs
  let (negated, cs) := match cs with
    | '^' :: r => (true, f.skip r)
    | r => (false, r)
  if negated && !f.unicode then none
  else
    match leadingDashes f cs.length [] cs with
    | ([], ']' :: r) => if allowsLiterals f then some ({ items := [0] }, f.skip r) else none
    | ([], r) => some ({}, r)
    | (dashes, r) =>
      if allowsLiterals f then some ({ items := dashes.map fun _ => 0 }, r) else none

/-- Reads an open class, inside other ones, up to the closing bracket of the outermost;
answers how high that stands. -/
def classEnd? (f : Flags) :
    Nat → List OpenClass → OpenClass → List Char → Option (Nat × List Char)
  | 0, _, _, _ => none
  | fuel + 1, outer, c, cs =>
    match f.skip cs with
    | [] => none
    | ']' :: r =>
      match outer with
      | [] => some (c.height + 1, r)
      | d :: ds => classEnd? f fuel ds (d.add (c.height + 1)) r
    | '[' :: r =>
      match namedClass? r with
      | some (s, r) => if allowsSet f s then classEnd? f fuel outer (c.add 0) r else none
      | none => do
        let (inner, r) ← classStart? f r
        classEnd? f fuel (c :: outer) inner r
    | '&' :: '&' :: r => classEnd? f fuel outer c.operand r
    | '-' :: '-' :: r => classEnd? f fuel outer c.operand r
    | '~' :: '~' :: r => classEnd? f fuel outer c.operand r
    | cs => do classEnd? f fuel outer (c.add 0) (← classPartEnd? f cs)

/-- Reads a class after its bracket; answers how high it stands. -/
def classHeight? (f : Flags) (cs : List Char) : Option (Nat × List Char) := do
  let (c, r) ← classStart? f cs
  classEnd? f (cs.length + 1) [] c r

/-! ## Signs -/

/-- A part of a pattern: how high it stands, and whether it can be repeated. -/
structure Part where
  height : Nat := 0
  isRepeatable : Bool := true
deriving DecidableEq, Repr

/-- What has been read of a group. -/
structure OpenGroup where
  flags : Flags := {}
  /-- The parts of the last branch, latest first. -/
  parts : List Part := []
  /-- How high the branches before it stand. -/
  branches : List Nat := []
deriving DecidableEq, Repr

namespace OpenGroup

/-- Adds a part. -/
def add (g : OpenGroup) (p : Part) : OpenGroup :=
  { g with parts := p :: g.parts }

/-- How high the last branch stands. -/
def branchHeight (g : OpenGroup) : Nat :=
  rowHeight (g.parts.map Part.height)

/-- How high what the group holds stands. -/
def height (g : OpenGroup) : Nat :=
  rowHeight (g.branchHeight :: g.branches)

/-- Begins a new branch. -/
def branch (g : OpenGroup) : OpenGroup :=
  { g with parts := [], branches := g.branchHeight :: g.branches }

end OpenGroup

/-- How far a pattern has been read. -/
structure Reading where
  /-- The innermost group, or the pattern itself. -/
  group : OpenGroup := {}
  /-- The groups around it, innermost first. -/
  outer : List OpenGroup := []
  /-- The names of groups. -/
  names : List String := []
deriving DecidableEq, Repr

namespace Reading

/-- The reading after a part. -/
def add (r : Reading) (p : Part) : Reading :=
  { r with group := r.group.add p }

/-- Opens a group with its flags. -/
def openGroup (r : Reading) (flags : Flags) : Reading :=
  { r with group := { flags := flags }, outer := r.group :: r.outer }

/-- Closes the innermost group. -/
def closeGroup? (r : Reading) : Option Reading :=
  match r.outer with
  | [] => none
  | g :: gs => some { r with group := g.add { height := r.group.height + 1 }, outer := gs }

/-- Opens a group with a name that is not taken. -/
def namedGroup? (r : Reading) (cs : List Char) : Option (Reading × List Char) := do
  let (name, rest) ← groupName? cs
  if name ∈ r.names then none
  else some ({ r with names := name :: r.names }.openGroup r.group.flags, rest)

/-- Sets flags for what follows in the group. -/
def setFlags (r : Reading) (flags : Flags) : Reading :=
  { r with group := { r.group with flags := flags } }.add { isRepeatable := false }

/-- What follows an opening parenthesis. -/
def group? (r : Reading) : List Char → Option (Reading × List Char)
  | '?' :: 'P' :: '<' :: cs => r.namedGroup? cs
  | '?' :: '<' :: cs => r.namedGroup? cs
  | '?' :: ')' :: _ => none
  | '?' :: cs => do
    match ← flags? r.group.flags true [] false cs with
    | (f, ':' :: rest) => some (r.openGroup f, rest)
    | (f, _ :: rest) => some (r.setFlags f, rest)
    | (_, []) => none
  | cs => some (r.openGroup r.group.flags, cs)

/-- The reading after a repetition of the last part. -/
def repeat? (r : Reading) (cs : List Char) : Option (Reading × List Char) :=
  match r.group.parts with
  | [] => none
  | p :: ps =>
    if p.isRepeatable then
      let repeated : OpenGroup := { r.group with parts := { height := p.height + 1 } :: ps }
      some ({ r with group := repeated }, dropReluctant cs)
    else none

/-- The reading after the sign in front. -/
def sign? (r : Reading) : List Char → Option (Reading × List Char)
  | [] => none
  | '(' :: cs => r.group? (r.group.flags.skip cs)
  | ')' :: cs => r.closeGroup?.map fun next => (next, cs)
  | '|' :: cs => some ({ r with group := r.group.branch }, cs)
  | '[' :: cs => (classHeight? r.group.flags cs).map fun (h, rest) => (r.add { height := h }, rest)
  | '?' :: cs => r.repeat? cs
  | '*' :: cs => r.repeat? cs
  | '+' :: cs => r.repeat? cs
  | '\x7b' :: _ => none
  | '\\' :: cs => (escapeEnd? r.group.flags cs).map fun rest => (r.add {}, rest)
  | '.' :: cs => if r.group.flags.unicode then some (r.add {}, cs) else none
  | '^' :: cs => some (r.add {}, cs)
  | '$' :: cs => some (r.add {}, cs)
  | _ :: cs => if allowsLiterals r.group.flags then some (r.add {}, cs) else none

/-- Reads signs to the end of a text, as many as the fuel allows. -/
def signs? : Nat → Reading → List Char → Option Reading
  | 0, _, _ => none
  | fuel + 1, r, cs =>
    match r.group.flags.skip cs with
    | [] => some r
    | c :: cs => do
      let (next, rest) ← r.sign? (c :: cs)
      signs? fuel next rest

end Reading

/-- How high a pattern may stand. -/
def maxHeight : Nat := 250

/-- Whether a text is a pattern for values. -/
def isValuePattern (cs : List Char) : Bool :=
  match Reading.signs? (cs.length + 1) {} cs with
  | some r => r.outer.isEmpty && decide (r.group.height ≤ maxHeight)
  | none => false

end TreeShell.Log
