import TreeShell.Pattern.Escape

/-!
# Bracketed classes

A class in brackets is the union of its items and ranges, or what lies outside it after
a caret.  Named classes stand inside it between `[:` and `:]`.  Classes do not nest, and
the signs of set arithmetic, `&&`, `--` and `~~`, are refused.
-/

namespace TreeShell.Pattern

open TreeShell.Text

/-! ## Parts of a class -/

/-- The set that an item adds; a place adds none and is refused. -/
def Item.toSet? : Item → Option CharSet
  | .literal c => some (.single c)
  | .set s => some s
  | .look _ => none

/-- The character that an item is, as the end of a range. -/
def Item.toChar? : Item → Option Char
  | .literal c => some c
  | _ => none

/-- One item of a class. -/
def classItem? (f : Flags) : List Char → Option (Item × List Char)
  | [] => none
  | '\\' :: cs => escape? f cs
  | c :: cs => some (.literal c, cs)

/-- A named class after its opening bracket. -/
def namedClass? : List Char → Option (CharSet × List Char)
  | ':' :: cs =>
    let (negated, body) := match cs with
      | '^' :: r => (true, r)
      | r => (false, r)
    match body.dropWhile (· ≠ ':') with
    | ':' :: ']' :: rest =>
      (CharSet.named? (String.ofList (body.takeWhile (· ≠ ':')))).map fun s =>
        (if negated then s.complement else s, rest)
    | _ => none
  | _ => none

/-- The first character of a text that spaced notation does not pass over at a glance: the
glance passes blanks and a single `#`, and takes what the `#` comments out for signs. -/
def glance (afterHash : Bool) : List Char → Option Char
  | [] => none
  | c :: cs =>
    if isBlank c then glance afterHash cs
    else if c = '#' ∧ !afterHash then glance true cs
    else some c

/-- Whether the dash in front, whose followers are given, is the middle of a range: what
comes next may neither close the class nor be a dash. -/
def beginsRange (f : Flags) (afterDash : List Char) : Bool :=
  let next := if f.spaced then glance false afterDash else afterDash.head?
  next ≠ some ']' && next ≠ some '-'

/-- An item or a range of a class. -/
def classRange? (f : Flags) (cs : List Char) : Option (CharSet × List Char) := do
  let (first, r) ← classItem? f cs
  match f.skip r with
  | [] => none
  | '-' :: afterDash =>
    if beginsRange f afterDash then
      let (last, rest) ← classItem? f (f.skip afterDash)
      let lo ← first.toChar?
      let hi ← last.toChar?
      if hi < lo then none else some (⟨[(lo.toNat, hi.toNat)]⟩, rest)
    else some (← first.toSet?, '-' :: afterDash)
  | r => some (← first.toSet?, r)

/-! ## Classes -/

/-- The set of a complete class. -/
def classSet (f : Flags) (negated : Bool) (ranges : List (Nat × Nat)) : CharSet :=
  let s := CharSet.ofRanges ranges
  let s := if f.caseless then s.foldCase else s
  if negated then s.complement else s

/-- Reads the parts of a class up to its closing bracket. -/
def classBody? (f : Flags) (negated : Bool) :
    Nat → List (Nat × Nat) → List Char → Option (CharSet × List Char)
  | 0, _, _ => none
  | fuel + 1, ranges, cs =>
    match f.skip cs with
    | [] => none
    | '[' :: r => do
      let (s, r) ← namedClass? r
      classBody? f negated fuel (ranges ++ s.ranges) r
    | ']' :: r => some (classSet f negated ranges, r)
    | '&' :: '&' :: _ => none
    | '-' :: '-' :: _ => none
    | '~' :: '~' :: _ => none
    | cs => do
      let (s, r) ← classRange? f cs
      classBody? f negated fuel (ranges ++ s.ranges) r

/-- The dashes in front of a class stand for themselves. -/
def leadingDashes (f : Flags) : Nat → List (Nat × Nat) → List Char →
    List (Nat × Nat) × List Char
  | fuel + 1, ranges, '-' :: cs => leadingDashes f fuel (ranges ++ [(0x2D, 0x2D)]) (f.skip cs)
  | _, ranges, cs => (ranges, cs)

/-- A class after its opening bracket. -/
def class? (f : Flags) (cs : List Char) : Option (CharSet × List Char) :=
  let cs := f.skip cs
  let (negated, cs) := match cs with
    | '^' :: r => (true, f.skip r)
    | r => (false, r)
  match leadingDashes f cs.length [] cs with
  | ([], ']' :: r) => classBody? f negated (cs.length + 1) [(0x5D, 0x5D)] (f.skip r)
  | (ranges, r) => classBody? f negated (cs.length + 1) ranges r

end TreeShell.Pattern
