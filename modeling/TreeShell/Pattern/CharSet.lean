import TreeShell.Text.Blank

/-!
# Character sets

A set of characters is a list of inclusive ranges of code points, ascending and apart.
Letter case is that of ASCII.
-/

namespace TreeShell.Pattern

open TreeShell.Text

/-- A set of characters. -/
structure CharSet where
  ranges : List (Nat × Nat)
deriving DecidableEq, Repr

namespace CharSet

/-- Whether a character belongs to the set. -/
def contains (s : CharSet) (c : Char) : Bool :=
  inRanges s.ranges c.toNat

/-! ## Making sets -/

/-- Joins ranges in ascending order that touch or overlap, from a first one on. -/
def joinFrom (lo hi : Nat) : List (Nat × Nat) → List (Nat × Nat)
  | [] => [(lo, hi)]
  | (a, b) :: rest =>
    if a ≤ hi + 1 then joinFrom lo (max hi b) rest else (lo, hi) :: joinFrom a b rest

/-- The set of the characters in any of the ranges. -/
def ofRanges (ranges : List (Nat × Nat)) : CharSet :=
  match ranges.mergeSort fun r s => r.1 ≤ s.1 with
  | [] => ⟨[]⟩
  | (a, b) :: rest => ⟨joinFrom a b rest⟩

/-- The set of one character. -/
def single (c : Char) : CharSet :=
  ⟨[(c.toNat, c.toNat)]⟩

/-- The characters of either set. -/
def union (s t : CharSet) : CharSet :=
  ofRanges (s.ranges ++ t.ranges)

/-- The gaps between ranges in ascending order, from a code point on. -/
def gapsFrom (start : Nat) : List (Nat × Nat) → List (Nat × Nat)
  | [] => if start ≤ 0x10FFFF then [(start, 0x10FFFF)] else []
  | (a, b) :: rest =>
    if start < a then (start, a - 1) :: gapsFrom (b + 1) rest else gapsFrom (b + 1) rest

/-- The characters outside the set. -/
def complement (s : CharSet) : CharSet :=
  ⟨gapsFrom 0 s.ranges⟩

/-! ## Letter case -/

/-- The part of a range between two code points, moved; nothing when there is none. -/
def shifted (lo hi target : Nat) (r : Nat × Nat) : List (Nat × Nat) :=
  if max r.1 lo ≤ min r.2 hi then
    [(max r.1 lo - lo + target, min r.2 hi - lo + target)]
  else []

/-- The other case of the letters in a range: of the small letters if it has any, else of
the capitals. -/
def otherCase (r : Nat × Nat) : List (Nat × Nat) :=
  match shifted 0x61 0x7A 0x41 r with
  | [] => shifted 0x41 0x5A 0x61 r
  | capitals => capitals

/-- The set with the other case of the ASCII letters in each of its ranges. -/
def foldCase (s : CharSet) : CharSet :=
  ofRanges (s.ranges ++ s.ranges.flatMap otherCase)

/-! ## Named sets -/

/-- All characters. -/
def all : CharSet := ⟨[(0, 0x10FFFF)]⟩

/-- The ASCII digits. -/
def digit : CharSet := ⟨[(0x30, 0x39)]⟩

/-- The ASCII letters, digits and the underscore. -/
def word : CharSet := ⟨[(0x30, 0x39), (0x41, 0x5A), (0x5F, 0x5F), (0x61, 0x7A)]⟩

/-- The ASCII blanks. -/
def space : CharSet := ⟨[(0x09, 0x0D), (0x20, 0x20)]⟩

/-- The set that a name between `[:` and `:]` stands for. -/
def named? : String → Option CharSet
  | "alnum" => some ⟨[(0x30, 0x39), (0x41, 0x5A), (0x61, 0x7A)]⟩
  | "alpha" => some ⟨[(0x41, 0x5A), (0x61, 0x7A)]⟩
  | "ascii" => some ⟨[(0x00, 0x7F)]⟩
  | "blank" => some ⟨[(0x09, 0x09), (0x20, 0x20)]⟩
  | "cntrl" => some ⟨[(0x00, 0x1F), (0x7F, 0x7F)]⟩
  | "digit" => some digit
  | "graph" => some ⟨[(0x21, 0x7E)]⟩
  | "lower" => some ⟨[(0x61, 0x7A)]⟩
  | "print" => some ⟨[(0x20, 0x7E)]⟩
  | "punct" => some ⟨[(0x21, 0x2F), (0x3A, 0x40), (0x5B, 0x60), (0x7B, 0x7E)]⟩
  | "space" => some space
  | "upper" => some ⟨[(0x41, 0x5A)]⟩
  | "word" => some word
  | "xdigit" => some ⟨[(0x30, 0x39), (0x41, 0x46), (0x61, 0x66)]⟩
  | _ => none

end CharSet

end TreeShell.Pattern
