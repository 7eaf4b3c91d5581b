/-!
# Blank characters and words

A character is blank when Unicode gives it the property `White_Space`; there are
25 of them.  Words are the maximal runs of other characters, and trimming removes
the blanks at the ends of a text.
-/

namespace TreeShell.Text

/-! ## The property -/

/-- The blanks as inclusive ranges of code points. -/
def blankRanges : List (Nat × Nat) :=
  [(0x09, 0x0D), (0x20, 0x20), (0x85, 0x85), (0xA0, 0xA0), (0x1680, 0x1680),
   (0x2000, 0x200A), (0x2028, 0x2029), (0x202F, 0x202F), (0x205F, 0x205F), (0x3000, 0x3000)]

/-- Whether a code point lies in one of the inclusive ranges. -/
def inRanges (ranges : List (Nat × Nat)) (n : Nat) : Bool :=
  ranges.any fun r => r.1 ≤ n && n ≤ r.2

/-- Whether a character has the property `White_Space`. -/
def isBlank (c : Char) : Bool :=
  inRanges blankRanges c.toNat

/-! ## Trimming -/

/-- Drops the blanks in front. -/
def trimStart (cs : List Char) : List Char :=
  cs.dropWhile isBlank

/-- Drops the blanks at the end. -/
def trimEnd (cs : List Char) : List Char :=
  (cs.reverse.dropWhile isBlank).reverse

/-- Drops the blanks at both ends. -/
def trim (cs : List Char) : List Char :=
  trimEnd (trimStart cs)

/-! ## Words -/

/-- The maximal blank-free runs of a character list, in order. -/
def wordsOf (cs : List Char) : List (List Char) :=
  (cs.splitOnP isBlank).filter fun w => !w.isEmpty

/-- The words of a text. -/
def words (s : String) : List String :=
  (wordsOf s.toList).map String.ofList

/-- Whether a text has no character but blanks. -/
def allBlank (s : String) : Bool :=
  s.toList.all isBlank

/-! ## Lines -/

/-- The pieces of a text between its newlines; a text without one is a single line. -/
def lines (s : String) : List String :=
  (s.toList.splitOn '\n').map String.ofList

end TreeShell.Text
