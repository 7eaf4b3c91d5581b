import TreeShell.Text.Blank
import TreeShell.Text.CaseTable

/-!
# Lower-case text

The full Unicode lower-case mapping of a text.  Two rules go beyond a table from
characters to characters: a dotted capital I becomes two characters, and a capital
sigma becomes a final sigma at the end of a word.
-/

namespace TreeShell.Text

/-! ## Single characters -/

/-- The partner of a code point inside a run, if the run holds it. -/
def CaseRun.partner? (r : CaseRun) (n : Nat) : Option Nat :=
  if r.first ≤ n && n ≤ r.last && (n - r.first) % r.stride == 0 then
    some (r.partner + (n - r.first))
  else
    none

/-- The lower-case form of one character, whatever stands around it. -/
def lowerChar (c : Char) : List Char :=
  if c.toNat < 0x80 then
    [c.toLower]
  else if c = 'İ' then
    ['i', Char.ofNat 0x307]
  else
    match caseRuns.findSome? (·.partner? c.toNat) with
    | some n => [Char.ofNat n]
    | none => [c]

/-! ## Sigma -/

/-- Whether a character is cased. -/
def isCased (c : Char) : Bool :=
  inRanges casedRanges c.toNat

/-- Whether a character is passed over in the search for a cased neighbour. -/
def isCaseIgnorable (c : Char) : Bool :=
  inRanges caseIgnorableRanges c.toNat

/-- Whether the nearest character that is not passed over is cased. -/
def meetsCased (cs : List Char) : Bool :=
  (cs.dropWhile isCaseIgnorable).head?.any isCased

/-- The lower-case form of a capital sigma: final when a cased letter stands before
it and none after it.  The text before it is given from its end. -/
def lowerSigma (before after : List Char) : Char :=
  if meetsCased before && !meetsCased after then 'ς' else 'σ'

/-! ## Whole texts -/

/-- Lower-cases the rest of a text, given what stands before it from its end. -/
def lowerFrom (before : List Char) : List Char → List Char
  | [] => []
  | c :: cs =>
    (if c = 'Σ' then [lowerSigma before cs] else lowerChar c) ++ lowerFrom (c :: before) cs

/-- The lower-case form of a text. -/
def toLower (s : String) : String :=
  String.ofList (lowerFrom [] s.toList)

end TreeShell.Text
