import TreeShell.Pattern.Bracket
import TreeShell.Text.LetterTable

/-!
# Reading patterns

A pattern is read sign by sign.  The groups that are open stand on a stack; each sign
either completes a part, opens or closes a group, begins a branch, repeats the last part
or changes the flags.

Refused are look-around, back-references, Unicode classes, group names that occur twice,
a repetition with nothing to repeat, and patterns beyond the limits.
-/

namespace TreeShell.Pattern

open TreeShell.Text

/-! ## The reader's state -/

/-- A group that is open: what surrounds it, latest first, and the flags to return to. -/
structure Frame where
  branches : List Pattern
  parts : List Pattern
  flags : Flags
  capture : Option Capture

/-- What has been read of a pattern. -/
structure Progress where
  frames : List Frame := []
  /-- The complete branches of the innermost group, latest first. -/
  branches : List Pattern := []
  /-- The parts of its last branch, latest first. -/
  parts : List Pattern := []
  flags : Flags
  /-- How many capturing groups were opened. -/
  groups : Nat := 0
  /-- Their names, latest first. -/
  names : List String := []

namespace Progress

/-- The pattern of the innermost group. -/
def body (p : Progress) : Pattern :=
  ofBranches (ofParts p.parts.reverse :: p.branches).reverse

/-- Adds a part. -/
def push (p : Progress) (part : Pattern) : Progress :=
  { p with parts := part :: p.parts }

/-- Begins a new branch. -/
def branch (p : Progress) : Progress :=
  { p with branches := ofParts p.parts.reverse :: p.branches, parts := [] }

/-- Opens a group with its flags, unless groups nest too deep. -/
def openGroup? (p : Progress) (capture : Option Capture) (flags : Flags) : Option Progress :=
  if p.frames.length < maxDepth then
    some { p with
      frames := ⟨p.branches, p.parts, p.flags, capture⟩ :: p.frames
      branches := []
      parts := []
      flags := flags }
  else none

/-- Opens a capturing group with the next number. -/
def openCapture? (p : Progress) (name : Option String) : Option Progress :=
  let number := p.groups + 1
  { p with groups := number }.openGroup? (some ⟨number, name⟩) p.flags

/-- Closes the innermost group. -/
def closeGroup? (p : Progress) : Option Progress :=
  match p.frames with
  | [] => none
  | f :: fs =>
    let part := match f.capture with
      | some c => .group c p.body
      | none => p.body
    some { p with
      frames := fs
      branches := f.branches
      parts := part :: f.parts
      flags := f.flags }

/-- Repeats the last part. -/
def repeat? (p : Progress) (least : Nat) (most : Option Nat) : Option Progress :=
  match p.parts with
  | [] => none
  | part :: parts => some { p with parts := ofCount least most part :: parts }

end Progress

/-! ## Flags and names -/

/-- Switches the flag of a letter. -/
def Flags.switch? (f : Flags) (on : Bool) : Char → Option Flags
  | 'i' => some { f with caseless := on }
  | 'm' => some { f with multiLine := on }
  | 's' => some { f with dotAll := on }
  | 'R' => some { f with crlf := on }
  | 'U' => some { f with lazy := on }
  | 'x' => some { f with spaced := on }
  | 'u' => some { f with unicode := on }
  | _ => none

/-- Reads flags up to a colon or a closing parenthesis.  Each may be given once, and one
dash, which a flag must follow, switches off. -/
def flags? (f : Flags) (on : Bool) (seen : List Char) (dash : Bool) :
    List Char → Option (Flags × List Char)
  | [] => none
  | c :: cs =>
    if c = ':' ∨ c = ')' then if dash then none else some (f, c :: cs)
    else if c = '-' then if on then flags? f false seen true cs else none
    else
      match f.switch? on c with
      | none => none
      | some g => if c ∈ seen then none else flags? g on (c :: seen) false cs

/-- Whether a character may stand in a group name. -/
def isNameChar (first : Bool) (c : Char) : Bool :=
  let letter := c = '_' || inRanges alphabeticRanges c.toNat
  if first then letter
  else letter || c = '.' || c = '[' || c = ']' || inRanges numericRanges c.toNat

/-- A group name and what follows its closing angle bracket. -/
def groupName? (cs : List Char) : Option (String × List Char) :=
  match cs.takeWhile (· ≠ '>'), cs.dropWhile (· ≠ '>') with
  | c :: name, _ :: rest =>
    if isNameChar true c && name.all (isNameChar false) then
      some (String.ofList (c :: name), rest)
    else none
  | _, _ => none

/-- Opens a group with a name that is not taken. -/
def namedGroup? (p : Progress) (cs : List Char) : Option (Progress × List Char) := do
  let (name, rest) ← groupName? cs
  if name ∈ p.names then none
  else some (← { p with names := name :: p.names }.openCapture? (some name), rest)

/-- What follows an opening parenthesis. -/
def group? (p : Progress) : List Char → Option (Progress × List Char)
  | '?' :: 'P' :: '<' :: cs => namedGroup? p cs
  | '?' :: '<' :: '=' :: _ => none
  | '?' :: '<' :: '!' :: _ => none
  | '?' :: '<' :: cs => namedGroup? p cs
  | '?' :: ')' :: _ => none
  | '?' :: cs => do
    match ← flags? p.flags true [] false cs with
    | (f, ':' :: rest) => some (← p.openGroup? none f, rest)
    | (f, _ :: rest) => some ({ p with flags := f }, rest)
    | (_, []) => none
  | cs => do some (← p.openCapture? none, cs)

/-! ## Repetitions -/

/-- The digits of a count, with what spaced notation passes over between them. -/
def countDigits (f : Flags) : Nat → List Char → List Char × List Char
  | fuel + 1, c :: cs =>
    if c.isDigit then
      let (ds, rest) := countDigits f fuel (f.skip cs)
      (c :: ds, rest)
    else ([], c :: cs)
  | _, cs => ([], cs)

/-- The counts lie below this number. -/
def countLimit : Nat := 0x100000000

/-- A count; blanks may stand around it. -/
def count? (f : Flags) (cs : List Char) : Option (Nat × List Char) :=
  match countDigits f cs.length (cs.dropWhile isBlank) with
  | ([], _) => none
  | (ds, rest) =>
    let n := Nat.ofDigitChars 10 ds 0
    if n < countLimit then some (n, f.skip (rest.dropWhile isBlank)) else none

/-- Drops the mark of a reluctant repetition, which has the same meaning. -/
def dropReluctant : List Char → List Char
  | '?' :: cs => cs
  | cs => cs

/-- The counts of a repetition after its opening brace. -/
def counts? (f : Flags) (cs : List Char) : Option (Nat × Option Nat × List Char) := do
  let (least, r) ← count? f (f.skip cs)
  match r with
  | '\x7d' :: rest => some (least, some least, rest)
  | ',' :: r =>
    match f.skip r with
    | '\x7d' :: rest => some (least, none, rest)
    | r =>
      match ← count? f r with
      | (most, '\x7d' :: rest) => if most < least then none else some (least, some most, rest)
      | _ => none
  | _ => none

/-! ## Signs -/

/-- The characters that a dot matches. -/
def Flags.dot (f : Flags) : CharSet :=
  if f.dotAll then .all
  else if f.crlf then CharSet.complement ⟨[(0x0A, 0x0A), (0x0D, 0x0D)]⟩
  else CharSet.complement ⟨[(0x0A, 0x0A)]⟩

/-- The condition of a caret. -/
def Flags.caret (f : Flags) : Look :=
  if f.multiLine then if f.crlf then .lineStartCrlf else .lineStart else .start

/-- The condition of a dollar sign. -/
def Flags.dollar (f : Flags) : Look :=
  if f.multiLine then if f.crlf then .lineFinishCrlf else .lineFinish else .finish

/-- The progress after the sign in front. -/
def sign? (p : Progress) : List Char → Option (Progress × List Char)
  | [] => none
  | '(' :: cs => group? p (p.flags.skip cs)
  | ')' :: cs => p.closeGroup?.map fun q => (q, cs)
  | '|' :: cs => some (p.branch, cs)
  | '[' :: cs => (class? p.flags cs).map fun (s, r) => (p.push (.chars s), r)
  | '?' :: cs => (p.repeat? 0 (some 1)).map fun q => (q, dropReluctant cs)
  | '*' :: cs => (p.repeat? 0 none).map fun q => (q, dropReluctant cs)
  | '+' :: cs => (p.repeat? 1 none).map fun q => (q, dropReluctant cs)
  | '\x7b' :: cs => do
    let (least, most, r) ← counts? p.flags cs
    some (← p.repeat? least most, dropReluctant (p.flags.skip r))
  | '\\' :: cs => (escape? p.flags cs).map fun (i, r) => (p.push i.toPattern, r)
  | '.' :: cs => some (p.push (.chars p.flags.dot), cs)
  | '^' :: cs => some (p.push (.look p.flags.caret), cs)
  | '$' :: cs => some (p.push (.look p.flags.dollar), cs)
  | c :: cs => some (p.push (p.flags.letter c).toPattern, cs)

/-- Reads signs to the end of the text, as many as the fuel allows. -/
def signs? : Nat → Progress → List Char → Option Progress
  | 0, _, _ => none
  | fuel + 1, p, cs =>
    match p.flags.skip cs with
    | [] => some p
    | c :: r => do
      let (q, rest) ← sign? p (c :: r)
      signs? fuel q rest

/-- The pattern that a text spells, in caseless mode. -/
def parse? (cs : List Char) : Option Pattern := do
  let p ← signs? (cs.length + 1) { flags := { caseless := true } } cs
  if p.frames.isEmpty && p.body.withinLimits then some p.body else none

end TreeShell.Pattern
