import TreeShell.Json.Token
import TreeShell.Pattern.Syntax

/-!
# Escapes in patterns

What may follow a backslash in a pattern: a mark that stands for itself, a letter for a
control character, a class or a place, or a code point in hexadecimal digits.
Back-references and Unicode classes are refused.

In spaced notation blanks between the signs of a pattern are passed over, and so is all
from a `#` to the end of its line.
-/

namespace TreeShell.Pattern

open TreeShell.Text

/-! ## Flags -/

/-- The modes a pattern can switch on and off. -/
structure Flags where
  /-- Letters match in either case. -/
  caseless : Bool := false
  /-- `^` and `$` match at every line. -/
  multiLine : Bool := false
  /-- `.` matches a newline. -/
  dotAll : Bool := false
  /-- Carriage returns end lines too. -/
  crlf : Bool := false
  /-- Repetitions prefer fewer turns. -/
  lazy : Bool := false
  /-- Blanks and comments are passed over. -/
  spaced : Bool := false
  /-- Letters, digits and blanks may lie beyond ASCII; a search keeps to ASCII. -/
  unicode : Bool := true
deriving DecidableEq, Repr

/-- Drops blanks and comments, from inside or outside a comment. -/
def dropSpaced (comment : Bool) : List Char → List Char
  | [] => []
  | c :: cs =>
    if comment then dropSpaced (c ≠ '\n') cs
    else if isBlank c then dropSpaced false cs
    else if c = '#' then dropSpaced true cs
    else c :: cs

/-- Drops what spaced notation passes over. -/
def Flags.skip (f : Flags) (cs : List Char) : List Char :=
  if f.spaced then dropSpaced false cs else cs

/-! ## Items -/

/-- What a sign of a pattern stands for. -/
inductive Item where
  | literal (c : Char)
  | set (s : CharSet)
  | look (l : Look)
deriving DecidableEq, Repr

/-- The pattern for an item. -/
def Item.toPattern : Item → Pattern
  | .literal c => .char c
  | .set s => .chars s
  | .look l => .look l

/-- Whether a character is an ASCII letter. -/
def isLetter (c : Char) : Bool :=
  ('a' ≤ c ∧ c ≤ 'z') ∨ ('A' ≤ c ∧ c ≤ 'Z')

/-- A character that stands for itself: a letter in caseless mode for both its cases. -/
def Flags.letter (f : Flags) (c : Char) : Item :=
  if f.caseless ∧ isLetter c then .set (CharSet.single c).foldCase else .literal c

/-! ## Code points -/

/-- The character with a code point, if there is one. -/
def charOf? (n : Nat) : Option Char :=
  if n.isValidChar then some (Char.ofNat n) else none

/-- Reads a fixed number of hexadecimal digits after a value. -/
def hexFixed (f : Flags) : Nat → Nat → List Char → Option (Nat × List Char)
  | 0, value, cs => some (value, cs)
  | _ + 1, _, [] => none
  | count + 1, value, c :: cs => do
    hexFixed f count (16 * value + (← Json.hexValue? c)) (f.skip cs)

/-- Reads hexadecimal digits up to a closing brace; there must be one or more. -/
def hexBraced (f : Flags) : Nat → Option Nat → List Char → Option (Nat × List Char)
  | 0, _, _ => none
  | _ + 1, _, [] => none
  | fuel + 1, value, c :: cs =>
    if c = '\x7d' then value.map fun n => (n, f.skip cs)
    else do
      let digit ← Json.hexValue? c
      hexBraced f fuel (some (16 * value.getD 0 + digit)) (f.skip cs)

/-- A code point after its letter: braced, or with as many digits as the letter asks. -/
def codePoint? (f : Flags) (digits : Nat) (cs : List Char) : Option (Char × List Char) := do
  let (n, rest) ←
    match f.skip cs with
    | '\x7b' :: r => hexBraced f (r.length + 1) none (f.skip r)
    | r => hexFixed f digits 0 r
  some (← charOf? n, rest)

/-! ## Places in words -/

/-- The name in braces after `\b`: letters and dashes, and what is left from its end. -/
def edgeName (f : Flags) : Nat → List Char → List Char × List Char
  | fuel + 1, c :: cs =>
    if isLetter c ∨ c = '-' then
      let (name, rest) := edgeName f fuel (f.skip cs)
      (c :: name, rest)
    else ([], c :: cs)
  | _, cs => ([], cs)

/-- The place that a name in braces stands for. -/
def edgeNamed? (name : List Char) : Option Look :=
  match String.ofList name with
  | "start" => some .wordStart
  | "end" => some .wordFinish
  | "start-half" => some .wordStartHalf
  | "end-half" => some .wordFinishHalf
  | _ => none

/-- What follows `\b`: a name in braces, or else nothing that belongs to it. -/
def edge? (f : Flags) : List Char → Option (Look × List Char)
  | '\x7b' :: cs =>
    match f.skip cs with
    | [] => none
    | c :: r =>
      if isLetter c ∨ c = '-' then
        match edgeName f (r.length + 1) (c :: r) with
        | (name, '\x7d' :: rest) => (edgeNamed? name).map fun l => (l, rest)
        | _ => none
      else some (.wordEdge, '\x7b' :: cs)
  | cs => some (.wordEdge, cs)

/-! ## Escapes -/

/-- Whether a mark may be escaped to stand for itself: every ASCII character but
letters, digits and angle brackets. -/
def isEscapable (c : Char) : Bool :=
  c.toNat < 0x80 && !c.isDigit && !isLetter c && c ≠ '<' && c ≠ '>'

/-- The class that a letter stands for; a capital stands for the others. -/
def classOf? : Char → Option CharSet
  | 'd' => some .digit
  | 'D' => some CharSet.digit.complement
  | 's' => some .space
  | 'S' => some CharSet.space.complement
  | 'w' => some .word
  | 'W' => some CharSet.word.complement
  | _ => none

/-- The control character that a letter stands for. -/
def control? : Char → Option Char
  | 'a' => some '\x07'
  | 'f' => some '\x0c'
  | 't' => some '\t'
  | 'n' => some '\n'
  | 'r' => some '\r'
  | 'v' => some '\x0b'
  | _ => none

/-- The item after a backslash. -/
def escape? (f : Flags) : List Char → Option (Item × List Char)
  | [] => none
  | 'x' :: cs => (codePoint? f 2 cs).map fun (c, r) => (f.letter c, r)
  | 'u' :: cs => (codePoint? f 4 cs).map fun (c, r) => (f.letter c, r)
  | 'U' :: cs => (codePoint? f 8 cs).map fun (c, r) => (f.letter c, r)
  | 'A' :: cs => some (.look .start, cs)
  | 'z' :: cs => some (.look .finish, cs)
  | 'b' :: cs => (edge? f cs).map fun (l, r) => (.look l, r)
  | 'B' :: cs => some (.look .notWordEdge, cs)
  | '<' :: cs => some (.look .wordStart, cs)
  | '>' :: cs => some (.look .wordFinish, cs)
  | c :: cs =>
    if isEscapable c then some (f.letter c, cs)
    else match classOf? c with
      | some s => some (.set s, cs)
      | none => (control? c).map fun d => (.literal d, cs)

end TreeShell.Pattern
