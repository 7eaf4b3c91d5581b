import TreeShell.Text.Blank
import TreeShell.Time.Instant

/-!
# Date-time text

The written form of an instant is `YYYY-MM-DDThh:mm:ss`, a fraction of 0, 3, 6 or 9
digits (the fewest that are exact) and `Z`.  A year outside 0 to 9999 is signed.

The reader takes more: blanks around fields, fields of one digit, a blank or a small
`t` between date and time, fractions of any length, and an offset from universal time
in place of `Z`.
-/

namespace TreeShell.Time

open TreeShell.Text

/-! ## Writing -/

/-- The decimal digits of a number, with zeros in front up to a width. -/
def padded (width n : Nat) : List Char :=
  (Nat.toDigits 10 n).leftpad width '0'

/-- A year: four digits, or a sign and at least four digits outside 0 to 9999. -/
def yearText (year : Int) : List Char :=
  if year < 0 then '-' :: padded 4 year.natAbs
  else if 9999 < year then '+' :: padded 4 year.natAbs
  else padded 4 year.natAbs

/-- The fraction of a second, in the fewest groups of three digits that are exact. -/
def fractionText (nano : Nat) : List Char :=
  if nano = 0 then []
  else if nano % 1000000 = 0 then '.' :: padded 3 (nano / 1000000)
  else if nano % 1000 = 0 then '.' :: padded 6 (nano / 1000)
  else '.' :: padded 9 nano

/-- The written form of an instant. -/
def Instant.render (t : Instant) : List Char :=
  yearText t.date.year ++ '-' :: padded 2 t.date.month ++ '-' :: padded 2 t.date.day
    ++ 'T' :: padded 2 t.hour ++ ':' :: padded 2 t.minute ++ ':' :: padded 2 t.second
    ++ fractionText t.nano ++ ['Z']

/-! ## Reading -/

/-- A reader of the front of a text: what it read and what is left. -/
abbrev Reader (α : Type) := List Char → Option (α × List Char)

/-- At least one and at most `most` digits, as a number. -/
def readDigits (most : Nat) : Reader Nat := fun cs =>
  match (cs.take most).takeWhile Char.isDigit with
  | [] => none
  | ds => some (Nat.ofDigitChars 10 ds 0, cs.drop ds.length)

/-- A field of up to `most` digits after any blanks. -/
def readField (most : Nat) : Reader Nat := fun cs =>
  readDigits most (trimStart cs)

/-- A year: up to four digits, or a sign and any number of digits. -/
def readYear : Reader Int := fun cs =>
  match trimStart cs with
  | '-' :: r => (readDigits r.length r).map fun (n, r) => (-(n : Int), r)
  | '+' :: r => (readDigits r.length r).map fun (n, r) => ((n : Int), r)
  | r => (readDigits 4 r).map fun (n, r) => ((n : Int), r)

/-- One given character after any blanks. -/
def readMark (mark : Char) (cs : List Char) : Option (List Char) :=
  match trimStart cs with
  | c :: r => if c = mark then some r else none
  | [] => none

/-- The sign between date and time: `T`, `t` or a space. -/
def readDivider : List Char → Option (List Char)
  | c :: r => if c = 'T' ∨ c = 't' ∨ c = ' ' then some r else none
  | [] => none

/-- A fraction of a second, if there is a point; digits after the ninth are dropped. -/
def readFraction : Reader Nat
  | '.' :: r =>
    (readDigits 9 r).map fun (n, rest) =>
      (n * Nat.pow 10 (9 - (r.length - rest.length)), rest.dropWhile Char.isDigit)
  | cs => some (0, cs)

/-- Two digits, as a number. -/
def readPair : Reader Nat
  | a :: b :: r =>
    if a.isDigit ∧ b.isDigit then some (Nat.ofDigitChars 10 [a, b] 0, r) else none
  | _ => none

/-- Hours and minutes of an offset, in minutes; colons and blanks may stand between. -/
def readSpan : Reader Nat := fun cs => do
  let (hours, r) ← readPair cs
  let (minutes, r) ← readPair (r.dropWhile fun c => c = ':' || isBlank c)
  if minutes < 60 ∧ hours < 24 then some (60 * hours + minutes, r) else none

/-- The offset from universal time in minutes: `Z`, `UTC`, or a sign and a span. -/
def readOffset : Reader Int := fun cs =>
  match trimStart cs with
  | c :: r =>
    if (c :: r.take 2).map Char.toUpper = ['U', 'T', 'C'] then some (0, r.drop 2)
    else if c = 'Z' ∨ c = 'z' then some (0, r)
    else if c = '+' then (readSpan r).map fun (n, r) => ((n : Int), r)
    else if c = '-' ∨ c = '−' then (readSpan r).map fun (n, r) => (-(n : Int), r)
    else none
  | [] => none

/-- The instant a text denotes.  Nothing but blanks may follow the offset. -/
def Instant.parse? (cs : List Char) : Option Instant := do
  let (year, r) ← readYear cs
  let r ← readMark '-' r
  let (month, r) ← readField 2 r
  let r ← readMark '-' r
  let (day, r) ← readField 2 r
  let r ← readDivider r
  let (hour, r) ← readField 2 r
  let r ← readMark ':' r
  let (minute, r) ← readField 2 r
  let r ← readMark ':' r
  let (second, r) ← readField 2 r
  let (nano, r) ← readFraction r
  let (offset, r) ← readOffset r
  if r.all isBlank then
    (← Instant.ofFields? year month day hour minute second nano).behind? offset
  else none

end TreeShell.Time
