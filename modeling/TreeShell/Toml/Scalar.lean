import TreeShell.Number.Double
import TreeShell.Time.Instant
import TreeShell.Toml.Table

/-!
# TOML numbers, dates and words

A scalar that is no string is read whole: the run of characters that can belong to one is
taken, and it is a boolean, an integer of 64 bits, a float in the range of double
precision, or a date, a time or both.
-/

namespace TreeShell.Toml

/-! ## Digits -/

/-- The digits of a run in which single underscores may stand between digits. -/
def joined? (isDigit : Char → Bool) : List Char → Option (List Char)
  | [] => none
  | [d] => if isDigit d then some [d] else none
  | d :: '_' :: ds => if isDigit d then (d :: ·) <$> joined? isDigit ds else none
  | d :: e :: ds => if isDigit d then (d :: ·) <$> joined? isDigit (e :: ds) else none

/-- The value of a digit in a base of up to sixteen. -/
def digitValue (c : Char) : Nat :=
  if c.isDigit then c.toNat - '0'.toNat else c.toLower.toNat - 'a'.toNat + 10

/-- Whether a character is a digit in a base of up to sixteen. -/
def isDigitIn (base : Nat) (c : Char) : Bool :=
  (c.isDigit || ('a' ≤ c.toLower && c.toLower ≤ 'f')) && digitValue c < base

/-- The number that digits spell in a base. -/
def numberIn (base : Nat) (ds : List Char) : Nat :=
  ds.foldl (fun n d => base * n + digitValue d) 0

/-- Digits without a needless zero in front. -/
def decimal? (cs : List Char) : Option (List Char) :=
  match joined? Char.isDigit cs with
  | some ('0' :: _ :: _) => none
  | ds => ds

/-! ## Integers -/

/-- The number of integers from zero up, which is also that of the negative ones. -/
def integerLimit : Nat := 0x8000000000000000

/-- An integer in a base of its own. -/
def basedInteger? (base : Nat) (cs : List Char) : Option Item := do
  let n := numberIn base (← joined? (isDigitIn base) cs)
  if n < integerLimit then some (.integer n) else none

/-- An integer. -/
def integer? : List Char → Option Item
  | '0' :: 'x' :: cs => basedInteger? 16 cs
  | '0' :: 'o' :: cs => basedInteger? 8 cs
  | '0' :: 'b' :: cs => basedInteger? 2 cs
  | cs => do
    let (minus, digits) := Double.sign cs
    let n := numberIn 10 (← decimal? digits)
    let value : Int := if minus then -n else n
    if -integerLimit ≤ value ∧ value < integerLimit then some (.integer value) else none

/-! ## Floats -/

/-- A float by its sign, digits and exponent.  A number that is too large is refused;
below zero it stands for the negative infinity. -/
def inRange? (minus : Bool) (whole fraction : List Char) (exponent : Int) : Option Item :=
  let value := Double.ofDecimal minus (whole ++ fraction) (exponent - fraction.length)
  if value = .infinite false then none else some .float

/-- The exponent after its letter. -/
def exponent? (cs : List Char) : Option Int := do
  let (minus, digits) := Double.sign cs
  let n := numberIn 10 (← joined? Char.isDigit digits)
  some (if minus then -n else n)

/-- Whether a character begins an exponent. -/
def isExponentMark (c : Char) : Bool :=
  c = 'e' || c = 'E'

/-- A float: digits with a fraction, an exponent or both; or one of the words for
infinity and for what is no number. -/
def float? (cs : List Char) : Option Item := do
  let (minus, body) := Double.sign cs
  if body = ['i', 'n', 'f'] ∨ body = ['n', 'a', 'n'] then some .float
  else
    let mantissa := body.takeWhile fun c => !isExponentMark c
    let whole ← decimal? (mantissa.takeWhile (· ≠ '.'))
    match mantissa.dropWhile (· ≠ '.'), body.dropWhile fun c => !isExponentMark c with
    | [], [] => none
    | [], _ :: e => inRange? minus whole [] (← exponent? e)
    | _ :: ds, [] => inRange? minus whole (← joined? Char.isDigit ds) 0
    | _ :: ds, _ :: e => inRange? minus whole (← joined? Char.isDigit ds) (← exponent? e)

/-! ## Dates and times -/

/-- The number of a field of a fixed number of digits, and what follows. -/
def field? (width : Nat) (cs : List Char) : Option (Nat × List Char) :=
  if (cs.take width).length = width ∧ (cs.take width).all Char.isDigit then
    some (numberIn 10 (cs.take width), cs.drop width)
  else none

/-- What follows a given character. -/
def mark? (c : Char) : List Char → Option (List Char)
  | d :: cs => if d = c then some cs else none
  | [] => none

/-- What follows a date. -/
def date? (cs : List Char) : Option (List Char) := do
  let (year, r) ← field? 4 cs
  let (month, r) ← field? 2 (← mark? '-' r)
  let (day, r) ← field? 2 (← mark? '-' r)
  if 1 ≤ day ∧ day ≤ Time.daysInMonth year month then some r else none

/-- What follows a time of day. -/
def time? (cs : List Char) : Option (List Char) := do
  let (hour, r) ← field? 2 cs
  let (minute, r) ← field? 2 (← mark? ':' r)
  let (second, r) ← field? 2 (← mark? ':' r)
  if 23 < hour ∨ 59 < minute ∨ 60 < second then none
  else
    match r with
    | '.' :: ds =>
      if (ds.takeWhile Char.isDigit).isEmpty then none else some (ds.dropWhile Char.isDigit)
    | r => some r

/-- Whether a text is an offset from universal time. -/
def isOffset : List Char → Bool
  | [c] => c = 'Z' || c = 'z'
  | c :: cs =>
    (c = '+' || c = '-') &&
      match field? 2 cs with
      | some (hour, ':' :: r) =>
        match field? 2 r with
        | some (minute, []) => hour ≤ 23 && minute ≤ 59
        | _ => false
      | _ => false
  | [] => false

/-- Whether a text is a time of day, with an offset or without. -/
def isClock (cs : List Char) : Bool :=
  match time? cs with
  | some r => r.isEmpty || isOffset r
  | none => false

/-- A date, a time of day, or both with a letter between them. -/
def dateTime? (cs : List Char) : Option Item :=
  match date? cs with
  | some [] => some .dateTime
  | some (c :: r) => if (c = 'T' ∨ c = 't') ∧ isClock r then some .dateTime else none
  | none => if time? cs = some [] then some .dateTime else none

/-! ## Scalars -/

/-- Whether a character can belong to a scalar that is no string. -/
def isScalarChar (c : Char) : Bool :=
  c.isAlphanum || c = '+' || c = '-' || c = '_' || c = '.' || c = ':'

/-- The scalar that a run of characters is. -/
def ofRun? (cs : List Char) : Option Item :=
  if cs = ['t', 'r', 'u', 'e'] then some (.boolean true)
  else if cs = ['f', 'a', 'l', 's', 'e'] then some (.boolean false)
  else (dateTime? cs).or ((integer? cs).or (float? cs))

/-- A scalar that is no string.  A date and a time may have a space between them. -/
def scalar? (cs : List Char) : Option (Item × List Char) := do
  let run := cs.takeWhile isScalarChar
  let rest := cs.dropWhile isScalarChar
  match rest with
  | ' ' :: r =>
    if date? run = some [] ∧ (r.head?.any Char.isDigit) then
      if isClock (r.takeWhile isScalarChar) then
        some (.dateTime, r.dropWhile isScalarChar)
      else none
    else some (← ofRun? run, rest)
  | _ => some (← ofRun? run, rest)

end TreeShell.Toml
