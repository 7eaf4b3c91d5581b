/-!
# Numbers in double precision

A finite number is a whole count of steps of `2 ^ -1074`, with at most 53 binary digits
from the first to the last that counts.  A decimal stands for the number nearest to it,
where a tie goes to the even neighbour, and for an infinity when it lies too far out.

A number is written with the fewest decimal digits that stand for it, without an exponent.
Five to the power of 1074 makes every step a whole count of units of `10 ^ -1074`, so
that all of this is arithmetic on natural numbers.
-/

namespace TreeShell

/-- A number in double precision. -/
inductive Double where
  /-- A count of steps, below zero or above.  There is a zero on either side. -/
  | finite (negative : Bool) (steps : Nat)
  | infinite (negative : Bool)
  | notANumber
deriving DecidableEq, Repr

namespace Double

/-! ## Rounding -/

/-- The steps in one. -/
def stepsInOne : Nat := Nat.pow 2 1074

/-- Finite numbers have fewer steps. -/
def stepLimit : Nat := Nat.pow 2 2098

/-- The steps from a number to the next one outwards, given its own steps. -/
def spacing (steps : Nat) : Nat :=
  Nat.pow 2 (steps.log2 + 1 - 53)

/-- The whole number nearest to a quotient; a tie goes to the even one. -/
def nearest (n d : Nat) : Nat :=
  let q := n / d
  let twice := 2 * (n % d)
  if twice < d ∨ (twice = d ∧ q % 2 = 0) then q else q + 1

/-- The number nearest to a quotient of steps. -/
def ofQuotient (negative : Bool) (n d : Nat) : Double :=
  let gap := spacing (n / d)
  let steps := gap * nearest n (d * gap)
  if steps < stepLimit then .finite negative steps else .infinite negative

/-- The number nearest to a whole one. -/
def ofNat (n : Nat) : Double :=
  ofQuotient false (n * stepsInOne) 1

/-- The number nearest to digits times a power of ten.  Where the first digit stands
settles most of the numbers that are far out or close to zero. -/
def ofDecimal (negative : Bool) (digits : List Char) (exponent : Int) : Double :=
  let ds := digits.dropWhile (· = '0')
  let top := ds.length + exponent
  if ds.isEmpty ∨ top < -323 then .finite negative 0
  else if 309 < top then .infinite negative
  else
    let n := Nat.ofDigitChars 10 ds 0 * stepsInOne
    ofQuotient negative (n * Nat.pow 10 exponent.toNat) (Nat.pow 10 (-exponent).toNat)

/-- Whether a number lies too far out to be counted. -/
def isInfinite : Double → Bool
  | .infinite _ => true
  | _ => false

/-- The product, rounded; what has no product is no number. -/
def times : Double → Double → Double
  | .finite a m, .finite b n => ofQuotient (a != b) (m * n) stepsInOne
  | .finite a m, .infinite b => if m = 0 then .notANumber else .infinite (a != b)
  | .infinite a, .finite b n => if n = 0 then .notANumber else .infinite (a != b)
  | .infinite a, .infinite b => .infinite (a != b)
  | _, _ => .notANumber

/-! ## Reading -/

/-- The sign in front, true for a minus, and what follows it. -/
def sign : List Char → Bool × List Char
  | '-' :: cs => (true, cs)
  | '+' :: cs => (false, cs)
  | cs => (false, cs)

/-- The exponent in a text: nothing, or its letter with a sign and digits. -/
def exponent? : List Char → Option Int
  | [] => some 0
  | e :: cs =>
    let (minus, ds) := sign cs
    if (e = 'e' ∨ e = 'E') ∧ !ds.isEmpty ∧ ds.all Char.isDigit then
      let n : Nat := Nat.ofDigitChars 10 ds 0
      some (if minus then -n else n)
    else none

/-- The digits after a point, if there is one, and what follows them. -/
def fraction : List Char → List Char × List Char
  | '.' :: cs => (cs.takeWhile Char.isDigit, cs.dropWhile Char.isDigit)
  | cs => ([], cs)

/-- The number that a text spells: in words of any letter case, or in digits around a
point that may be missing, with an exponent that may be missing. -/
def ofText? (cs : List Char) : Option Double :=
  let (minus, body) := sign cs
  match String.ofList (body.map Char.toLower) with
  | "inf" => some (.infinite minus)
  | "infinity" => some (.infinite minus)
  | "nan" => some .notANumber
  | _ =>
    let whole := body.takeWhile Char.isDigit
    let (after, rest) := fraction (body.dropWhile Char.isDigit)
    let digits := whole ++ after
    if digits.isEmpty then none
    else (exponent? rest).map fun e => ofDecimal minus digits (e - after.length)

/-! ## Writing -/

/-- The decimal places after which every number has ended. -/
def places : Nat := 1074

/-- The units of the last decimal place in a step. -/
def unitsInStep : Nat := Nat.pow 5 places

/-- Whether a count of units is nearer to a number than to its neighbours.  The middle
belongs to the number with the even last digit.  The neighbour of a power of two towards
zero is half as far as the other one. -/
def standsFor (steps units : Nat) : Bool :=
  let gap := spacing steps
  let lastDigit := steps / gap % 2
  let inwards := if 1 < gap ∧ steps = Nat.pow 2 steps.log2 then gap else 2 * gap
  let low := (4 * steps - inwards) * unitsInStep
  let high := (4 * steps + 2 * gap) * unitsInStep
  if lastDigit = 0 then low ≤ 4 * units ∧ 4 * units ≤ high
  else low < 4 * units ∧ 4 * units < high

/-- The multiple of a grid that stands for a number, if one does: of two the nearer, and
of two as near the outer. -/
def onGrid? (steps grid : Nat) : Option Nat :=
  let exact := steps * unitsInStep
  let low := exact / grid * grid
  let high := low + grid
  match standsFor steps low, standsFor steps high with
  | false, false => none
  | true, false => some low
  | false, true => some high
  | true, true => if 2 * exact < low + high then some low else some high

/-- The units with the fewest digits that stand for a number. -/
def shortest (steps : Nat) : Nat :=
  let exact := steps * unitsInStep
  let length := (Nat.toDigits 10 exact).length
  ((List.range 17).findSome? fun n => onGrid? steps (Nat.pow 10 (length - (n + 1)))).getD exact

/-- A count of units in decimal digits, without zeros at the end of the fraction. -/
def unitDigits (units : Nat) : List Char :=
  let ds := Nat.toDigits 10 units
  let padded := List.replicate (places + 1 - ds.length) '0' ++ ds
  let whole := padded.take (padded.length - places)
  let fraction := (padded.drop whole.length).reverse.dropWhile (· = '0')
  if fraction.isEmpty then whole else whole ++ '.' :: fraction.reverse

/-- The text of a number. -/
def render : Double → List Char
  | .finite negative steps => (if negative then ['-'] else []) ++ unitDigits (shortest steps)
  | .infinite negative => (if negative then ['-'] else []) ++ ['i', 'n', 'f']
  | .notANumber => ['N', 'a', 'N']

/-! ## Order -/

/-- The place of a finite or infinite number in the order of numbers, which knows one
zero. -/
def position (negative : Bool) (steps : Nat) : Int :=
  if negative then -steps else steps

/-- Compares numbers; what is no number comes after all others. -/
def order : Double → Double → Ordering
  | .notANumber, .notANumber => .eq
  | .notANumber, _ => .gt
  | _, .notANumber => .lt
  | .finite a m, .finite b n => compare (position a m) (position b n)
  | .finite a m, .infinite b => compare (position a m) (position b stepLimit)
  | .infinite a, .finite b n => compare (position a stepLimit) (position b n)
  | .infinite a, .infinite b => compare (position a stepLimit) (position b stepLimit)

end Double

end TreeShell
