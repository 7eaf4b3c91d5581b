import TreeShell.Number.Double

/-!
# JSON values

A value keeps what the grammar of JSON can say, whether or not a reader of data can use
it: a numeral beyond the floating range and a string whose escapes leave half a
surrogate pair alone are values too.  `isPlain` and `fits` tell the values that can be
held as data, and how deep they nest.
-/

namespace TreeShell

namespace Json

/-! ## Numerals -/

/-- A numeral by its digits. -/
structure Numeral where
  negative : Bool
  /-- The digits before the point. -/
  whole : List Char
  /-- The digits after the point; none when there is no point. -/
  fraction : List Char
  /-- The sign and the digits of the exponent, if there is one. -/
  exponent : Option (Bool × List Char)
deriving DecidableEq, Repr

/-- The text of a string literal, or nothing when an escape in it leaves half a
surrogate pair alone. -/
abbrev Literal := Option String

end Json

/-- A JSON value.  Members keep their order, and a name may occur twice. -/
inductive Json where
  | null
  | bool (value : Bool)
  | number (value : Json.Numeral)
  | string (value : Json.Literal)
  | array (items : List Json)
  | object (members : List (Json.Literal × Json))

namespace Json

instance : Inhabited Json := ⟨.null⟩

namespace Numeral

/-! ## The range of numerals -/

/-- Significands have at most 64 bits. -/
def significandLimit : Nat := 0x10000000000000000

/-- Appends digits to a significand while it stays below the limit, and answers it with
the digits left over. -/
def accumulate (significand : Nat) : List Char → Nat × List Char
  | [] => (significand, [])
  | d :: ds =>
    let next := 10 * significand + (d.toNat - '0'.toNat)
    if next < significandLimit then accumulate next ds else (significand, d :: ds)

/-- The value of a list of digits. -/
def digitsValue (ds : List Char) : Nat :=
  Nat.ofDigitChars 10 ds 0

/-- The exponent written after the digits. -/
def writtenExponent (n : Numeral) : Int :=
  match n.exponent with
  | none => 0
  | some (minus, ds) => if minus then -(digitsValue ds : Int) else digitsValue ds

/-- Whether the numeral stays in the range of double precision.  It is scaled from at
most 64 bits of its digits by one power of ten. -/
def isFinite (n : Numeral) : Bool :=
  let (high, dropped) := accumulate 0 n.whole
  let (significand, unused) := accumulate high n.fraction
  let scale : Int :=
    dropped.length - (n.fraction.length - unused.length : Nat) + n.writtenExponent
  significand == 0 || scale < 0 ||
    scale ≤ 308 &&
      !((Double.ofNat significand).times (Double.ofDecimal false ['1'] scale)).isInfinite

/-- The number when it is written without sign, point and exponent. -/
def toNat? (n : Numeral) : Option Nat :=
  if n.negative || !n.fraction.isEmpty || n.exponent.isSome then none
  else some (digitsValue n.whole)

end Numeral

/-! ## Values that can be held as data -/

mutual

/-- Whether every string denotes a text and every numeral is in range. -/
def isPlain : Json → Bool
  | .null | .bool _ => true
  | .number n => n.isFinite
  | .string s => s.isSome
  | .array items => arePlain items
  | .object members => membersPlain members

/-- `isPlain` for every item of an array. -/
def arePlain : List Json → Bool
  | [] => true
  | v :: vs => isPlain v && arePlain vs

/-- `isPlain` for every name and value of an object. -/
def membersPlain : List (Literal × Json) → Bool
  | [] => true
  | (k, v) :: ms => k.isSome && isPlain v && membersPlain ms

end

mutual

/-- Whether arrays and objects nest at most `limit` deep. -/
def fits (limit : Nat) : Json → Bool
  | .null | .bool _ | .number _ | .string _ => true
  | .array items => 0 < limit && itemsFit (limit - 1) items
  | .object members => 0 < limit && membersFit (limit - 1) members

/-- `fits` for every item of an array. -/
def itemsFit (limit : Nat) : List Json → Bool
  | [] => true
  | v :: vs => fits limit v && itemsFit limit vs

/-- `fits` for every value of an object. -/
def membersFit (limit : Nat) : List (Literal × Json) → Bool
  | [] => true
  | (_, v) :: ms => fits limit v && membersFit limit ms

end

/-! ## Members -/

/-- The values of the members with a name, in order. -/
def valuesOf (name : String) (members : List (Literal × Json)) : List Json :=
  members.filterMap fun m => if m.1 = some name then some m.2 else none

end Json

end TreeShell
