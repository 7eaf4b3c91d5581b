import TreeShell.Log.ValuePattern
import TreeShell.Number.Double

/-!
# Fields of log directives

A directive can ask for a field by its name, and for a value of it.  A value is read as
the first kind that its text spells: a truth value, a whole number of 64 bits, a number in
double precision, and otherwise a pattern.  Numbers are written anew, patterns as they
stand.
-/

namespace TreeShell.Log

/-! ## Values -/

/-- The value that a field is asked for. -/
inductive FieldValue where
  | truth (value : Bool)
  | natural (value : Nat)
  /-- A whole number with a minus sign. -/
  | negative (magnitude : Nat)
  | double (value : Double)
  | pattern (text : List Char)
deriving DecidableEq, Repr

namespace FieldValue

/-- Whole numbers without a minus sign lie below this. -/
def naturalLimit : Nat := 0x10000000000000000

/-- The largest number that may follow a minus sign. -/
def maxNegative : Nat := 0x8000000000000000

/-- The whole number that a text spells. -/
def whole? (cs : List Char) : Option FieldValue :=
  let (minus, ds) := Double.sign cs
  let n := Nat.ofDigitChars 10 ds 0
  if ds.isEmpty || !ds.all Char.isDigit then none
  else if minus then if n ≤ maxNegative then some (.negative n) else none
  else if n < naturalLimit then some (.natural n) else none

/-- The value that a text spells. -/
def ofText? (cs : List Char) : Option FieldValue :=
  if cs = ['t', 'r', 'u', 'e'] then some (.truth true)
  else if cs = ['f', 'a', 'l', 's', 'e'] then some (.truth false)
  else
    match whole? cs, Double.ofText? cs with
    | some v, _ => some v
    | none, some d => some (.double d)
    | none, none => if isValuePattern cs then some (.pattern cs) else none

/-- The text of a value. -/
def render : FieldValue → String
  | .truth b => if b then "true" else "false"
  | .natural n => toString n
  | .negative n => if n = 0 then "0" else "-" ++ toString n
  | .double d => String.ofList d.render
  | .pattern cs => String.ofList cs

end FieldValue

/-! ## Fields -/

/-- A field with its name and the value that it is asked for, if one is. -/
structure Field where
  name : List Char
  value : Option FieldValue
deriving DecidableEq, Repr

/-- The field that a text spells.  A second equals sign ends the value. -/
def Field.ofText? (cs : List Char) : Option Field :=
  match cs.splitOn '=' with
  | name :: value :: _ => (FieldValue.ofText? value).map fun v => ⟨name, some v⟩
  | _ => if cs.isEmpty then none else some ⟨cs, none⟩

/-- The text of a field. -/
def Field.render (f : Field) : String :=
  String.ofList f.name ++ match f.value with
    | none => ""
    | some v => "=" ++ v.render

/-! ## Order -/

/-- Compares texts by their characters. -/
def compareTexts (a b : List Char) : Ordering :=
  compare (String.ofList a) (String.ofList b)

/-- The place of the kind of a value in the order of kinds.  Whole numbers with a minus sign
come after those without. -/
def FieldValue.rank : FieldValue → Nat
  | .truth _ => 0
  | .double d => if d = .notANumber then 2 else 1
  | .natural _ => 3
  | .negative _ => 4
  | .pattern _ => 5

/-- Compares values, first by kind. -/
def FieldValue.order : FieldValue → FieldValue → Ordering
  | .truth a, .truth b => compare a.toNat b.toNat
  | .natural a, .natural b => compare a b
  | .negative a, .negative b => compare b a
  | .double a, .double b => a.order b
  | .pattern a, .pattern b => compareTexts a b
  | a, b => compare a.rank b.rank

/-- Compares fields: those that ask for a value come last, then the names count, and then
the values. -/
def Field.order (a b : Field) : Ordering :=
  (compare a.value.isSome.toNat b.value.isSome.toNat).then <|
  (compareTexts a.name b.name).then <|
  match a.value, b.value with
  | some v, some w => v.order w
  | _, _ => .eq

end TreeShell.Log
