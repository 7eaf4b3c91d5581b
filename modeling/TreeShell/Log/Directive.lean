import TreeShell.Log.Field
import TreeShell.Log.Level
import TreeShell.Text.Blank

/-!
# Log directives

A directive sets how much is logged: in all, of a target, or inside the spans of a name
and with a field.  The signs of a directive are looked for in its text without the blanks
around it, while its parts are cut out at the same byte positions of the text as it
stands; blanks in front thus move every part.
-/

namespace TreeShell.Log

open TreeShell.Text

/-! ## Byte positions -/

/-- The bytes that a text takes. -/
def byteCount (cs : List Char) : Nat :=
  (String.ofList cs).utf8ByteSize

/-- Parts a text after some bytes, unless they end inside a character. -/
def splitAtByte? : Nat → List Char → Option (List Char × List Char)
  | 0, cs => some ([], cs)
  | _ + 1, [] => none
  | n + 1, c :: cs =>
    if c.utf8Size ≤ n + 1 then
      (splitAtByte? (n + 1 - c.utf8Size) cs).map fun (taken, rest) => (c :: taken, rest)
    else none

/-- What follows a byte position of a text. -/
def after? (whole : List Char) (start : Nat) : Option (List Char) :=
  (splitAtByte? start whole).map Prod.snd

/-- The part of a text between two byte positions. -/
def between? (whole : List Char) (start stop : Nat) : Option (List Char) :=
  (after? whole start).bind fun rest => (splitAtByte? (stop - start) rest).map Prod.fst

/-! ## Directives -/

/-- A setting of a level for a subject. -/
structure Directive where
  target : Option (List Char) := none
  span : Option (List Char) := none
  field : Option Field := none
  level : Level := .trace
deriving DecidableEq, Repr

namespace Directive

/-- Whether a character may begin a directive. -/
def canBegin (c : Char) : Bool :=
  c = '-' || c = ':' || c = '_' || inRanges alphabeticRanges c.toNat
    || inRanges numericRanges c.toNat

/-- Finishes a directive after the bracket that ends its span. -/
def finish? (d : Directive) (seen whole : List Char) (position : Nat) : Option Directive :=
  match seen with
  | [] => some d
  | '=' :: _ => do
    some { d with level := ← Level.afterSign? (← after? whole (position + 1)) }
  | _ => none

/-- Reads a span after its opening bracket, which stands before `start`. -/
def span? (d : Directive) (seen whole : List Char) (start : Nat) : Option Directive := do
  let name := seen.takeWhile fun c => c ≠ ']' && c ≠ '\x7b'
  let stop := start + byteCount name
  let named ← between? whole start stop
  match seen.drop name.length with
  | ']' :: rest => finish? { d with span := some named } rest whole (stop + 1)
  | _ :: rest =>
    let field := rest.takeWhile (· ≠ '\x7d')
    let fieldEnd := stop + 1 + byteCount field
    match rest.drop field.length with
    | _ :: ']' :: after =>
      let text ← between? whole (stop + 1) fieldEnd
      finish? { d with
        span := if named.isEmpty then none else some named
        field := some (← Field.ofText? text) } after whole (fieldEnd + 2)
    | _ => none
  | [] => none

/-- The directive in a text. -/
def ofText? (whole : List Char) : Option Directive :=
  let seen := trim whole
  match seen with
  | [] => none
  | '[' :: rest => span? {} rest whole 1
  | first :: _ =>
    if !canBegin first then none
    else
      let name := seen.takeWhile fun c => c ≠ '=' && c ≠ '['
      let stop := byteCount name
      match seen.drop name.length with
      | [] =>
        match Level.ofText? whole with
        | some l => some { level := l }
        | none => some { target := some whole }
      | '=' :: _ => do
        some {
          target := some (← between? whole 0 stop)
          level := ← Level.afterSign? (← after? whole (stop + 1)) }
      | _ :: rest => do span? { target := some (← between? whole 0 stop) } rest whole (stop + 1)

/-- Whether the directive depends on spans or fields. -/
def isDynamic (d : Directive) : Bool :=
  d.span.isSome || d.field.isSome

/-- Whether the directive can be decided without a span and without values. -/
def isStatic (d : Directive) : Bool :=
  d.span.isNone && !d.field.any fun f => f.value.isSome

/-! ## Order -/

/-- Compares what may be missing; a missing one comes first. -/
def compareOptions {α : Type} (order : α → α → Ordering) :
    Option α → Option α → Ordering
  | none, none => .eq
  | none, some _ => .lt
  | some _, none => .gt
  | some a, some b => order a b

/-- The length of a target in bytes; a missing one is shorter than any. -/
def weight (d : Directive) : Nat :=
  match d.target with
  | none => 0
  | some t => byteCount t + 1

/-- Compares directives by how specific they are, and then by their parts. -/
def specificity (a b : Directive) : Ordering :=
  (compare a.weight b.weight).then <|
  (compare a.span.isSome.toNat b.span.isSome.toNat).then <|
  (compare a.field.isSome.toNat b.field.isSome.toNat).then <|
  (compareOptions compareTexts a.target b.target).then <|
  (compareOptions compareTexts a.span b.span).then <|
  compareOptions Field.order a.field b.field

/-- Puts a directive into a list that has the most specific first, in place of one with
the same subject. -/
def insert (d : Directive) : List Directive → List Directive
  | [] => [d]
  | e :: es =>
    match specificity d e with
    | .gt => d :: e :: es
    | .eq => d :: es
    | .lt => e :: insert d es

/-- The text of a directive. -/
def render (d : Directive) : String :=
  let target := String.ofList (d.target.getD [])
  let braced := match d.field with
    | none => ""
    | some f => "\x7b" ++ f.render ++ "\x7d"
  let subject :=
    if d.isDynamic then target ++ "[" ++ String.ofList (d.span.getD []) ++ braced ++ "]"
    else target
  if d.target.isNone && !d.isDynamic then d.level.name else subject ++ "=" ++ d.level.name

end Directive

end TreeShell.Log
