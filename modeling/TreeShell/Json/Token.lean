import TreeShell.Json.Value

/-!
# JSON tokens

The lexical grammar of JSON.  Tokens are cut at the longest match, so that a reader of
tokens needs no look-ahead; blanks between tokens are space, tab, line feed and carriage
return.
-/

namespace TreeShell.Json

/-- A lexical unit of JSON text. -/
inductive Token where
  | beginObject
  | endObject
  | beginArray
  | endArray
  | colon
  | comma
  | string (value : Literal)
  /-- A word or a numeral. -/
  | scalar (value : Json)

/-! ## Strings -/

/-- The value of a hexadecimal digit. -/
def hexValue? (c : Char) : Option Nat :=
  if c.isDigit then some (c.toNat - '0'.toNat)
  else if 'a' ≤ c ∧ c ≤ 'f' then some (c.toNat - 'a'.toNat + 10)
  else if 'A' ≤ c ∧ c ≤ 'F' then some (c.toNat - 'A'.toNat + 10)
  else none

/-- A 16-bit unit from four hexadecimal digits. -/
def unit? (a b c d : Char) : Option Nat := do
  let a ← hexValue? a
  let b ← hexValue? b
  let c ← hexValue? c
  let d ← hexValue? d
  some (((a * 16 + b) * 16 + c) * 16 + d)

/-- The character that a one-letter escape stands for. -/
def shortEscape? : Char → Option Char
  | '"' => some '"'
  | '\\' => some '\\'
  | '/' => some '/'
  | 'b' => some '\x08'
  | 'f' => some '\x0c'
  | 'n' => some '\n'
  | 'r' => some '\r'
  | 't' => some '\t'
  | _ => none

/-- A part of a string literal: a character, or a unit written by its number. -/
inductive Part where
  | char (c : Char)
  | unit (n : Nat)
deriving DecidableEq

/-- The characters that the parts denote.  Two surrogate units in a row make one
character; any other surrogate unit makes the literal denote no text. -/
def assemble : List Part → Option (List Char)
  | [] => some []
  | .char c :: ps => (c :: ·) <$> assemble ps
  | .unit h :: .unit l :: ps =>
    if 0xD800 ≤ h ∧ h < 0xDC00 ∧ 0xDC00 ≤ l ∧ l < 0xE000 then
      (Char.ofNat (0x10000 + (h - 0xD800) * 0x400 + (l - 0xDC00)) :: ·) <$> assemble ps
    else if 0xD800 ≤ h ∧ h < 0xE000 then none
    else (Char.ofNat h :: ·) <$> assemble (.unit l :: ps)
  | .unit h :: ps =>
    if 0xD800 ≤ h ∧ h < 0xE000 then none else (Char.ofNat h :: ·) <$> assemble ps

/-- The literal that the parts of a string make. -/
def literal (parts : List Part) : Literal :=
  String.ofList <$> assemble parts

/-! ## Numerals -/

/-- Whether a character can occur in a numeral. -/
def isNumeralChar (c : Char) : Bool :=
  c.isDigit || c = '-' || c = '+' || c = '.' || c = 'e' || c = 'E'

/-- The digits in front, which must not be missing. -/
def someDigits? (cs : List Char) : Option (List Char × List Char) :=
  match cs.takeWhile Char.isDigit with
  | [] => none
  | ds => some (ds, cs.dropWhile Char.isDigit)

/-- The digits before the point: a zero stands alone. -/
def whole? (cs : List Char) : Option (List Char × List Char) := do
  let (ds, r) ← someDigits? cs
  if ds.head? = some '0' ∧ 1 < ds.length then none else some (ds, r)

/-- The digits after a point, if there is one. -/
def fraction? : List Char → Option (List Char × List Char)
  | '.' :: r => someDigits? r
  | r => some ([], r)

/-- The sign and digits of an exponent. -/
def exponentDigits? : List Char → Option ((Bool × List Char) × List Char)
  | '-' :: r => (someDigits? r).map fun (ds, r) => ((true, ds), r)
  | '+' :: r => (someDigits? r).map fun (ds, r) => ((false, ds), r)
  | r => (someDigits? r).map fun (ds, r) => ((false, ds), r)

/-- The exponent, if there is one. -/
def exponent? : List Char → Option (Option (Bool × List Char) × List Char)
  | c :: r =>
    if c = 'e' ∨ c = 'E' then (exponentDigits? r).map fun (e, r) => (some e, r)
    else some (none, c :: r)
  | [] => some (none, [])

/-- The numeral that a text spells. -/
def Numeral.ofChars? (cs : List Char) : Option Numeral := do
  let negative := cs.head? = some '-'
  let (whole, r) ← whole? (if negative then cs.tail else cs)
  let (fraction, r) ← fraction? r
  let (exponent, r) ← exponent? r
  if r.isEmpty then some ⟨negative, whole, fraction, exponent⟩ else none

/-! ## The lexer -/

/-- Whether a character may stand between tokens. -/
def isBetween (c : Char) : Bool :=
  c = ' ' || c = '\t' || c = '\n' || c = '\r'

/-- The token of a punctuation mark. -/
def Token.ofMark? : Char → Option Token
  | '{' => some .beginObject
  | '}' => some .endObject
  | '[' => some .beginArray
  | ']' => some .endArray
  | ':' => some .colon
  | ',' => some .comma
  | _ => none

mutual

/-- The tokens of a text. -/
def tokens : List Char → Option (List Token)
  | [] => some []
  | 't' :: 'r' :: 'u' :: 'e' :: cs => (Token.scalar (.bool true) :: ·) <$> tokens cs
  | 'f' :: 'a' :: 'l' :: 's' :: 'e' :: cs => (Token.scalar (.bool false) :: ·) <$> tokens cs
  | 'n' :: 'u' :: 'l' :: 'l' :: cs => (Token.scalar .null :: ·) <$> tokens cs
  | '"' :: cs => stringTokens [] cs
  | c :: cs =>
    if isBetween c then tokens cs
    else if isNumeralChar c then numeralTokens [c] cs
    else match Token.ofMark? c with
      | some t => (t :: ·) <$> tokens cs
      | none => none

/-- The tokens of a text that begins inside a string; its parts so far come latest first. -/
def stringTokens (parts : List Part) : List Char → Option (List Token)
  | [] => none
  | '"' :: cs => (Token.string (literal parts.reverse) :: ·) <$> tokens cs
  | '\\' :: 'u' :: a :: b :: c :: d :: cs =>
    match unit? a b c d with
    | some n => stringTokens (.unit n :: parts) cs
    | none => none
  | '\\' :: e :: cs =>
    match shortEscape? e with
    | some c => stringTokens (.char c :: parts) cs
    | none => none
  | c :: cs =>
    if c.toNat < 0x20 ∨ c = '\\' then none else stringTokens (.char c :: parts) cs

/-- The tokens of a text that begins inside a numeral; its characters so far come latest
first. -/
def numeralTokens (taken : List Char) : List Char → Option (List Token)
  | [] => (Numeral.ofChars? taken.reverse).map fun n => [Token.scalar (.number n)]
  | c :: cs =>
    if isNumeralChar c then numeralTokens (c :: taken) cs
    else
      match Numeral.ofChars? taken.reverse with
      | none => none
      | some n =>
        if isBetween c then (Token.scalar (.number n) :: ·) <$> tokens cs
        else match Token.ofMark? c with
          | some t => (fun ts => Token.scalar (.number n) :: t :: ts) <$> tokens cs
          | none => none

end

end TreeShell.Json
