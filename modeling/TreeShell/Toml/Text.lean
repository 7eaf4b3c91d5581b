import TreeShell.Json.Token

/-!
# TOML text

The lexical parts of TOML: blanks, comments and line ends, the four kinds of string, and
the parts of a key.  A reader takes the characters in front and answers what is left.
-/

namespace TreeShell.Toml

/-! ## Blanks and line ends -/

/-- Whether a character is a blank inside a line. -/
def isBlank (c : Char) : Bool :=
  c = ' ' || c = '\t'

/-- Drops the blanks in front. -/
def skipBlanks (cs : List Char) : List Char :=
  cs.dropWhile isBlank

/-- Whether a character may stand in a comment or a string: all but control characters. -/
def isText (c : Char) : Bool :=
  c = '\t' || (0x20 ≤ c.toNat && c.toNat ≠ 0x7F)

/-- What follows a line end, if one is in front. -/
def newline? : List Char → Option (List Char)
  | '\n' :: cs => some cs
  | '\r' :: '\n' :: cs => some cs
  | _ => none

/-- Drops a comment, if one is in front. -/
def skipComment : List Char → List Char
  | '#' :: cs => cs.dropWhile isText
  | cs => cs

/-- What follows the end of a line, before which a comment may stand. -/
def lineEnd? (cs : List Char) : Option (List Char) :=
  match skipComment (skipBlanks cs) with
  | [] => some []
  | rest => newline? rest

/-- Drops blanks, comments and line ends, as many as the fuel allows. -/
def skipLines : Nat → List Char → List Char
  | 0, cs => cs
  | fuel + 1, cs =>
    match skipBlanks cs with
    | '#' :: r =>
      match newline? (r.dropWhile isText) with
      | some rest => skipLines fuel rest
      | none => '#' :: r
    | rest =>
      match newline? rest with
      | some rest => skipLines fuel rest
      | none => rest

/-! ## Escapes -/

/-- The character with a code point, if there is one. -/
def charOf? (n : Nat) : Option Char :=
  if n.isValidChar then some (Char.ofNat n) else none

/-- Reads a code point of the given number of hexadecimal digits. -/
def codePoint? (digits : Nat) (cs : List Char) : Option (Char × List Char) := do
  let ds ← (cs.take digits).mapM Json.hexValue?
  if ds.length = digits then
    some (← charOf? (ds.foldl (fun n d => 16 * n + d) 0), cs.drop digits)
  else none

/-- The character after a backslash. -/
def escape? : List Char → Option (Char × List Char)
  | 'b' :: cs => some ('\x08', cs)
  | 't' :: cs => some ('\t', cs)
  | 'n' :: cs => some ('\n', cs)
  | 'f' :: cs => some ('\x0c', cs)
  | 'r' :: cs => some ('\r', cs)
  | '"' :: cs => some ('"', cs)
  | '\\' :: cs => some ('\\', cs)
  | 'u' :: cs => codePoint? 4 cs
  | 'U' :: cs => codePoint? 8 cs
  | _ => none

/-! ## Strings of one line -/

/-- The rest of a string in double quotes; what it holds so far comes latest first. -/
def basicString : Nat → List Char → List Char → Option (List Char × List Char)
  | fuel + 1, taken, c :: cs =>
    if c = '"' then some (taken.reverse, cs)
    else if c = '\\' then do
      let (d, rest) ← escape? cs
      basicString fuel (d :: taken) rest
    else if isText c then basicString fuel (c :: taken) cs
    else none
  | _, _, _ => none

/-- The rest of a string in single quotes. -/
def literalString (cs : List Char) : Option (List Char × List Char) :=
  match cs.dropWhile fun c => isText c && c ≠ '\'' with
  | '\'' :: rest => some (cs.takeWhile fun c => isText c && c ≠ '\'', rest)
  | _ => none

/-! ## Strings of many lines -/

/-- Drops a line end, if one is in front. -/
def skipNewline (cs : List Char) : List Char :=
  (newline? cs).getD cs

/-- Drops blanks and line ends, as many as the fuel allows. -/
def skipGaps : Nat → List Char → List Char
  | 0, cs => cs
  | fuel + 1, cs =>
    match newline? (skipBlanks cs) with
    | some rest => skipGaps fuel rest
    | none => skipBlanks cs

/-- What follows a backslash at the end of a line: all blanks and line ends are dropped. -/
def continued? (cs : List Char) : Option (List Char) :=
  (newline? (skipBlanks cs)).map fun rest => skipGaps rest.length rest

/-- The end of a string of many lines, when quotes are in front: up to two of them belong
to the string. -/
def quotes? (quote : Char) (cs : List Char) : Option (List Char × List Char) :=
  let n := min 5 (cs.takeWhile (· = quote)).length
  if 3 ≤ n then some (List.replicate (n - 3) quote, cs.drop n) else none

/-- The rest of a string of many lines; `escapes` tells whether a backslash is special. -/
def longString (quote : Char) (escapes : Bool) :
    Nat → List Char → List Char → Option (List Char × List Char)
  | fuel + 1, taken, c :: cs =>
    match newline? (c :: cs) with
    | some rest => longString quote escapes fuel ('\n' :: taken) rest
    | none =>
      if c = quote then
        match quotes? quote (c :: cs) with
        | some (last, rest) => some (taken.reverse ++ last, rest)
        | none => longString quote escapes fuel (c :: taken) cs
      else if escapes && c = '\\' then
        match continued? cs with
        | some rest => longString quote escapes fuel taken rest
        | none => do
          let (d, rest) ← escape? cs
          longString quote escapes fuel (d :: taken) rest
      else if isText c then longString quote escapes fuel (c :: taken) cs
      else none
  | _, _, _ => none

/-- A string of any kind. -/
def string? : List Char → Option (String × List Char)
  | '"' :: '"' :: '"' :: cs =>
    (longString '"' true (cs.length + 1) [] (skipNewline cs)).map fun (s, r) =>
      (String.ofList s, r)
  | '\'' :: '\'' :: '\'' :: cs =>
    (longString '\'' false (cs.length + 1) [] (skipNewline cs)).map fun (s, r) =>
      (String.ofList s, r)
  | '"' :: cs => (basicString (cs.length + 1) [] cs).map fun (s, r) => (String.ofList s, r)
  | '\'' :: cs => (literalString cs).map fun (s, r) => (String.ofList s, r)
  | _ => none

/-! ## Keys -/

/-- Whether a character may stand in a bare key. -/
def isKeyChar (c : Char) : Bool :=
  c.isAlphanum || c = '_' || c = '-'

/-- One part of a key. -/
def keyPart? : List Char → Option (String × List Char)
  | '"' :: cs => (basicString (cs.length + 1) [] cs).map fun (s, r) => (String.ofList s, r)
  | '\'' :: cs => (literalString cs).map fun (s, r) => (String.ofList s, r)
  | cs =>
    match cs.takeWhile isKeyChar with
    | [] => none
    | name => some (String.ofList name, cs.dropWhile isKeyChar)

/-- The parts of a key with dots between them; blanks may stand around each part. -/
def keyParts? : Nat → List Char → Option (List String × List Char)
  | 0, _ => none
  | fuel + 1, cs => do
    let (part, rest) ← keyPart? (skipBlanks cs)
    match skipBlanks rest with
    | '.' :: rest => do
      let (parts, rest) ← keyParts? fuel rest
      some (part :: parts, rest)
    | rest => some ([part], rest)

/-- How deep keys and values may nest. -/
def maxNesting : Nat := 80

/-- A key. -/
def key? (cs : List Char) : Option (List String × List Char) := do
  let (parts, rest) ← keyParts? (cs.length + 1) cs
  if parts.length < maxNesting then some (parts, rest) else none

end TreeShell.Toml
