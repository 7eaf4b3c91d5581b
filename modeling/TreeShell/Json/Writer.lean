import TreeShell.Json.Value

/-!
# Writing JSON

The compact form: no blanks, members in their order.  In strings only the quote, the
backslash and the characters below the space are escaped, the latter by a letter where
there is one and else by their number in small hexadecimal digits.
-/

namespace TreeShell.Json

/-! ## Strings -/

/-- A character as it stands inside a string. -/
def escapeChar (c : Char) : List Char :=
  if c = '"' then ['\\', '"']
  else if c = '\\' then ['\\', '\\']
  else if c = '\x08' then ['\\', 'b']
  else if c = '\x0c' then ['\\', 'f']
  else if c = '\n' then ['\\', 'n']
  else if c = '\r' then ['\\', 'r']
  else if c = '\t' then ['\\', 't']
  else if c.toNat < 0x20 then
    '\\' :: 'u' :: '0' :: '0' :: [Nat.digitChar (c.toNat / 16), Nat.digitChar (c.toNat % 16)]
  else [c]

/-- The characters of a text as they stand inside a string. -/
def escape : List Char → List Char
  | [] => []
  | c :: cs => escapeChar c ++ escape cs

/-- A string literal.  One that denotes no text is written as half a pair. -/
def Literal.render : Literal → List Char
  | some s => '"' :: escape s.toList ++ ['"']
  | none => ['"', '\\', 'u', 'd', '8', '0', '0', '"']

/-! ## Numerals -/

/-- A numeral as it is spelt. -/
def Numeral.render (n : Numeral) : List Char :=
  (if n.negative then ['-'] else []) ++ n.whole
    ++ (if n.fraction.isEmpty then [] else '.' :: n.fraction)
    ++ match n.exponent with
      | none => []
      | some (minus, ds) => 'e' :: (if minus then ['-'] else []) ++ ds

/-! ## Values -/

mutual

/-- The text of a value. -/
def render : Json → List Char
  | .null => ['n', 'u', 'l', 'l']
  | .bool true => ['t', 'r', 'u', 'e']
  | .bool false => ['f', 'a', 'l', 's', 'e']
  | .number n => n.render
  | .string s => Literal.render s
  | .array [] => ['[', ']']
  | .array (v :: vs) => '[' :: render v ++ renderItems vs
  | .object [] => ['{', '}']
  | .object ((k, v) :: ms) => '{' :: Literal.render k ++ ':' :: render v ++ renderMembers ms

/-- The text of an array from the end of an item on. -/
def renderItems : List Json → List Char
  | [] => [']']
  | v :: vs => ',' :: render v ++ renderItems vs

/-- The text of an object from the end of a member on. -/
def renderMembers : List (Literal × Json) → List Char
  | [] => ['}']
  | (k, v) :: ms => ',' :: Literal.render k ++ ':' :: render v ++ renderMembers ms

end

end TreeShell.Json
