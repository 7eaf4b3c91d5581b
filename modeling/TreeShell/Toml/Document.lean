import TreeShell.Toml.Scalar
import TreeShell.Toml.Text

/-!
# TOML documents

A document is read line by line: an empty line, a header that begins a table, a header
that begins an element of an array of tables, or a key with its value.
-/

namespace TreeShell.Toml

/-! ## Values -/

mutual

/-- A value inside `depth` arrays and inline tables. -/
def value? (depth : Nat) : Nat → List Char → Option (Item × List Char)
  | fuel + 1, '[' :: cs =>
    if depth + 1 < maxNesting then do
      let (items, rest) ← items? (depth + 1) fuel cs
      some (.array items, rest)
    else none
  | fuel + 1, '\x7b' :: cs =>
    if depth + 1 < maxNesting then
      match skipBlanks cs with
      | '\x7d' :: rest => some (.table .inline [], rest)
      | rest => do
        let (entries, rest) ← pairs? (depth + 1) fuel [] rest
        some (.table .inline entries, rest)
    else none
  | _ + 1, '"' :: cs => (string? ('"' :: cs)).map fun (s, r) => (.string s, r)
  | _ + 1, '\'' :: cs => (string? ('\'' :: cs)).map fun (s, r) => (.string s, r)
  | _ + 1, cs => scalar? cs
  | 0, _ => none

/-- The items of an array up to its closing bracket. -/
def items? (depth : Nat) : Nat → List Char → Option (List Item × List Char)
  | 0, _ => none
  | fuel + 1, cs =>
    match skipLines cs.length cs with
    | ']' :: rest => some ([], rest)
    | cs => do
      let (item, rest) ← value? depth fuel cs
      match skipLines rest.length rest with
      | ']' :: rest => some ([item], rest)
      | ',' :: rest => do
        let (items, rest) ← items? depth fuel rest
        some (item :: items, rest)
      | _ => none

/-- The pairs of an inline table up to its closing brace, after those already there. -/
def pairs? (depth : Nat) : Nat → Entries → List Char → Option (Entries × List Char)
  | 0, _, _ => none
  | fuel + 1, entries, cs => do
    let (key, rest) ← key? cs
    let (item, rest) ← value? depth fuel (skipBlanks (← mark? '=' rest))
    let entries ← entries.insert key item
    match skipBlanks rest with
    | '\x7d' :: rest => some (entries, rest)
    | ',' :: rest => pairs? depth fuel entries rest
    | _ => none

end

/-! ## Lines -/

/-- A document as far as it is read: its entries, and the header whose table the next
keys belong to. -/
structure Reading where
  entries : Entries := []
  header : List String := []

/-- Reads the line in front, which is not empty. -/
def line? (d : Reading) : List Char → Option (Reading × List Char)
  | '[' :: '[' :: cs => do
    let (key, rest) ← key? cs
    let rest ← lineEnd? (← mark? ']' (← mark? ']' rest))
    some (⟨← d.entries.beginElement key, key⟩, rest)
  | '[' :: cs => do
    let (key, rest) ← key? cs
    let rest ← lineEnd? (← mark? ']' rest)
    some (⟨← d.entries.beginTable key, key⟩, rest)
  | cs => do
    let (key, rest) ← key? cs
    let rest := skipBlanks (← mark? '=' rest)
    let (item, rest) ← value? 0 (2 * rest.length + 2) rest
    let rest ← lineEnd? rest
    some ({ d with entries := ← d.entries.insertBelow d.header key item }, rest)

/-- Reads lines to the end of the text, as many as the fuel allows. -/
def lines? : Nat → Reading → List Char → Option Entries
  | 0, _, _ => none
  | fuel + 1, d, cs =>
    match skipLines cs.length cs with
    | [] => some d.entries
    | '#' :: cs => if cs.all isText then some d.entries else none
    | cs => do
      let (d, rest) ← line? d cs
      lines? fuel d rest

/-- The entries of the document that a text spells.  A byte-order mark in front is
passed over. -/
def parse? (text : String) : Option Entries :=
  match text.toList with
  | '\uFEFF' :: cs => lines? (cs.length + 1) {} cs
  | cs => lines? (cs.length + 1) {} cs

end TreeShell.Toml
