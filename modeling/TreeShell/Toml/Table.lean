/-!
# TOML tables

A document is a table of items under keys.  How a table came to be decides what may be
added to it later: a table with a header of its own is complete with its next header, a
table that only deeper headers imply may still get its header, a table made by dotted
keys takes further dotted keys, and an inline table takes nothing.
-/

namespace TreeShell.Toml

/-- How a table came to be. -/
inductive Style where
  /-- By its own header, or as the document. -/
  | header
  /-- By the header of a table below it. -/
  | implied
  /-- By a dotted key. -/
  | dotted
  /-- In braces. -/
  | inline
deriving DecidableEq, Repr

/-- An item of a document.  The numbers and dates that no setting reads keep no value. -/
inductive Item where
  | string (value : String)
  | integer (value : Int)
  | float
  | boolean (value : Bool)
  | dateTime
  | array (items : List Item)
  | table (style : Style) (entries : List (String × Item))
  /-- The tables under the headers of an array, in order. -/
  | tables (elements : List (List (String × Item)))

/-- The entries of a table. -/
abbrev Entries := List (String × Item)

namespace Entries

/-- Replaces the item under a key in place, or adds it last. -/
def put (es : Entries) (key : String) (item : Item) : Entries :=
  if (es.lookup key).isSome then es.map fun (k, i) => if k = key then (k, item) else (k, i)
  else es ++ [(key, item)]

/-- A change of a table that sees how the table came to be. -/
abbrev Change := Style → Entries → Option Entries

/-- Changes the table at a path of header keys.  Tables that are missing on the way are
implied, and an array of tables means its last element. -/
def atHeader (change : Change) : List String → Style → Entries → Option Entries
  | [], style, es => change style es
  | key :: path, _, es =>
    match es.lookup key with
    | none => do
      some (put es key (.table .implied (← atHeader change path .implied [])))
    | some (.table .inline _) => none
    | some (.table s inner) => do
      some (put es key (.table s (← atHeader change path s inner)))
    | some (.tables elements) =>
      match elements.getLast? with
      | none => none
      | some last => do
        some (put es key (.tables (elements.dropLast ++ [← atHeader change path .header last])))
    | some _ => none

/-- Changes the table at a path of dotted keys.  Tables that are missing on the way are
made; one that has a header of its own or stands in braces is closed. -/
def atDotted (change : Change) : List String → Style → Entries → Option Entries
  | [], style, es => change style es
  | key :: path, _, es =>
    match es.lookup key with
    | none => do
      some (put es key (.table .dotted (← atDotted change path .dotted [])))
    | some (.table .header _) => none
    | some (.table .inline _) => none
    | some (.table s inner) => do
      some (put es key (.table s (← atDotted change path s inner)))
    | some (.tables elements) =>
      match elements.getLast? with
      | none => none
      | some last => do
        some (put es key (.tables (elements.dropLast ++ [← atDotted change path .header last])))
    | some _ => none

/-- Puts an item under a dotted key: the last part is new in the table that the parts
before it lead to, and that table was made by dotted keys exactly when there are any. -/
def insert (es : Entries) (key : List String) (item : Item) : Option Entries :=
  match key.getLast? with
  | none => none
  | some name =>
    atDotted (fun style inner =>
      if style = .dotted ↔ key.length = 1 then none
      else if (inner.lookup name).isSome then none
      else some (inner ++ [(name, item)])) key.dropLast .header es

/-- Begins the table with a header. -/
def beginTable (es : Entries) (key : List String) : Option Entries :=
  match key.getLast? with
  | none => none
  | some name =>
    atHeader (fun _ inner =>
      match inner.lookup name with
      | none => some (inner ++ [(name, .table .header [])])
      | some (.table .implied below) => some (put inner name (.table .header below))
      | some _ => none) key.dropLast .header es

/-- Begins the next element of the array of tables with a header. -/
def beginElement (es : Entries) (key : List String) : Option Entries :=
  match key.getLast? with
  | none => none
  | some name =>
    atHeader (fun _ inner =>
      match inner.lookup name with
      | none => some (inner ++ [(name, .tables [[]])])
      | some (.tables elements) => some (put inner name (.tables (elements ++ [[]])))
      | some _ => none) key.dropLast .header es

/-- Puts an item under a dotted key of the table at a header. -/
def insertBelow (es : Entries) (header key : List String) (item : Item) : Option Entries :=
  atHeader (fun _ inner => insert inner key item) header .header es

end Entries

end TreeShell.Toml
