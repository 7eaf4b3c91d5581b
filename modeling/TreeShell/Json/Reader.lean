import TreeShell.Json.Token

/-!
# Reading JSON

A value is read from its tokens by a machine that keeps the arrays and objects begun so
far on a stack, so that nesting costs no recursion.
-/

namespace TreeShell.Json

/-! ## The machine -/

/-- An array or object that has begun; what it holds so far comes latest first. -/
inductive Frame where
  | array (items : List Json)
  /-- An object whose member `name` has its value next. -/
  | object (members : List (Literal × Json)) (name : Literal)

/-- What the machine waits for. -/
inductive Cursor where
  /-- A value. -/
  | value (stack : List Frame)
  /-- The first item of an array, or its end. -/
  | firstItem (stack : List Frame)
  /-- The first name of an object, or its end. -/
  | firstName (stack : List Frame)
  /-- A further name of an object. -/
  | name (members : List (Literal × Json)) (stack : List Frame)
  /-- The colon after a name. -/
  | colon (members : List (Literal × Json)) (name : Literal) (stack : List Frame)
  /-- What follows a complete value. -/
  | after (value : Json) (stack : List Frame)

namespace Cursor

/-- The machine after the first token of a value. -/
def start (stack : List Frame) : Token → Option Cursor
  | .string s => some (.after (.string s) stack)
  | .scalar v => some (.after v stack)
  | .beginArray => some (.firstItem stack)
  | .beginObject => some (.firstName stack)
  | _ => none

/-- The machine after one token, unless the token cannot stand there. -/
def step : Cursor → Token → Option Cursor
  | .value stack, t => start stack t
  | .firstItem stack, .endArray => some (.after (.array []) stack)
  | .firstItem stack, t => start (.array [] :: stack) t
  | .firstName stack, .endObject => some (.after (.object []) stack)
  | .firstName stack, .string k => some (.colon [] k stack)
  | .name members stack, .string k => some (.colon members k stack)
  | .colon members k stack, .colon => some (.value (.object members k :: stack))
  | .after v (.array items :: stack), .comma => some (.value (.array (v :: items) :: stack))
  | .after v (.array items :: stack), .endArray =>
    some (.after (.array (v :: items).reverse) stack)
  | .after v (.object members k :: stack), .comma =>
    some (.name ((k, v) :: members) stack)
  | .after v (.object members k :: stack), .endObject =>
    some (.after (.object ((k, v) :: members).reverse) stack)
  | _, _ => none

/-- The value read, once it is complete and nothing is left open. -/
def result? : Cursor → Option Json
  | .after v [] => some v
  | _ => none

end Cursor

/-- The value that a list of tokens spells. -/
def ofTokens? (ts : List Token) : Option Json := do
  (← ts.foldlM Cursor.step (.value [])).result?

/-- The value that a text spells. -/
def parse? (cs : List Char) : Option Json := do
  ofTokens? (← tokens cs)

end TreeShell.Json
