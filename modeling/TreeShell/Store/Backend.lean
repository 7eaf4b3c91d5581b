import TreeShell.Store.Table

/-!
# Stores of texts

A store keeps a text under a key.  One backend holds texts in memory; the other is a
database of bytes, which holds keys and texts in UTF-8 and may hold bytes that are no
text.  A store over a backend may be unable to read or to write.
-/

namespace TreeShell.Store

/-! ## Errors -/

/-- Why a store did not answer. -/
inductive Fault where
  /-- The backend did not work. -/
  | backend
  /-- The bytes under the key are no text. -/
  | encoding (key : String)
deriving DecidableEq, Repr

/-- The text of a fault; that of a backend is its own. -/
def Fault.message : Fault → String
  | .backend => "storage backend error"
  | .encoding key => "value stored under '" ++ key ++ "' is not valid UTF-8"

/-! ## Backends -/

/-- A database of bytes under bytes. -/
abbrev Database := Table (Array UInt8) ByteArray

/-- The bytes of a key. -/
def keyBytes (key : String) : Array UInt8 := key.toUTF8.data

/-- The text under a key of a database. -/
def Database.getText (db : Database) (key : String) : Except Fault (Option String) :=
  match Table.get? db (keyBytes key) with
  | none => .ok none
  | some bytes =>
    match String.fromUTF8? bytes with
    | some text => .ok (some text)
    | none => .error (.encoding key)

/-- Puts a text under a key of a database. -/
def Database.setText (db : Database) (key text : String) : Database :=
  Table.put db (keyBytes key) text.toUTF8

/-- Where a store keeps its texts. -/
inductive Backend where
  | memory (texts : Table String String)
  | database (bytes : Database)

/-- The text under a key. -/
def Backend.get : Backend → String → Except Fault (Option String)
  | .memory texts, key => .ok (texts.get? key)
  | .database db, key => db.getText key

/-- The backend with a text put under a key. -/
def Backend.set : Backend → String → String → Backend
  | .memory texts, key, text => .memory (texts.put key text)
  | .database db, key, text => .database (db.setText key text)

/-- A memory with nothing in it. -/
def Backend.empty : Backend :=
  .memory ⟨[]⟩

/-- A backend closed and opened again: a database is as it was, and a memory empty. -/
def Backend.reopen : Backend → Backend
  | .memory _ => .empty
  | .database db => .database db

end TreeShell.Store

namespace TreeShell

open TreeShell.Store

/-! ## Stores -/

/-- A backend with the faults of its surroundings. -/
structure Store where
  backend : Backend
  /-- Whether reading fails. -/
  readsFail : Bool := false
  /-- Whether the write with this number fails. -/
  writesFail : Nat → Bool := fun _ => false
  /-- How many writes were tried. -/
  writes : Nat := 0

namespace Store

/-- The text under a key. -/
def get (s : Store) (key : String) : Except Fault (Option String) :=
  if s.readsFail then .error .backend else s.backend.get key

/-- The fault of the next write, if it fails. -/
def nextFault? (s : Store) : Option Fault :=
  if s.writesFail s.writes then some .backend else none

/-- Tries to put a text under a key.  A write that fails puts nothing. -/
def set (s : Store) (key text : String) : Store :=
  { s with
    backend := if s.writesFail s.writes then s.backend else s.backend.set key text
    writes := s.writes + 1 }

end Store

end TreeShell
