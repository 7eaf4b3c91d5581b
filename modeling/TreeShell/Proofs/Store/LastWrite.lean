import Mathlib.Data.List.Induction
import Mathlib.Tactic.Common
import TreeShell.Proofs.Store.Backend

/-!
# Backends are maps of last writes

A backend answers each reading with the text that was put last under exactly this key.  A key under
which nothing was put yet reads as it did at the beginning: as nothing in a backend that began
empty, and in a database as the text that its bytes are in UTF-8, or as a fault that names the key
when they are the bytes of no text.  A database answers so however often it is reopened, and a
memory as long as it is not.

## Layers

- `Access`, `Backend.answers`: backends in use;
- `lastSet`, `reading`: what is to be answered, told by the accesses alone;
- `Database.reads_getText`: what the bytes under a key read as;
- `Backend.get_after`: one access;
- `Backend.get_afterAll`, `Backend.answers_getElem?`: accesses one after the other;
- `Backend.answers_lastWrite`.
-/

namespace TreeShell.Store

/-! ## Accesses -/

/-- What can be done with a backend. -/
inductive Access where
  | get (key : String)
  | set (key text : String)
  /-- The backend is closed and opened again. -/
  | reopen
deriving DecidableEq, Repr

/-- What a reading comes to. -/
abbrev Reading := Except Fault (Option String)

namespace Backend

/-- What a backend answers to an access; only a reading is answered with something. -/
def answer (b : Backend) : Access → Option Reading
  | .get key => some (b.get key)
  | .set _ _ => none
  | .reopen => none

/-- The backend after an access. -/
def after (b : Backend) : Access → Backend
  | .get _ => b
  | .set key text => b.set key text
  | .reopen => b.reopen

/-- The backend after some accesses. -/
def afterAll (b : Backend) (accesses : List Access) : Backend :=
  accesses.foldl after b

/-- What a backend answers to accesses one after the other. -/
def answers (b : Backend) : List Access → List (Option Reading)
  | [] => []
  | a :: rest => b.answer a :: (b.after a).answers rest

theorem afterAll_concat (b : Backend) (accesses : List Access) (a : Access) :
    b.afterAll (accesses ++ [a]) = (b.afterAll accesses).after a := by
  rw [afterAll, List.foldl_append]
  rfl

/-- Each access is answered by the backend that those before it left. -/
theorem answers_getElem? (b : Backend) (before : List Access) (a : Access) (rest : List Access) :
    (b.answers (before ++ a :: rest))[before.length]? = some ((b.afterAll before).answer a) := by
  induction before generalizing b with
  | nil => rfl
  | cons first before ih => exact ih (b.after first)

end Backend

/-! ## What is to be answered -/

/-- The text that an access puts under a key, if it puts one there. -/
def Access.textFor (key : String) : Access → Option String
  | .set k text => if k = key then some text else none
  | .get _ => none
  | .reopen => none

/-- The text that accesses put last under a key. -/
def lastSet (key : String) (accesses : List Access) : Option String :=
  (accesses.filterMap (Access.textFor key)).getLast?

/-- What a key reads as after some accesses, given what it read as before them. -/
def reading (first : String → Reading) (accesses : List Access) (key : String) : Reading :=
  match lastSet key accesses with
  | some text => .ok (some text)
  | none => first key

theorem lastSet_concat (key : String) (accesses : List Access) (a : Access) :
    lastSet key (accesses ++ [a]) = (a.textFor key).or (lastSet key accesses) := by
  rw [lastSet, List.filterMap_append, List.getLast?_append, lastSet]
  congr 1
  cases hText : a.textFor key <;> simp [hText]

theorem textFor_eq_none {key : String} {a : Access} (h : ∀ text, a ≠ .set key text) :
    a.textFor key = none := by
  cases a with
  | get k => rfl
  | set k text =>
    have hOther : k ≠ key := by
      rintro rfl
      exact h text rfl
    exact if_neg hOther
  | reopen => rfl

theorem reading_nothing (accesses : List Access) (key : String) :
    reading (fun _ => .ok none) accesses key = .ok (lastSet key accesses) := by
  unfold reading
  cases lastSet key accesses <;> rfl

/-! ## Bytes -/

/-- What the bytes under a key of a database read as. -/
inductive Database.Reads (db : Database) (key : String) : Reading → Prop where
  /-- There is nothing. -/
  | nothing (hBytes : Table.get? db (keyBytes key) = none) : Reads db key (.ok none)
  /-- The bytes are those of a text in UTF-8. -/
  | text {text : String} (hBytes : Table.get? db (keyBytes key) = some text.toUTF8) :
    Reads db key (.ok (some text))
  /-- The bytes are those of no text. -/
  | noText {bytes : ByteArray} (hBytes : Table.get? db (keyBytes key) = some bytes)
    (hNone : ∀ text : String, text.toUTF8 ≠ bytes) : Reads db key (.error (.encoding key))

theorem toUTF8_of_fromUTF8? {bytes : ByteArray} {text : String}
    (h : String.fromUTF8? bytes = some text) : text.toUTF8 = bytes := by
  unfold String.fromUTF8? at h
  split at h
  · rw [← Option.some.inj h]
    rfl
  · contradiction

theorem Database.reads_getText (db : Database) (key : String) : db.Reads key (db.getText key) := by
  unfold Database.getText
  split
  · rename_i hBytes
    exact .nothing hBytes
  · rename_i bytes hBytes
    split
    · rename_i text hText
      rw [← toUTF8_of_fromUTF8? hText] at hBytes
      exact .text hBytes
    · rename_i hNone
      refine .noText hBytes fun text hSame => ?_
      rw [← hSame, fromUTF8?_toUTF8] at hNone
      contradiction

/-! ## Backends in use -/

namespace Backend

/-- Whether a backend keeps its texts over an access. -/
def Keeps (b : Backend) (a : Access) : Prop :=
  a = .reopen → b.reopen = b

/-- **One access**: a key reads as the text that was put under it, and else as it did. -/
theorem get_after {b : Backend} {a : Access} (hKeeps : b.Keeps a) (key : String) :
    (b.after a).get key = match a.textFor key with
      | some text => .ok (some text)
      | none => b.get key := by
  cases a with
  | get k => rfl
  | set k text =>
    by_cases hKey : k = key
    · subst hKey
      simp only [after, get_set_self, Access.textFor, if_true]
    · simp only [after, get_set_of_ne (Ne.symm hKey), Access.textFor, if_neg hKey]
  | reopen => rw [after, hKeeps rfl, Access.textFor]

theorem after_database (db : Database) (a : Access) :
    ∃ db', (database db).after a = database db' := by
  cases a with
  | get k => exact ⟨db, rfl⟩
  | set k text => exact ⟨db.setText k text, rfl⟩
  | reopen => exact ⟨db, rfl⟩

theorem afterAll_database (db : Database) (accesses : List Access) :
    ∃ db', (database db).afterAll accesses = database db' := by
  induction accesses using List.reverseRecOn with
  | nil => exact ⟨db, rfl⟩
  | append_singleton accesses a ih =>
    obtain ⟨db', hBefore⟩ := ih
    rw [afterAll_concat, hBefore]
    exact after_database db' a

/-- A backend that accesses do not make forget: a database, or any that they do not reopen. -/
def Lasts (b : Backend) (accesses : List Access) : Prop :=
  (∃ db, b = database db) ∨ .reopen ∉ accesses

theorem Lasts.keeps {b : Backend} {before : List Access} {a : Access}
    (h : b.Lasts (before ++ [a])) : (b.afterAll before).Keeps a := by
  rintro rfl
  rcases h with ⟨db, rfl⟩ | hNone
  · obtain ⟨db', hBefore⟩ := afterAll_database db before
    rw [hBefore]
    rfl
  · exact absurd (by simp) hNone

theorem Lasts.of_concat {b : Backend} {before : List Access} {a : Access}
    (h : b.Lasts (before ++ [a])) : b.Lasts before :=
  h.imp_right fun hNone hMem => hNone (List.mem_append_left _ hMem)

/-- **Accesses one after the other**: each key reads as the text that was put last under it, and
else as at the beginning. -/
theorem get_afterAll {b : Backend} {accesses : List Access} (h : b.Lasts accesses) (key : String) :
    (b.afterAll accesses).get key = reading b.get accesses key := by
  -- From the end: the last access decides, or leaves what those before it made of the key.
  induction accesses using List.reverseRecOn with
  | nil => rfl
  | append_singleton before a ih =>
    rw [afterAll_concat, get_after h.keeps, reading, lastSet_concat, ih h.of_concat, reading]
    cases a.textFor key <;> rfl

/-- Backends with the same readings answer the same as long as they are not reopened. -/
theorem answers_congr {b b' : Backend} (hSame : ∀ key, b.get key = b'.get key)
    {accesses : List Access} (hNone : .reopen ∉ accesses) :
    b.answers accesses = b'.answers accesses := by
  induction accesses generalizing b b' with
  | nil => rfl
  | cons a rest ih =>
    obtain ⟨hFirst, hRest⟩ := not_or.1 (List.mem_cons.not.1 hNone)
    have hAnswer : b.answer a = b'.answer a := by
      cases a with
      | get key => exact congrArg some (hSame key)
      | set key text => rfl
      | reopen => rfl
    have hAfter : ∀ key, (b.after a).get key = (b'.after a).get key := by
      intro key
      rw [get_after fun h => absurd h.symm hFirst, get_after fun h => absurd h.symm hFirst,
        hSame key]
    rw [answers, answers, hAnswer, ih hAfter hRest]

/-! ## The map of last writes -/

theorem get_empty (key : String) : empty.get key = (database ⟨[]⟩).get key := rfl

/-- **Last writes.**  A database, whatever bytes it begins with and wherever it is reopened, answers
each reading of a key with the text put last under this key, and before that with what its bytes
read as; no access but a write under a key changes what the key reads as.  A memory and a database
that begin empty give the same answers as long as the memory is not reopened, each reading the text
put last under its key, or nothing. -/
theorem answers_lastWrite (db : Database) :
    (∀ before key rest,
      ((database db).answers (before ++ .get key :: rest))[before.length]?
        = some (some (reading db.getText before key))) ∧
    (∀ key, db.Reads key (db.getText key)) ∧
    (∀ before a key, (∀ text, a ≠ .set key text) →
      ((database db).afterAll (before ++ [a])).get key
        = ((database db).afterAll before).get key) ∧
    (∀ accesses, .reopen ∉ accesses →
      empty.answers accesses = (database ⟨[]⟩).answers accesses) ∧
    (∀ before key rest, .reopen ∉ before →
      (empty.answers (before ++ .get key :: rest))[before.length]?
        = some (some (.ok (lastSet key before)))) := by
  have hLasts : ∀ accesses, (database db).Lasts accesses := fun _ => .inl ⟨db, rfl⟩
  refine ⟨?database, db.reads_getText, ?others, fun accesses => answers_congr get_empty, ?memory⟩
  case database =>
    intro before key rest
    rw [answers_getElem?, answer, get_afterAll (hLasts before)]
    rfl
  case others =>
    intro before a key hOther
    rw [afterAll_concat, get_after (hLasts (before ++ [a])).keeps, textFor_eq_none hOther]
  case memory =>
    intro before key rest hNone
    rw [answers_getElem?, answer, get_afterAll (.inr hNone), ← reading_nothing]
    rfl

/-- Bytes that are no text, and the text that is put in their place. -/
example :
    (database ⟨[(keyBytes "é", ⟨#[0xFF]⟩)]⟩).answers
        [.get "é", .set "e" "", .reopen, .get "é", .set "é" "ü", .reopen, .get "é"]
      = [some (.error (.encoding "é")), none, none, some (.error (.encoding "é")), none, none,
        some (.ok (some "ü"))] := by
  rfl

end Backend

end TreeShell.Store
