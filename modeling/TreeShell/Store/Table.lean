/-!
# Tables

A table holds one value per key.  Putting a value replaces the one that the key had.

Main statements: `get?_put_self` and `get?_put_ne` give the value under every key after
a put.
-/

namespace TreeShell.Store

/-- The pairs of a table, the latest put first. -/
structure Table (κ α : Type) where
  pairs : List (κ × α) := []

namespace Table

variable {κ α : Type} [DecidableEq κ]

/-- The value under a key. -/
def get? (t : Table κ α) (key : κ) : Option α :=
  (t.pairs.find? fun p => p.1 = key).map Prod.snd

/-- Puts a value under a key. -/
def put (t : Table κ α) (key : κ) (value : α) : Table κ α :=
  ⟨(key, value) :: t.pairs.filter fun p => p.1 ≠ key⟩

theorem get?_put_self (t : Table κ α) (key : κ) (value : α) :
    (t.put key value).get? key = some value := by
  simp [get?, put]

theorem get?_put_ne (t : Table κ α) {key other : κ} (value : α) (h : other ≠ key) :
    (t.put key value).get? other = t.get? other := by
  have hne : ¬ key = other := fun e => h e.symm
  have hfind : (t.pairs.filter fun p => p.1 ≠ key).find? (fun p => p.1 = other)
      = t.pairs.find? fun p => p.1 = other := by
    rw [List.find?_filter]
    congr 1
    funext p
    by_cases hp : p.1 = other <;> simp [hp, h]
  simp only [get?, put, List.find?_cons, hne, decide_false, hfind]

end Table

end TreeShell.Store
