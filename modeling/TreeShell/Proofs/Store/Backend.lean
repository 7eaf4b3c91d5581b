import Mathlib.Tactic.Common
import TreeShell.Store.Backend

/-!
# Last writes

A store answers the text that was put last under a key, in memory as in a database of
bytes, and under every other key what it answered before; a write that fails leaves what the
store answers.

Main statements: `Backend.get_set_self`, `Backend.get_set_of_ne`, `Store.backend_set`.
-/

namespace TreeShell

namespace Store

theorem fromUTF8?_toUTF8 (text : String) : String.fromUTF8? text.toUTF8 = some text := by
  have hValid : text.toByteArray.IsValidUTF8 := text.isValidUTF8
  simp [String.fromUTF8?, hValid, String.fromUTF8]

theorem Backend.get_set_self (b : Backend) (key text : String) :
    (b.set key text).get key = .ok (some text) := by
  cases b with
  | memory texts => simp [Backend.set, Backend.get, Table.get?_put_self]
  | database db =>
    simp only [Backend.set, Backend.get, Database.setText, Database.getText,
      Table.get?_put_self, fromUTF8?_toUTF8]

theorem keyBytes_inj {key other : String} (h : keyBytes other = keyBytes key) : other = key := by
  have hBytes : other.toUTF8 = key.toUTF8 := ByteArray.ext h
  have hTexts : some other = some key := by
    rw [← fromUTF8?_toUTF8 other, hBytes, fromUTF8?_toUTF8]
  exact Option.some.inj hTexts

theorem Backend.get_set_of_ne {key other : String} (h : other ≠ key) (b : Backend)
    (text : String) : (b.set key text).get other = b.get other := by
  cases b with
  | memory texts => simp only [Backend.set, Backend.get, Table.get?_put_ne texts text h]
  | database db =>
    -- Keys that differ as texts differ in their bytes.
    have hBytes : keyBytes other ≠ keyBytes key := fun hEq => h (keyBytes_inj hEq)
    simp only [Backend.set, Backend.get, Database.setText, Database.getText,
      Table.get?_put_ne db text.toUTF8 hBytes]

/-! ## Stores with faults -/

theorem get_of_readable {s : Store} (h : s.readsFail = false) (key : String) :
    s.get key = s.backend.get key := by
  simp [get, h]

theorem get_eq_ok {s : Store} {key : String} {found : Option String} (h : s.get key = .ok found) :
    s.backend.get key = .ok found := by
  unfold get at h
  split at h
  · contradiction
  · exact h

/-- A write leaves the backend as it was or puts the text there. -/
theorem backend_set (s : Store) (key text : String) :
    (s.set key text).backend = s.backend ∨
      (s.set key text).backend = s.backend.set key text := by
  by_cases hFails : s.writesFail s.writes = true
  · exact .inl (by simp [set, hFails])
  · exact .inr (by simp [set, hFails])

theorem get_set_self {s : Store} (hReads : s.readsFail = false)
    (hWrites : ∀ n, s.writesFail n = false) (key text : String) :
    (s.set key text).get key = .ok (some text) := by
  have hBackend : (s.set key text).backend = s.backend.set key text := by
    simp [set, hWrites]
  rw [get_of_readable (by exact hReads), hBackend, Backend.get_set_self]

end Store

end TreeShell
