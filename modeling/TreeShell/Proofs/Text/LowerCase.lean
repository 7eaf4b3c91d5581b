import Mathlib.Tactic.Common
import TreeShell.Text.LowerCase

/-!
# What has an ASCII lower-case form

Two characters outside ASCII have ASCII characters in their lower-case form: the Kelvin sign
becomes `k`, and the dotted capital I becomes `i` with a dot above.  The others keep outside ASCII,
a capital sigma wherever it stands.  So a word in ASCII that has neither of these two letters is
the lower-case form of its own spellings in ASCII letter case, and of no other text.

## Layers

- `caseRuns_partner`: where the partners of the table lie;
- `lowerChar_of_isAscii`, `exists_lowerChar_eq_cons`: one character;
- `lowerFrom_eq_iff`, `toLower_eq_iff`: a whole text.
-/

namespace TreeShell.Text

/-! ## ASCII -/

/-- Whether a character is one of ASCII. -/
def IsAscii (c : Char) : Prop :=
  c.toNat < 0x80

instance : DecidablePred IsAscii := fun _ => inferInstanceAs (Decidable (_ < _))

/-- Whether a character stands in the lower-case form of ASCII characters only. -/
def IsAsciiOnly (c : Char) : Prop :=
  IsAscii c ∧ c ≠ 'i' ∧ c ≠ 'k'

instance : DecidablePred IsAsciiOnly := fun _ => inferInstanceAs (Decidable (_ ∧ _))

/-- The small letter of a capital lies 32 further on, and all else stays. -/
theorem toNat_toLower (c : Char) :
    c.toLower.toNat = if 0x41 ≤ c.toNat ∧ c.toNat ≤ 0x5A then c.toNat + 0x20 else c.toNat := by
  have hCapital : (c.val ≥ 'A'.val ∧ c.val ≤ 'Z'.val) ↔ 0x41 ≤ c.toNat ∧ c.toNat ≤ 0x5A := by
    simp only [ge_iff_le, UInt32.le_iff_toNat_le]
    rfl
  unfold Char.toLower
  split
  · rename_i h
    have hRange := hCapital.1 h
    have hSum : (c.val + ('a'.val - 'A'.val)).toNat = c.toNat + 0x20 := by
      have hShift : ('a'.val - 'A'.val).toNat = 0x20 := rfl
      have hValue : c.val.toNat = c.toNat := rfl
      rw [UInt32.toNat_add, hShift, hValue]
      omega
    rw [if_pos hRange]
    exact hSum
  · rename_i h
    rw [if_neg (hCapital.not.1 h)]

/-- The letter case of ASCII leaves all other characters. -/
theorem toLower_of_not_isAscii {c : Char} (h : ¬ IsAscii c) : c.toLower = c := by
  have hValue : ¬ c.toNat < 0x80 := h
  apply Char.toNat_inj.1
  rw [toNat_toLower, if_neg (by omega)]

/-! ## One character -/

theorem lowerChar_of_isAscii {c : Char} (h : IsAscii c) : lowerChar c = [c.toLower] :=
  if_pos h

/-- The partners of a run are characters outside ASCII, but for the run of the Kelvin sign. -/
theorem caseRuns_partner : ∀ r ∈ caseRuns, (r.first = r.last ∧ r.partner = 'k'.toNat) ∨
    (0x80 ≤ r.partner ∧ (r.partner + (r.last - r.first) < 0xD800 ∨
      (0xE000 ≤ r.partner ∧ r.partner + (r.last - r.first) < 0x110000))) := by
  decide +kernel

theorem toNat_ofNat {n : Nat} (h : n.isValidChar) : (Char.ofNat n).toNat = n := by
  rw [Char.ofNat, dif_pos h]
  rfl

/-- The partner of a character is no form of ASCII characters only. -/
theorem not_isAsciiOnly_partner {c n : Nat} (h : caseRuns.findSome? (·.partner? c) = some n) :
    ¬ IsAsciiOnly (Char.ofNat n) := by
  obtain ⟨r, hRun, hPartner⟩ := List.exists_of_findSome?_eq_some h
  unfold CaseRun.partner? at hPartner
  split at hPartner
  · rename_i hIn
    simp only [Bool.and_eq_true, decide_eq_true_eq, beq_iff_eq] at hIn
    obtain rfl : r.partner + (c - r.first) = n := Option.some.inj hPartner
    rcases caseRuns_partner r hRun with ⟨hOne, hKelvin⟩ | ⟨hLow, hHigh⟩
    · have hValue : r.partner + (c - r.first) = 'k'.toNat := by omega
      rw [hValue, Char.ofNat_toNat]
      exact fun hOnly => hOnly.2.2 rfl
    · -- The partner is a code point of a character, so it is the number of this character.
      have hValid : (r.partner + (c - r.first)).isValidChar := by
        rw [Nat.isValidChar]
        omega
      intro hOnly
      have hAscii : (Char.ofNat (r.partner + (c - r.first))).toNat < 0x80 := hOnly.1
      rw [toNat_ofNat hValid] at hAscii
      omega
  · contradiction

/-- The lower-case form of a character outside ASCII begins with a character that is no form of
ASCII characters only. -/
theorem exists_lowerChar_eq_cons {c : Char} (h : ¬ IsAscii c) :
    ∃ d ds, lowerChar c = d :: ds ∧ ¬ IsAsciiOnly d := by
  have hValue : ¬ c.toNat < 0x80 := h
  rw [lowerChar, if_neg hValue]
  split
  · exact ⟨'i', [Char.ofNat 0x307], rfl, by decide⟩
  · split
    · rename_i n hPartner
      exact ⟨Char.ofNat n, [], rfl, not_isAsciiOnly_partner hPartner⟩
    · exact ⟨c, [], rfl, fun hOnly => h hOnly.1⟩

theorem not_isAscii_lowerSigma (before after : List Char) :
    ¬ IsAscii (lowerSigma before after) := by
  unfold lowerSigma
  split <;> decide

/-! ## Whole texts -/

theorem lowerFrom_cons_of_isAscii {c : Char} (h : IsAscii c) (before cs : List Char) :
    lowerFrom before (c :: cs) = c.toLower :: lowerFrom (c :: before) cs := by
  have hSigma : c ≠ 'Σ' := by
    rintro rfl
    exact absurd h (by decide)
  rw [lowerFrom, if_neg hSigma, lowerChar_of_isAscii h, List.singleton_append]

theorem exists_lowerFrom_cons_eq {c : Char} (h : ¬ IsAscii c) (before cs : List Char) :
    ∃ d ds, lowerFrom before (c :: cs) = d :: ds ∧ ¬ IsAsciiOnly d := by
  by_cases hSigma : c = 'Σ'
  · refine ⟨lowerSigma before cs, lowerFrom (c :: before) cs, ?_, ?_⟩
    · rw [lowerFrom, if_pos hSigma, List.singleton_append]
    · exact fun hOnly => not_isAscii_lowerSigma before cs hOnly.1
  · obtain ⟨d, ds, hForm, hOther⟩ := exists_lowerChar_eq_cons h
    refine ⟨d, ds ++ lowerFrom (c :: before) cs, ?_, hOther⟩
    rw [lowerFrom, if_neg hSigma, hForm, List.cons_append]

theorem lowerFrom_eq_iff {verb : List Char} (hVerb : ∀ c ∈ verb, IsAsciiOnly c)
    (before cs : List Char) : lowerFrom before cs = verb ↔ cs.map Char.toLower = verb := by
  -- What stands before a character decides its form only where it is a sigma.
  induction cs generalizing before verb with
  | nil => rfl
  | cons c cs ih =>
    by_cases hAscii : IsAscii c
    · rw [lowerFrom_cons_of_isAscii hAscii, List.map_cons]
      cases verb with
      | nil => exact iff_of_false (List.cons_ne_nil _ _) (List.cons_ne_nil _ _)
      | cons d verb =>
        rw [List.cons.injEq, List.cons.injEq, ih (List.forall_mem_cons.1 hVerb).2]
    · -- Neither reading makes this character one of the word.
      obtain ⟨d, ds, hForm, hOther⟩ := exists_lowerFrom_cons_eq hAscii before cs
      rw [hForm, List.map_cons, toLower_of_not_isAscii hAscii]
      refine iff_of_false ?_ ?_
      · rintro rfl
        exact hOther (List.forall_mem_cons.1 hVerb).1
      · rintro rfl
        exact hAscii (List.forall_mem_cons.1 hVerb).1.1

/-- **Two readings of a word**: a text is an ASCII word without `i` and `k` in lower case exactly
when it is this word in some ASCII letter case. -/
theorem toLower_eq_iff {verb : String} (hVerb : ∀ c ∈ verb.toList, IsAsciiOnly c) (word : String) :
    toLower word = verb ↔ word.toList.map Char.toLower = verb.toList := by
  rw [← lowerFrom_eq_iff hVerb [], ← String.toList_inj, toLower, String.toList_ofList]

/-- A word with a `k` has a spelling outside ASCII. -/
example : toLower "\u212Adir" = "kdir" ∧ "\u212Adir".toList.map Char.toLower ≠ "kdir".toList := by
  decide +kernel

end TreeShell.Text
