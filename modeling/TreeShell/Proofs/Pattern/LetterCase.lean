import Mathlib.Tactic.Common
import TreeShell.Pattern.Match
import TreeShell.Proofs.Text.LowerCase

/-!
# Patterns that do not see letter case

A pattern whose leaves take each ASCII letter in both its cases matches at the same places of a line
when letters of the line change their case.  The leaves are looked at one by one; what stands above
them only puts together the places where its parts match.

## Layers

- `CharSet.inRanges_ofRanges`, `CharSet.IgnoresCase`: sets of characters;
- `Place.lower`, `holds_lower`: the places of a line;
- `Caseless`: patterns, leaf by leaf;
- `Caseless.advance_lower`, `Caseless.isFoundIn_lower`: matching.
-/

namespace TreeShell.Pattern

open TreeShell.Text

/-! ## Sets of characters -/

namespace CharSet

theorem inRanges_cons (r : Nat × Nat) (ranges : List (Nat × Nat)) (n : Nat) :
    inRanges (r :: ranges) n = (decide (r.1 ≤ n) && decide (n ≤ r.2) || inRanges ranges n) := rfl

/-- Ranges in ascending order hold the same code points when they are joined. -/
theorem inRanges_joinFrom {lo hi : Nat} {rest : List (Nat × Nat)}
    (hSorted : ((lo, hi) :: rest).Pairwise fun r s => r.1 ≤ s.1) (n : Nat) :
    inRanges (joinFrom lo hi rest) n = inRanges ((lo, hi) :: rest) n := by
  induction rest generalizing lo hi with
  | nil => rfl
  | cons r rest ih =>
    obtain ⟨a, b⟩ := r
    obtain ⟨hFirst, hRest⟩ := List.pairwise_cons.1 hSorted
    have hOrder : lo ≤ a := hFirst (a, b) List.mem_cons_self
    rw [joinFrom]
    split
    · -- The two ranges touch, so that together they are one.
      rename_i hTouch
      have hJoined : ((lo, max hi b) :: rest).Pairwise fun r s => r.1 ≤ s.1 :=
        List.pairwise_cons.2 ⟨fun s hMem => hFirst s (List.mem_cons_of_mem _ hMem),
          (List.pairwise_cons.1 hRest).2⟩
      rw [ih hJoined, Bool.eq_iff_iff]
      simp only [inRanges_cons, Bool.or_eq_true, Bool.and_eq_true, decide_eq_true_eq, ← or_assoc]
      exact or_congr_left (by omega)
    · rw [inRanges_cons, ih hRest, inRanges_cons (lo, hi)]

/-- Making a set of ranges keeps their code points. -/
theorem inRanges_ofRanges (ranges : List (Nat × Nat)) (n : Nat) :
    inRanges (ofRanges ranges).ranges n = inRanges ranges n := by
  have hPerm := List.mergeSort_perm ranges fun r s => decide (r.1 ≤ s.1)
  have hSorted : (ranges.mergeSort fun r s => decide (r.1 ≤ s.1)).Pairwise
      fun r s => decide (r.1 ≤ s.1) = true :=
    List.pairwise_mergeSort (by simp; omega) (by simp; omega) ranges
  have hSame : inRanges (ranges.mergeSort fun r s => decide (r.1 ≤ s.1)) n = inRanges ranges n :=
    hPerm.any_eq
  rw [← hSame, ofRanges]
  split
  · rename_i hNil
    rw [hNil]
  · rename_i a b rest hCons
    simp only [hCons, decide_eq_true_eq] at hSorted
    rw [hCons]
    exact inRanges_joinFrom hSorted n

/-- Whether a set has each ASCII letter in both cases or in none. -/
def IgnoresCase (s : CharSet) : Prop :=
  ∀ c : Char, s.contains c.toLower = s.contains c

theorem ignoresCase_of_letters {s : CharSet}
    (h : ∀ k < 26, inRanges s.ranges (0x61 + k) = inRanges s.ranges (0x41 + k)) :
    s.IgnoresCase := by
  intro c
  rw [contains, contains, toNat_toLower]
  split
  · rename_i hCapital
    obtain ⟨k, hLetter⟩ : ∃ k, c.toNat = 0x41 + k := ⟨c.toNat - 0x41, by omega⟩
    have hSmall : 0x41 + k + 0x20 = 0x61 + k := by omega
    rw [hLetter, hSmall]
    exact h k (by omega)
  · rfl

end CharSet

/-! ## Letters -/

theorem isLetter_eq_true_iff {c : Char} :
    isLetter c = true ↔
      (0x61 ≤ c.toNat ∧ c.toNat ≤ 0x7A) ∨ (0x41 ≤ c.toNat ∧ c.toNat ≤ 0x5A) := by
  simp only [isLetter, decide_eq_true_eq, Char.le_def, UInt32.le_iff_toNat_le]
  rfl

theorem inRanges_foldCase_single {c : Char} {other : Nat}
    (h : CharSet.otherCase (c.toNat, c.toNat) = [(other, other)]) (n : Nat) :
    inRanges (CharSet.single c).foldCase.ranges n = true ↔ n = c.toNat ∨ n = other := by
  have hPoint (m : Nat) : (decide (m ≤ n) && decide (n ≤ m)) = true ↔ n = m := by
    rw [Bool.and_eq_true, decide_eq_true_eq, decide_eq_true_eq]
    omega
  have hRanges : (CharSet.single c).ranges ++ (CharSet.single c).ranges.flatMap CharSet.otherCase
      = [(c.toNat, c.toNat), (other, other)] := by
    simp [CharSet.single, h]
  have hNone : inRanges [] n = false := rfl
  rw [CharSet.foldCase, CharSet.inRanges_ofRanges, hRanges, CharSet.inRanges_cons,
    CharSet.inRanges_cons, hNone, Bool.or_false, Bool.or_eq_true, hPoint, hPoint]

/-- The set for a letter in caseless mode has both its cases. -/
theorem ignoresCase_foldCase_single {c : Char} (h : isLetter c = true) :
    (CharSet.single c).foldCase.IgnoresCase := by
  apply CharSet.ignoresCase_of_letters
  intro k hk
  rw [Bool.eq_iff_iff]
  rcases isLetter_eq_true_iff.1 h with hSmall | hCapital
  · have hOther : CharSet.otherCase (c.toNat, c.toNat)
        = [(c.toNat - 0x61 + 0x41, c.toNat - 0x61 + 0x41)] := by
      simp [CharSet.otherCase, CharSet.shifted, hSmall]
    rw [inRanges_foldCase_single hOther, inRanges_foldCase_single hOther]
    omega
  · have hNoSmall : ¬ max c.toNat 0x61 ≤ min c.toNat 0x7A := by omega
    have hOther : CharSet.otherCase (c.toNat, c.toNat)
        = [(c.toNat - 0x41 + 0x61, c.toNat - 0x41 + 0x61)] := by
      simp [CharSet.otherCase, CharSet.shifted, hCapital, hNoSmall]
    rw [inRanges_foldCase_single hOther, inRanges_foldCase_single hOther]
    omega

/-- Only the character itself becomes one that is no letter. -/
theorem toLower_eq_iff_of_not_letter {c d : Char} (h : isLetter c = false) :
    d.toLower = c ↔ d = c := by
  have hLetter := Bool.eq_false_iff.1 h
  rw [Ne, isLetter_eq_true_iff] at hLetter
  rw [← Char.toNat_inj, ← Char.toNat_inj, toNat_toLower]
  split <;> omega

theorem map_toLower_eq_some_iff {c : Char} (h : isLetter c = false) {o : Option Char} :
    o.map Char.toLower = some c ↔ o = some c := by
  cases o with
  | none => simp
  | some d => simp [toLower_eq_iff_of_not_letter h]

/-! ## Places -/

/-- A place with small letters for the capitals around it. -/
def Place.lower (p : Place) : Place :=
  ⟨p.before.map Char.toLower, p.after.map Char.toLower⟩

theorem placesFrom_lower (before : Option Char) (line : List Char) :
    placesFrom (before.map Char.toLower) (line.map Char.toLower)
      = (placesFrom before line).map Place.lower := by
  induction line generalizing before with
  | nil => rfl
  | cons c cs ih => exact congrArg _ (ih (some c))

theorem places_lower (line : List Char) :
    places (line.map Char.toLower) = (places line).map Place.lower :=
  placesFrom_lower none line

theorem any_contains_lower {s : CharSet} (h : s.IgnoresCase) (o : Option Char) :
    (o.map Char.toLower).any s.contains = o.any s.contains := by
  cases o with
  | none => rfl
  | some c => exact h c

theorem inWord_lower (o : Option Char) : inWord (o.map Char.toLower) = inWord o := by
  have hWord : CharSet.word.IgnoresCase := CharSet.ignoresCase_of_letters (by decide)
  exact any_contains_lower hWord o

/-- No condition on a place sees letter case. -/
theorem holds_lower (l : Look) (p : Place) : l.holds p.lower = l.holds p := by
  have hNewline {o : Option Char} : o.map Char.toLower = some '\n' ↔ o = some '\n' :=
    map_toLower_eq_some_iff (by decide)
  have hReturn {o : Option Char} : o.map Char.toLower = some '\r' ↔ o = some '\r' :=
    map_toLower_eq_some_iff (by decide)
  cases l <;>
    simp only [Look.holds, Place.lower, Option.isNone_map, inWord_lower, hNewline, hReturn, ne_eq]

/-! ## Patterns -/

/-- Whether every leaf of a pattern takes each ASCII letter in both cases. -/
inductive Caseless : Pattern → Prop where
  | empty : Caseless .empty
  | char {c : Char} (hChar : isLetter c = false) : Caseless (.char c)
  | chars {s : CharSet} (hSet : s.IgnoresCase) : Caseless (.chars s)
  | look (l : Look) : Caseless (.look l)
  | group (c : Capture) {body : Pattern} (hBody : Caseless body) : Caseless (.group c body)
  | repeated (least : Nat) (most : Option Nat) {body : Pattern} (hBody : Caseless body) :
      Caseless (.repeated least most body)
  | sequence {parts : List Pattern} (hParts : ∀ p ∈ parts, Caseless p) :
      Caseless (.sequence parts)
  | choice {branches : List Pattern} (hBranches : ∀ p ∈ branches, Caseless p) :
      Caseless (.choice branches)

theorem keep_lower {test : Place → Bool} (h : ∀ p : Place, test p.lower = test p)
    (line : List Place) (s : Marks) :
    s.keep (line.map Place.lower) test = s.keep line test := by
  simp only [Marks.keep, List.zipWith_map_right, h]

theorem advanceThrough_congr {line line' : List Place} {parts : List Pattern}
    (h : ∀ p ∈ parts, ∀ s, advance line' p s = advance line p s) (s : Marks) :
    advanceThrough line' parts s = advanceThrough line parts s := by
  induction parts generalizing s with
  | nil => rfl
  | cons p parts ih =>
    obtain ⟨hFirst, hRest⟩ := List.forall_mem_cons.1 h
    rw [advanceThrough, advanceThrough, hFirst, ih hRest]

theorem advanceAny_congr {line line' : List Place} {branches : List Pattern}
    (h : ∀ p ∈ branches, ∀ s, advance line' p s = advance line p s) (s : Marks) :
    advanceAny line' branches s = advanceAny line branches s := by
  induction branches with
  | nil => rfl
  | cons p branches ih =>
    obtain ⟨hFirst, hRest⟩ := List.forall_mem_cons.1 h
    rw [advanceAny, advanceAny, hFirst, ih hRest]

/-- **Matching**: a caseless pattern leads from the same places to the same places in a line with
small letters for its capitals. -/
theorem Caseless.advance_lower {p : Pattern} (h : Caseless p) (line : List Place) (s : Marks) :
    advance (line.map Place.lower) p s = advance line p s := by
  -- On the pattern: a leaf tests the character behind each place, and the rest goes by its parts.
  induction h generalizing s with
  | empty => rfl
  | @char c hChar =>
    have hTest (p : Place) : decide (p.lower.after = some c) = decide (p.after = some c) :=
      decide_eq_decide.2 (map_toLower_eq_some_iff hChar)
    rw [advance, advance, keep_lower hTest]
  | @chars set hSet =>
    have hTest (p : Place) : p.lower.after.any set.contains = p.after.any set.contains :=
      any_contains_lower hSet p.after
    rw [advance, advance, keep_lower hTest]
  | look l => rw [advance, advance, keep_lower (holds_lower l)]
  | group c hBody ih => rw [advance, advance, ih]
  | @repeated least most body hBody ih =>
    have hBodyStep : advance (line.map Place.lower) body = advance line body := funext ih
    simp only [advance, hBodyStep, List.length_map]
  | sequence hParts ih => rw [advance, advance, advanceThrough_congr ih]
  | choice hBranches ih => rw [advance, advance, advanceAny_congr ih]

/-- **Lines**: a caseless pattern is found in the lines that it is found in when they have small
letters for their capitals. -/
theorem Caseless.isFoundIn_lower {p : Pattern} (h : Caseless p) (line : List Char) :
    p.isFoundIn (String.ofList (line.map Char.toLower)) = p.isFoundIn (String.ofList line) := by
  simp only [isFoundIn, String.toList_ofList, places_lower, List.map_map, h.advance_lower]
  rfl

end TreeShell.Pattern
