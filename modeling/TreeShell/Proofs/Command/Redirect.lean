import Mathlib.Data.List.TakeWhile
import Mathlib.Tactic.Common
import TreeShell.Command.Redirect
import TreeShell.Proofs.Text.Words

/-!
# The sign of a redirection

A text without a newline has at most one place to be cut at: the first `>` that is not its first
character.  It is a redirection exactly when something stands behind this sign.  Content and file
are then what stands before the sign and behind it, both trimmed; the search for the name takes
the blanks of ASCII away beforehand, all of which trimming takes away too.

## Layers

- `nameAfterSign?_append`: what is found behind some blanks and the sign;
- `exists_splitFrom_eq`, `exists_of_splitFrom`: what the search finds, and where;
- `parse?_of_cutAtSign`, `parse?_eq_some_iff`: the same for a whole text.
-/

namespace TreeShell.Command.Redirect

open TreeShell.Text

/-- Whether a text is cut at its first `>` that is not the first character. -/
structure CutAtSign (cs before after : List Char) : Prop where
  eq_append : cs = before ++ '>' :: after
  nonempty : before ≠ []
  first : '>' ∉ before.tail

/-! ## Blanks of ASCII -/

theorem isBlank_of_isSpace {c : Char} (h : isSpace c = true) : isBlank c = true := by
  simp only [isSpace, Bool.or_eq_true, decide_eq_true_eq, Bool.and_eq_true, Char.le_def,
    UInt32.le_iff_toNat_le] at h
  rcases h with rfl | ⟨hLow, hHigh⟩
  · decide
  · have hFrom : 9 ≤ c.toNat := hLow
    have hTo : c.toNat ≤ 13 := hHigh
    simp [isBlank, inRanges, blankRanges, hFrom, hTo]

/-- Whether all characters of a text are blanks of ASCII. -/
def IsSpaces (cs : List Char) : Prop :=
  ∀ c ∈ cs, isSpace c = true

theorem IsSpaces.isGap {cs : List Char} (h : IsSpaces cs) : IsGap cs :=
  fun c hc => isBlank_of_isSpace (h c hc)

theorem isSpaces_takeWhile (cs : List Char) : IsSpaces (cs.takeWhile isSpace) :=
  fun _ hc => List.mem_takeWhile_imp hc

theorem dropWhile_isSpace_eq_nil_iff {cs : List Char} :
    cs.dropWhile isSpace = [] ↔ IsSpaces cs :=
  List.dropWhile_eq_nil_iff

theorem trim_dropWhile_isSpace (cs : List Char) : trim (cs.dropWhile isSpace) = trim cs := by
  conv_rhs => rw [← List.takeWhile_append_dropWhile (p := isSpace) (l := cs)]
  rw [trim_gap_append (isSpaces_takeWhile cs).isGap]

/-! ## The name -/

/-- Behind the sign there is a name as soon as there is anything. -/
theorem exists_name?_eq {after : List Char} (hNonempty : after ≠ []) (hLine : '\n' ∉ after) :
    ∃ name, name? after = some name ∧ trim name = trim after := by
  cases hDrop : after.dropWhile isSpace with
  | nil =>
    -- Of blanks alone, the last is taken for the name.
    have hLast : after.getLast hNonempty ∈ after := List.getLast_mem hNonempty
    have hNewline : after.getLast hNonempty ≠ '\n' := fun hEq => hLine (hEq ▸ hLast)
    refine ⟨[after.getLast hNonempty], ?_, ?_⟩
    · simp [name?, hDrop, List.getLast?_eq_some_getLast hNonempty, hNewline]
    · have hSpaces : IsSpaces after := dropWhile_isSpace_eq_nil_iff.1 hDrop
      have hOne : IsSpaces [after.getLast hNonempty] := by simpa [IsSpaces] using hSpaces _ hLast
      rw [trim_of_isGap hOne.isGap, trim_of_isGap hSpaces.isGap]
  | cons c cs =>
    have hNewline : '\n' ∉ c :: cs := fun hMem =>
      hLine ((List.dropWhile_sublist isSpace).mem (hDrop ▸ hMem))
    refine ⟨c :: cs, ?_, by rw [← hDrop, trim_dropWhile_isSpace]⟩
    simp only [name?, hDrop, if_neg hNewline]

theorem ne_nil_of_name? {after name : List Char} (h : name? after = some name) : after ≠ [] := by
  rintro rfl
  simp [name?] at h

/-- In front of the sign only blanks are passed over. -/
theorem nameAfterSign?_append {x : List Char} (hSign : '>' ∉ x) (after : List Char) :
    nameAfterSign? (x ++ '>' :: after)
      = if x.dropWhile isSpace = [] then name? after else none := by
  have hStay : ('>' :: after).dropWhile isSpace = '>' :: after := by simp [isSpace]
  rw [nameAfterSign?, List.dropWhile_append, hStay]
  cases hDrop : x.dropWhile isSpace with
  | nil => simp
  | cons c cs =>
    -- The first character that is no blank is another one than the sign.
    have hMem : c ∈ x := (List.dropWhile_sublist isSpace).mem (hDrop ▸ List.mem_cons_self)
    have hNe : c ≠ '>' := fun hEq => hSign (hEq ▸ hMem)
    simp [hNe]

theorem exists_of_nameAfterSign? {cs name : List Char} (h : nameAfterSign? cs = some name) :
    ∃ gap after, cs = gap ++ '>' :: after ∧ after ≠ [] := by
  unfold nameAfterSign? at h
  split at h
  · rename_i after hDrop
    refine ⟨cs.takeWhile isSpace, after, ?_, ne_nil_of_name? h⟩
    rw [← hDrop, List.takeWhile_append_dropWhile]
  · contradiction

/-! ## The search -/

/-- The search ends in front of blanks and the sign. -/
theorem exists_splitFrom_eq_of_isSpaces {x after : List Char} (before : List Char) {c : Char}
    (hLine : '\n' ∉ c :: (x ++ '>' :: after)) (hSpaces : IsSpaces x) (hAfter : after ≠ []) :
    ∃ name, splitFrom before (c :: (x ++ '>' :: after)) = some (before.reverse ++ [c], name) ∧
      trim name = trim after := by
  have hSign : '>' ∉ x := fun hMem => by simpa [isSpace] using hSpaces _ hMem
  have hHead : c ≠ '\n' := fun hEq => hLine (by simp [hEq])
  obtain ⟨name, hName, hTrim⟩ :=
    exists_name?_eq hAfter fun hMem => hLine (by simp [hMem])
  refine ⟨name, ?_, hTrim⟩
  rw [splitFrom, if_neg hHead, nameAfterSign?_append hSign,
    if_pos (dropWhile_isSpace_eq_nil_iff.2 hSpaces), hName]
  simp

/-- Where a text is cut at the sign with something behind it, the search ends: the content lacks
at most some blanks in front of the sign. -/
theorem exists_splitFrom_eq {x after : List Char} (before : List Char) (c : Char)
    (hLine : '\n' ∉ c :: (x ++ '>' :: after)) (hSign : '>' ∉ x) (hAfter : after ≠ []) :
    ∃ content gap name, splitFrom before (c :: (x ++ '>' :: after))
        = some (before.reverse ++ content, name) ∧
      content ++ gap = c :: x ∧ IsGap gap ∧ trim name = trim after := by
  -- Character by character of the content; those passed so far are arbitrary.
  induction x generalizing before c with
  | nil =>
    obtain ⟨name, hSplit, hTrim⟩ :=
      exists_splitFrom_eq_of_isSpaces before hLine (List.forall_mem_nil _) hAfter
    exact ⟨[c], [], name, hSplit, rfl, List.forall_mem_nil _, hTrim⟩
  | cons d x ih =>
    by_cases hSpaces : IsSpaces (d :: x)
    · obtain ⟨name, hSplit, hTrim⟩ :=
        exists_splitFrom_eq_of_isSpaces before hLine hSpaces hAfter
      exact ⟨[c], d :: x, name, hSplit, rfl, hSpaces.isGap, hTrim⟩
    · -- No sign follows the blanks here, so that the search goes on.
      obtain ⟨content, gap, name, hSplit, hContent, hGap, hTrim⟩ :=
        ih (c :: before) d (fun hMem => hLine (List.mem_cons_of_mem c hMem))
          fun hMem => hSign (List.mem_cons_of_mem d hMem)
      have hHead : c ≠ '\n' := fun hEq => hLine (by simp [hEq])
      refine ⟨c :: content, gap, name, ?_, by rw [List.cons_append, hContent], hGap, hTrim⟩
      rw [splitFrom, if_neg hHead, nameAfterSign?_append hSign,
        if_neg fun hNil => hSpaces (dropWhile_isSpace_eq_nil_iff.1 hNil)]
      simpa using hSplit

/-- What the search finds stands at a sign that is not the first character. -/
theorem exists_of_splitFrom {before cs content name : List Char}
    (h : splitFrom before cs = some (content, name)) :
    ∃ x after, cs = x ++ '>' :: after ∧ x ≠ [] ∧ after ≠ [] := by
  induction cs generalizing before with
  | nil => contradiction
  | cons c cs ih =>
    rw [splitFrom] at h
    split at h
    · contradiction
    · split at h
      · rename_i hName
        obtain ⟨gap, after, rfl, hAfter⟩ := exists_of_nameAfterSign? hName
        exact ⟨c :: gap, after, rfl, List.cons_ne_nil c gap, hAfter⟩
      · obtain ⟨x, after, rfl, -, hAfter⟩ := ih h
        exact ⟨c :: x, after, rfl, List.cons_ne_nil c x, hAfter⟩

/-! ## Whole texts -/

/-- **Texts cut at the sign**: a text without a newline that has something behind its sign is a
redirection, of all that stands before it into all that stands behind. -/
theorem parse?_of_cutAtSign {text : String} {before after : List Char}
    (hLine : '\n' ∉ text.toList) (hCut : CutAtSign text.toList before after)
    (hAfter : after ≠ []) :
    parse? text = some ⟨String.ofList (trim before), String.ofList (trim after)⟩ := by
  obtain ⟨hText, hBefore, hFirst⟩ := hCut
  obtain ⟨c, x, rfl⟩ := List.exists_cons_of_ne_nil hBefore
  rw [hText] at hLine
  obtain ⟨content, gap, name, hSplit, hContent, hGap, hTrim⟩ :=
    exists_splitFrom_eq [] c hLine hFirst hAfter
  rw [parse?, hText, List.cons_append, hSplit, ← hContent, trim_append_gap hGap, ← hTrim]
  rfl

/-- Some sign behind the first character is the first such sign, or stands behind it. -/
theorem exists_cutAtSign {cs x after : List Char} (hText : cs = x ++ '>' :: after) (hx : x ≠ [])
    (hAfter : after ≠ []) : ∃ before rest, CutAtSign cs before rest ∧ rest ≠ [] := by
  obtain ⟨c, x, rfl⟩ := List.exists_cons_of_ne_nil hx
  by_cases hSign : '>' ∈ x
  · obtain ⟨y, z, rfl, hFirst⟩ := List.eq_append_cons_of_mem hSign
    exact ⟨c :: y, z ++ '>' :: after, ⟨by simp [hText], List.cons_ne_nil c y, hFirst⟩, by simp⟩
  · exact ⟨c :: x, after, ⟨hText, hx, hSign⟩, hAfter⟩

/-- A text that is a redirection has something behind its sign. -/
theorem exists_cutAtSign_of_parse? {text : String} {r : Redirect} (h : parse? text = some r) :
    ∃ before after, CutAtSign text.toList before after ∧ after ≠ [] := by
  obtain ⟨⟨content, name⟩, hSplit, -⟩ := Option.map_eq_some_iff.1 h
  obtain ⟨x, after, hText, hx, hAfter⟩ := exists_of_splitFrom hSplit
  exact exists_cutAtSign hText hx hAfter

/-- A text without a newline is a redirection exactly where something stands behind its sign. -/
theorem parse?_eq_some_iff {text : String} {r : Redirect} (hLine : '\n' ∉ text.toList) :
    parse? text = some r ↔
      ∃ before after, CutAtSign text.toList before after ∧ after ≠ [] ∧
        r = ⟨String.ofList (trim before), String.ofList (trim after)⟩ := by
  constructor
  · intro h
    obtain ⟨before, after, hCut, hAfter⟩ := exists_cutAtSign_of_parse? h
    rw [parse?_of_cutAtSign hLine hCut hAfter] at h
    exact ⟨before, after, hCut, hAfter, (Option.some.inj h).symm⟩
  · rintro ⟨before, after, hCut, hAfter, rfl⟩
    exact parse?_of_cutAtSign hLine hCut hAfter

end TreeShell.Command.Redirect
