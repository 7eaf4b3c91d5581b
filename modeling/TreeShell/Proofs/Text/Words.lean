import Mathlib.Data.List.Basic
import Mathlib.Data.List.TakeWhile
import Mathlib.Tactic.Common
import TreeShell.Text.Blank

/-!
# Words with blanks between them

`Spaced ws cs` says that the words `ws` stand in the text `cs` one after the other, each run of
blanks between them as long as one likes.  This is what a line is cut by: the words that stand
in it are the words that it is cut into.

Trimming a text that begins or ends in blanks is trimming what these blanks surround.

Main statements: `words_eq_iff`, `trim_gap_append`, `trim_append_gap`, `trim_intercalate`.
-/

namespace TreeShell.Text

/-- Whether a text has no character but blanks. -/
def IsGap (cs : List Char) : Prop :=
  ∀ c ∈ cs, isBlank c = true

theorem isGap_cons {c : Char} {cs : List Char} :
    IsGap (c :: cs) ↔ isBlank c = true ∧ IsGap cs :=
  List.forall_mem_cons

/-! ## Words -/

/-- Whether a text can stand between blanks as one word. -/
structure IsWord (w : String) : Prop where
  nonempty : w ≠ ""
  blankFree : ∀ c ∈ w.toList, isBlank c = false

/-- Whether words stand in a text, in order and with blanks between them; blanks may also stand
in front and at the end. -/
inductive Spaced : List String → List Char → Prop where
  | gap {cs : List Char} (hGap : IsGap cs) : Spaced [] cs
  | word {gap rest : List Char} {w : String} {ws : List String} (hGap : IsGap gap)
      (hWord : IsWord w) (hEnd : ∀ c ∈ rest.head?, isBlank c = true) (hRest : Spaced ws rest) :
      Spaced (w :: ws) (gap ++ (w.toList ++ rest))

/-! ## Cutting a line -/

theorem wordsOf_gap_append {gap : List Char} (hGap : IsGap gap) (cs : List Char) :
    wordsOf (gap ++ cs) = wordsOf cs := by
  induction gap with
  | nil => rfl
  | cons c gap ih =>
    obtain ⟨hBlank, hRest⟩ := isGap_cons.1 hGap
    -- The piece in front of a blank at the beginning is empty.
    rw [← ih hRest, List.cons_append, wordsOf, List.splitOnP_cons_eq_if_modifyHead, if_pos hBlank]
    rfl

theorem wordsOf_append {w rest : List Char} (hNonempty : w ≠ [])
    (hWord : ∀ c ∈ w, isBlank c = false) (hEnd : ∀ c ∈ rest.head?, isBlank c = true) :
    wordsOf (w ++ rest) = w :: wordsOf rest := by
  have hKept : w.isEmpty = false := by simpa using hNonempty
  cases rest with
  | nil =>
    rw [List.append_nil, wordsOf, List.splitOnP_eq_singleton hWord]
    simp [wordsOf, hKept]
  | cons c rest =>
    have hBlank : isBlank c = true := hEnd c (by simp)
    have hNext : wordsOf (c :: rest) = wordsOf rest :=
      wordsOf_gap_append (List.forall_mem_singleton.2 hBlank) rest
    rw [hNext, wordsOf, List.splitOnP_append_cons_of_forall_mem hWord c hBlank]
    simp [wordsOf, hKept]

theorem map_wordsOf_of_spaced {ws : List String} {cs : List Char} (h : Spaced ws cs) :
    (wordsOf cs).map String.ofList = ws := by
  -- One word after the other; the blanks in front of each are dropped.
  induction h with
  | gap hGap =>
    have hNone := wordsOf_gap_append hGap []
    rw [List.append_nil] at hNone
    rw [hNone]
    rfl
  | @word gap rest w ws hGap hWord hEnd _ ih =>
    have hNonempty : w.toList ≠ [] := by simpa using hWord.nonempty
    rw [wordsOf_gap_append hGap, wordsOf_append hNonempty hWord.blankFree hEnd, List.map_cons, ih,
      String.ofList_toList]

/-- A text that is not blank has a first word, behind the blanks in front. -/
theorem exists_word_append {cs : List Char} (hSome : cs.dropWhile isBlank ≠ []) :
    ∃ w rest, cs.dropWhile isBlank = w ++ rest ∧ w ≠ [] ∧ (∀ c ∈ w, isBlank c = false) ∧
      ∀ c ∈ rest.head?, isBlank c = true := by
  obtain ⟨c, tail, hDrop⟩ := List.exists_cons_of_ne_nil hSome
  have hFirst : isBlank c = false := by simpa [hDrop] using List.head?_dropWhile_not isBlank cs
  refine ⟨(c :: tail).takeWhile fun d => !isBlank d, (c :: tail).dropWhile fun d => !isBlank d,
    ?_, ?_, ?_, ?_⟩
  · rw [hDrop, List.takeWhile_append_dropWhile]
  · simp [hFirst]
  · intro d hd
    simpa using List.mem_takeWhile_imp hd
  · intro d hd
    have hStops := List.head?_dropWhile_not (fun d => !isBlank d) (c :: tail)
    rw [Option.mem_def.1 hd] at hStops
    simpa using hStops

/-- A text is the words that it is cut into, with the blanks between them. -/
theorem spaced_wordsOf (cs : List Char) : Spaced ((wordsOf cs).map String.ofList) cs := by
  -- The blanks in front, then the first word, then what is left.
  have hGap : IsGap (cs.takeWhile isBlank) := fun _ hc => List.mem_takeWhile_imp hc
  have hSplit : cs.takeWhile isBlank ++ cs.dropWhile isBlank = cs :=
    List.takeWhile_append_dropWhile
  by_cases hNone : cs.dropWhile isBlank = []
  · have hAll : IsGap cs := List.dropWhile_eq_nil_iff.1 hNone
    have hWords := wordsOf_gap_append hAll []
    rw [List.append_nil] at hWords
    rw [hWords]
    exact .gap hAll
  · obtain ⟨w, rest, hDrop, hNonempty, hWord, hEnd⟩ := exists_word_append hNone
    have hShorter : rest.length < cs.length := by
      have hLength := congrArg List.length hSplit
      have hPos := List.length_pos_iff.2 hNonempty
      simp only [hDrop, List.length_append] at hLength
      omega
    have hRest := spaced_wordsOf rest
    rw [← hSplit, hDrop, wordsOf_gap_append hGap, wordsOf_append hNonempty hWord hEnd,
      List.map_cons]
    have hIsWord : IsWord (String.ofList w) := ⟨by simpa using hNonempty, by simpa using hWord⟩
    simpa using Spaced.word hGap hIsWord hEnd hRest
termination_by cs.length

/-- **Words of a line**: a line is cut into the words that stand in it, whatever blanks there
are between them. -/
theorem words_eq_iff {ws : List String} {line : String} :
    words line = ws ↔ Spaced ws line.toList :=
  ⟨fun h => h ▸ spaced_wordsOf line.toList, map_wordsOf_of_spaced⟩

theorem Spaced.isWord {ws : List String} {cs : List Char} (h : Spaced ws cs) :
    ∀ w ∈ ws, IsWord w := by
  induction h with
  | gap => exact List.forall_mem_nil _
  | word _ hWord _ _ ih => exact List.forall_mem_cons.2 ⟨hWord, ih⟩

theorem isWord_of_mem_words {line w : String} (h : w ∈ words line) : IsWord w :=
  (words_eq_iff.1 rfl).isWord w h

/-! ## Joining words -/

theorem mem_of_mem_intercalate {ws : List String} {c : Char}
    (h : c ∈ (" ".intercalate ws).toList) : c = ' ' ∨ ∃ w ∈ ws, c ∈ w.toList := by
  rw [String.toList_intercalate] at h
  induction ws with
  | nil => simp at h
  | cons w ws ih =>
    cases ws with
    | nil => exact .inr ⟨w, by simp, by simpa using h⟩
    | cons v ws =>
      rw [List.map_cons, List.map_cons, List.intercalate_cons_cons, List.append_assoc] at h
      rcases List.mem_append.1 h with hHere | hLater
      · exact .inr ⟨w, by simp, hHere⟩
      · rcases List.mem_append.1 hLater with hSpace | hRest
        · exact .inl (by simpa using hSpace)
        · rcases ih hRest with hSpace | ⟨u, hMem, hChar⟩
          · exact .inl hSpace
          · exact .inr ⟨u, List.mem_cons_of_mem w hMem, hChar⟩

theorem intercalate_append {sep : List Char} {ls ks : List (List Char)} (hls : ls ≠ [])
    (hks : ks ≠ []) :
    sep.intercalate (ls ++ ks) = sep.intercalate ls ++ (sep ++ sep.intercalate ks) := by
  induction ls with
  | nil => contradiction
  | cons l ls ih =>
    have hRest : ls ++ ks ≠ [] := by simp [hks]
    rw [List.cons_append, List.intercalate_cons_of_ne_nil hRest]
    by_cases hLast : ls = []
    · rw [hLast, List.nil_append, List.intercalate_singleton, List.append_assoc]
    · rw [ih hLast, List.intercalate_cons_of_ne_nil hLast]
      simp only [List.append_assoc]

theorem toList_intercalate_append {ws vs : List String} (hws : ws ≠ []) (hvs : vs ≠ []) :
    (" ".intercalate (ws ++ vs)).toList
      = (" ".intercalate ws).toList ++ ' ' :: (" ".intercalate vs).toList := by
  simp only [String.toList_intercalate, List.map_append]
  rw [intercalate_append (by simpa using hws) (by simpa using hvs)]
  rfl

/-! ## Trimming -/

theorem trimStart_gap_append {gap : List Char} (hGap : IsGap gap) (cs : List Char) :
    trimStart (gap ++ cs) = trimStart cs :=
  List.dropWhile_append_of_pos hGap

theorem trimEnd_append_gap {gap : List Char} (hGap : IsGap gap) (cs : List Char) :
    trimEnd (cs ++ gap) = trimEnd cs := by
  have hReverse : ∀ c ∈ gap.reverse, isBlank c = true := fun c hc => hGap c (by simpa using hc)
  rw [trimEnd, List.reverse_append, List.dropWhile_append_of_pos hReverse, trimEnd]

theorem trim_gap_append {gap : List Char} (hGap : IsGap gap) (cs : List Char) :
    trim (gap ++ cs) = trim cs := by
  rw [trim, trimStart_gap_append hGap, trim]

theorem trim_of_isGap {gap : List Char} (hGap : IsGap gap) : trim gap = [] := by
  have hNone := trim_gap_append hGap []
  rwa [List.append_nil] at hNone

theorem trim_append_gap {gap : List Char} (hGap : IsGap gap) (cs : List Char) :
    trim (cs ++ gap) = trim cs := by
  -- Either the whole text is blank, or what trimming the front leaves of it goes on to the end.
  rw [trim, trimStart, List.dropWhile_append]
  split
  · rename_i hAll
    have hStart : trimStart cs = [] := List.isEmpty_iff.1 hAll
    have hGapStart : gap.dropWhile isBlank = [] := List.dropWhile_eq_nil_iff.2 hGap
    rw [hGapStart, trim, hStart]
  · exact trimEnd_append_gap hGap _

/-- A text that neither begins nor ends in a blank is trimmed already. -/
theorem trim_of_forall_not_blank {cs : List Char} (hHead : ∀ c ∈ cs.head?, isBlank c = false)
    (hLast : ∀ c ∈ cs.getLast?, isBlank c = false) : trim cs = cs := by
  have hKeep : ∀ ds : List Char, (∀ c ∈ ds.head?, isBlank c = false) →
      ds.dropWhile isBlank = ds := by
    intro ds hds
    cases ds with
    | nil => rfl
    | cons c ds => simp [hds c (by simp)]
  have hReverse : ∀ c ∈ cs.reverse.head?, isBlank c = false := by
    rwa [List.head?_reverse]
  rw [trim, trimStart, hKeep cs hHead, trimEnd, hKeep _ hReverse, List.reverse_reverse]

/-- Words joined by single spaces begin and end with a word, so that nothing is trimmed. -/
theorem trim_intercalate {ws : List String} (hWords : ∀ w ∈ ws, IsWord w) :
    trim (" ".intercalate ws).toList = (" ".intercalate ws).toList := by
  have hNonempty : ∀ w ∈ ws, w.toList ≠ [] := fun w hw => by simpa using (hWords w hw).nonempty
  apply trim_of_forall_not_blank
  · intro c hHead
    match ws with
    | [] => simp at hHead
    | w :: vs =>
      obtain ⟨rest, hFront⟩ : ∃ rest, (" ".intercalate (w :: vs)).toList = w.toList ++ rest := by
        by_cases hOnly : vs = []
        · exact ⟨[], by simp [hOnly]⟩
        · have hSplit := toList_intercalate_append (List.cons_ne_nil w []) hOnly
          rw [String.intercalate_singleton] at hSplit
          exact ⟨_, hSplit⟩
      rw [hFront, List.head?_append_of_ne_nil _ (hNonempty w (by simp))] at hHead
      exact (hWords w (by simp)).blankFree c (List.mem_of_mem_head? hHead)
  · intro c hLast
    rcases List.eq_nil_or_concat' ws with rfl | ⟨vs, w, rfl⟩
    · simp at hLast
    · obtain ⟨front, hBack⟩ :
          ∃ front, (" ".intercalate (vs ++ [w])).toList = front ++ w.toList := by
        by_cases hOnly : vs = []
        · exact ⟨[], by simp [hOnly]⟩
        · have hSplit := toList_intercalate_append hOnly (List.cons_ne_nil w [])
          rw [String.intercalate_singleton] at hSplit
          exact ⟨_, hSplit.trans (List.append_cons _ _ _)⟩
      rw [hBack, List.getLast?_append_of_ne_nil _ (hNonempty w (by simp))] at hLast
      exact (hWords w (by simp)).blankFree c (List.mem_of_getLast? hLast)

end TreeShell.Text
