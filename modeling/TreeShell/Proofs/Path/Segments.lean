import Mathlib.Tactic.Common
import TreeShell.Path

/-!
# Segments

A segment is a non-empty text without a slash.  Every path is cut into such segments, and
the path joined from segments is cut into the same ones again.

Main statements: `isSegment_of_mem_segments`, `segments_join`.
-/

namespace TreeShell.Path

/-- What can stand between slashes. -/
def IsSegment (name : String) : Prop :=
  name ≠ "" ∧ '/' ∉ name.toList

instance (name : String) : Decidable (IsSegment name) :=
  inferInstanceAs (Decidable (_ ∧ _))

/-! ## Cutting a path -/

private theorem slash_notMem_of_mem_splitOn (cs : List Char) :
    ∀ p ∈ cs.splitOn '/', '/' ∉ p := by
  induction cs with
  | nil => simp
  | cons c cs ih =>
    rw [List.splitOn_cons_eq_if_modifyHead]
    split
    · simpa using ih
    · rename_i hSlash
      have hNe : ¬ c = '/' := by simpa using hSlash
      cases hSplit : cs.splitOn '/' with
      | nil => simp
      | cons p ps =>
        rw [hSplit] at ih
        simp only [List.modifyHead_cons, List.mem_cons, forall_eq_or_imp] at ih ⊢
        exact ⟨by simpa [Ne.symm hNe] using ih.1, ih.2⟩

theorem isSegment_of_mem_segments {path name : String} (h : name ∈ segments path) :
    IsSegment name := by
  simp only [segments, pieces, List.mem_map, List.mem_filter] at h
  obtain ⟨p, ⟨hSplit, hNonempty⟩, rfl⟩ := h
  refine ⟨?_, ?_⟩
  · intro hEmpty
    have hNil : p = [] := by simpa using congrArg String.toList hEmpty
    simp [hNil] at hNonempty
  · simpa using slash_notMem_of_mem_splitOn _ p hSplit

theorem isSegment_of_mem_absoluteSegments {cwd path name : String}
    (h : name ∈ absoluteSegments cwd path) : IsSegment name := by
  unfold absoluteSegments at h
  split at h <;> exact isSegment_of_mem_segments h

/-- An absolute path addresses the same node from every working directory. -/
theorem absoluteSegments_of_isAbsolute {path : String} (h : isAbsolute path = true)
    (cwd : String) : absoluteSegments cwd path = segments path := by
  rw [absoluteSegments, if_pos h]

/-! ## Joining segments -/

theorem isAbsolute_join (segs : List String) : isAbsolute (join segs) = true := by
  simp [isAbsolute, join]

theorem pieces_slash_cons (cs : List Char) : pieces ('/' :: cs) = pieces cs := by
  simp [pieces, List.splitOn_cons_eq_if_modifyHead]

/-- **Joining and cutting**: segments are those of the path joined from them. -/
theorem segments_join {segs : List String} (h : ∀ name ∈ segs, IsSegment name) :
    segments (join segs) = segs := by
  have hJoin : (join segs).toList = '/' :: ['/'].intercalate (segs.map String.toList) := by
    simp [join]
  have hPieces : pieces (['/'].intercalate (segs.map String.toList)) = segs.map String.toList := by
    cases segs with
    | nil => rfl
    | cons name rest =>
      have hSlash : ∀ p ∈ (name :: rest).map String.toList, '/' ∉ p := by
        intro p hp
        obtain ⟨n, hn, rfl⟩ := List.mem_map.1 hp
        exact (h n hn).2
      rw [pieces, List.splitOn_intercalate '/' hSlash (by simp), List.filter_eq_self]
      intro p hp
      obtain ⟨n, hn, rfl⟩ := List.mem_map.1 hp
      simpa using (h n hn).1
  rw [segments, hJoin, pieces_slash_cons, hPieces, List.map_map]
  simp [Function.comp_def]

theorem absoluteSegments_join {segs : List String} (h : ∀ name ∈ segs, IsSegment name)
    (cwd : String) : absoluteSegments cwd (join segs) = segs := by
  rw [absoluteSegments_of_isAbsolute (isAbsolute_join segs), segments_join h]

end TreeShell.Path
