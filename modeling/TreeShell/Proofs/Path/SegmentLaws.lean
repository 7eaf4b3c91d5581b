import Mathlib.Tactic.Common
import TreeShell.Proofs.Path.Resolve

/-!
# The laws of segments

Cutting a path, joining one, naming a file and addressing a node fit together.  A joined path is
cut into what it was joined from exactly when this could stand between slashes; the name of a
file, which is searched from the end of its path, is the last segment that cutting from the front
comes to; and an address goes through the working directory first, unless the path is absolute.

## Layers

- `piecesFromEnd_eq_reverse`: from both ends a path is cut into the same pieces;
- `fileName_eq_getLast`, `segments_join_iff`, `absoluteSegments_eq`: one law for each reading;
- `segment_laws`: the laws together.
-/

namespace TreeShell.Path

/-! ## Cutting from the end -/

theorem piecesFromEnd_append_slash (before after : List Char) :
    piecesFromEnd (before ++ '/' :: after) = piecesFromEnd after ++ piecesFromEnd before := by
  have hReverse : (before ++ '/' :: after).reverse = after.reverse ++ '/' :: before.reverse := by
    simp
  rw [piecesFromEnd, hReverse, List.splitOn_append_cons_self, List.map_append]
  rfl

theorem piecesFromEnd_of_notMem {cs : List Char} (h : '/' ∉ cs) : piecesFromEnd cs = [cs] := by
  have hReverse : '/' ∉ cs.reverse := by simpa using h
  simp [piecesFromEnd, List.splitOn_eq_singleton hReverse]

/-- From both ends a path is cut into the same pieces, in opposite order. -/
theorem piecesFromEnd_eq_reverse (cs : List Char) :
    piecesFromEnd cs = (cs.splitOn '/').reverse := by
  -- By the first slash: one piece stands before it, and what follows it is shorter.
  by_cases hSlash : '/' ∈ cs
  · obtain ⟨before, after, rfl, hBefore⟩ := List.eq_append_cons_of_mem hSlash
    rw [piecesFromEnd_append_slash, piecesFromEnd_eq_reverse after,
      piecesFromEnd_of_notMem hBefore, List.splitOn_append_cons_self,
      List.splitOn_eq_singleton hBefore, List.reverse_append]
    rfl
  · rw [piecesFromEnd_of_notMem hSlash, List.splitOn_eq_singleton hSlash]
    rfl
termination_by cs.length

/-! ## One law for each reading -/

/-- The search from the end stops at the last segment. -/
theorem fileName_eq_getLast (path : String) :
    fileName path = (segments path).getLast?.getD path := by
  have hSearch : (piecesFromEnd path.toList).find? (fun p => !p.isEmpty)
      = (pieces path.toList).getLast? := by
    rw [piecesFromEnd_eq_reverse, pieces, List.getLast?_filter]
  rw [fileName, hSearch, segments, List.getLast?_map]
  cases (pieces path.toList).getLast? <;> rfl

theorem segments_join_iff {segs : List String} :
    segments (join segs) = segs ↔ ∀ name ∈ segs, IsSegment name := by
  refine ⟨fun hSame name hMem => ?_, segments_join⟩
  rw [← hSame] at hMem
  exact isSegment_of_mem_segments hMem

theorem absoluteSegments_eq (cwd path : String) :
    absoluteSegments cwd path
      = if isAbsolute path then segments path else segments cwd ++ segments path := by
  rw [absoluteSegments, segments_append_slash]

/-! ## The laws together -/

/-- **Segment laws**: a path joined from names is cut into them exactly when each is non-empty
and without a slash, as everything that a path is cut into is; the name of a file is the last
segment of its path, or the path where there is none; and a path addresses its own segments, after
those of the working directory when it is not absolute. -/
theorem segment_laws (segs : List String) (cwd path : String) :
    (segments (join segs) = segs ↔ ∀ name ∈ segs, IsSegment name) ∧
    (∀ name ∈ segments path, IsSegment name) ∧
    fileName path = (segments path).getLast?.getD path ∧
    absoluteSegments cwd path
      = if isAbsolute path then segments path else segments cwd ++ segments path := by
  refine ⟨segments_join_iff, ?_, fileName_eq_getLast path, absoluteSegments_eq cwd path⟩
  intro name hMem
  exact isSegment_of_mem_segments hMem

/-- In a path with slashes to spare, behind a working directory with some. -/
theorem segment_laws_spareSlashes :
    (∀ name ∈ ["blog", "a.md"], IsSegment name) ∧
    segments (join ["blog", "a.md"]) = ["blog", "a.md"] ∧
    fileName "blog//a.md/" = "a.md" ∧
    absoluteSegments "//x/" "blog//a.md/" = ["x", "blog", "a.md"] := by
  have hSegs : ∀ name ∈ ["blog", "a.md"], IsSegment name := by decide
  obtain ⟨hJoin, -, hName, hAddress⟩ := segment_laws ["blog", "a.md"] "//x/" "blog//a.md/"
  refine ⟨hSegs, hJoin.2 hSegs, ?_, ?_⟩
  · rw [hName]
    decide
  · rw [hAddress]
    decide

end TreeShell.Path
