import Mathlib.Tactic.Common
import TreeShell.Command.Basic
import TreeShell.Proofs.Path.Segments

/-!
# Arguments and addresses

A command first resolves its argument against the working directory, and the file system
then cuts the path it is given into segments.  The two layers agree: in an absolute working
directory a resolved argument is an absolute path, whose segments do not depend on any
working directory, and these are the segments that the argument means when its components
are followed one by one.  An argument that is neither absolute nor made of dots in front
means the same to both layers.

## Layers

- `segments_append_slash`: what stands before and after a slash is cut on its own;
- `foldl_follow`: following every component of a path is following its segments;
- `segments_resolve`: the segments of a resolved argument, by the form of the argument.
-/

namespace TreeShell.Path

/-! ## Paths with a slash between -/

theorem pieces_append_slash (before after : List Char) :
    pieces (before ++ '/' :: after) = pieces before ++ pieces after := by
  simp only [pieces, List.splitOn_eq_splitOnP]
  rw [List.splitOnP_append_cons before after (by simp), List.filter_append]

theorem segments_append_slash (cwd path : String) :
    segments (cwd ++ "/" ++ path) = segments cwd ++ segments path := by
  have hChars : (cwd ++ "/" ++ path).toList = cwd.toList ++ '/' :: path.toList := by simp
  rw [segments, hChars, pieces_append_slash, List.map_append]
  rfl

theorem segments_slash_append (path : String) : segments ("/" ++ path) = segments path := by
  have hChars : ("/" ++ path).toList = '/' :: path.toList := by simp
  rw [segments, hChars, pieces_slash_cons, segments]

theorem isAbsolute_append {cwd : String} (h : isAbsolute cwd = true) (path : String) :
    isAbsolute (cwd ++ path) = true := by
  have hHead : cwd.toList.head? = some '/' := by simpa [isAbsolute] using h
  simp [isAbsolute, hHead]

/-! ## Following components -/

/-- The pieces of a path between slashes, with the empty ones. -/
def components (path : String) : List String :=
  (path.toList.splitOn '/').map String.ofList

/-- One component followed from the segments reached so far. -/
def follow (segs : List String) (component : String) : List String :=
  if component = "" ∨ component = "." then segs
  else if component = ".." then segs.dropLast
  else segs ++ [component]

theorem follow_empty (segs : List String) : follow segs "" = segs := by
  simp [follow]

theorem follow_of_ne_empty {component : String} (h : component ≠ "") (segs : List String) :
    follow segs component = step segs component := by
  simp [follow, step, h]

/-- Empty components lead nowhere, so that only the segments of a path are followed. -/
theorem foldl_follow (segs : List String) (path : String) :
    (components path).foldl follow segs = (segments path).foldl step segs := by
  rw [components, segments, pieces]
  -- Piece by piece; what was reached so far is arbitrary.
  induction path.toList.splitOn '/' generalizing segs with
  | nil => rfl
  | cons p ps ih =>
    cases p with
    | nil =>
      have hEmpty : String.ofList [] = "" := rfl
      rw [List.map_cons, List.foldl_cons, hEmpty, follow_empty, ih]
      rfl
    | cons c cs =>
      have hNe : String.ofList (c :: cs) ≠ "" := by
        intro hEq
        simpa using congrArg String.toList hEq
      rw [List.map_cons, List.foldl_cons, follow_of_ne_empty hNe, ih]
      rfl

theorem isSegment_of_mem_step {segs : List String} {component : String}
    (hSegs : ∀ name ∈ segs, IsSegment name) (hComponent : IsSegment component) :
    ∀ name ∈ step segs component, IsSegment name := by
  intro name hMem
  unfold step at hMem
  split at hMem
  · exact hSegs name hMem
  · split at hMem
    · exact hSegs name ((List.dropLast_sublist segs).mem hMem)
    · rcases List.mem_append.1 hMem with hOld | hNew
      · exact hSegs name hOld
      · obtain rfl : name = component := List.mem_singleton.1 hNew
        exact hComponent

theorem isSegment_of_mem_foldl_step {comps segs : List String}
    (hSegs : ∀ name ∈ segs, IsSegment name) (hComps : ∀ name ∈ comps, IsSegment name) :
    ∀ name ∈ comps.foldl step segs, IsSegment name := by
  induction comps generalizing segs with
  | nil => exact hSegs
  | cons component comps ih =>
    obtain ⟨hHead, hTail⟩ := List.forall_mem_cons.1 hComps
    exact ih (isSegment_of_mem_step hSegs hHead) hTail

/-! ## Resolving an argument -/

/-- Whether an argument begins by leaving the working directory. -/
def Climbs (target : String) : Prop :=
  target = ".." ∨ "../".toList <+: target.toList

theorem isAbsolute_of_climbs {target : String} (h : Climbs target) :
    isAbsolute target = false := by
  rcases h with rfl | ⟨rest, hRest⟩
  · decide
  · simp [isAbsolute, ← hRest]

theorem ne_dot_of_climbs {target : String} (h : Climbs target) : target ≠ "." := by
  rintro rfl
  rcases h with hEq | ⟨rest, hRest⟩
  · revert hEq
    decide
  · simp at hRest

variable {cwd target : String}

theorem resolve_of_isAbsolute (h : isAbsolute target = true) : resolve cwd target = target := by
  rw [resolve, if_pos h]

theorem resolve_dot (cwd : String) : resolve cwd "." = cwd := by
  rw [resolve, if_neg (by decide), if_pos rfl]

theorem resolve_of_climbs (h : Climbs target) :
    resolve cwd target = join ((segments target).foldl step (segments cwd)) := by
  have hRelative : ¬ isAbsolute target = true := by simp [isAbsolute_of_climbs h]
  -- A climbing argument is neither absolute nor a dot; only the last two tests are left.
  rw [resolve, if_neg hRelative, if_neg (ne_dot_of_climbs h)]
  split
  · -- A lone `..` is a chain of one component.
    rename_i hLone
    subst hLone
    have hSegments : segments ".." = [".."] := by decide
    rw [hSegments]
    rfl
  · rename_i hLone
    have hPrefix : "../".toList <+: target.toList := h.resolve_left hLone
    rw [if_pos (List.isPrefixOf_iff_prefix.2 hPrefix)]

theorem resolve_of_plain (hRelative : isAbsolute target = false) (hDot : target ≠ ".")
    (hClimbs : ¬ Climbs target) :
    resolve cwd target = if cwd = "/" then "/" ++ target else cwd ++ "/" ++ target := by
  obtain ⟨hLone, hPrefix⟩ := not_or.1 hClimbs
  have hBool : ¬ "../".toList.isPrefixOf target.toList = true :=
    fun h => hPrefix (List.isPrefixOf_iff_prefix.1 h)
  rw [resolve, if_neg (by simp [hRelative]), if_neg hDot, if_neg hLone, if_neg hBool]

/-! ## The segments of a resolved argument -/

theorem isAbsolute_resolve (hCwd : isAbsolute cwd = true) (target : String) :
    isAbsolute (resolve cwd target) = true := by
  -- Every branch answers the argument, the working directory, a joined path or one that
  -- goes on from the working directory.
  unfold resolve
  split
  · assumption
  · split
    · exact hCwd
    · split
      · exact isAbsolute_join _
      · split
        · exact isAbsolute_join _
        · split
          · exact isAbsolute_append (by decide) target
          · exact isAbsolute_append (isAbsolute_append hCwd "/") target

theorem segments_resolve_of_climbs (h : Climbs target) :
    segments (resolve cwd target) = (components target).foldl follow (segments cwd) := by
  have hSegments : ∀ name ∈ (segments target).foldl step (segments cwd), IsSegment name :=
    isSegment_of_mem_foldl_step (fun _ => isSegment_of_mem_segments)
      fun _ => isSegment_of_mem_segments
  rw [resolve_of_climbs h, segments_join hSegments, foldl_follow]

theorem segments_resolve_of_plain (hRelative : isAbsolute target = false) (hDot : target ≠ ".")
    (hClimbs : ¬ Climbs target) :
    segments (resolve cwd target) = segments cwd ++ segments target := by
  rw [resolve_of_plain hRelative hDot hClimbs]
  split
  · rename_i hRoot
    have hNone : segments "/" = [] := by decide
    rw [segments_slash_append, hRoot, hNone, List.nil_append]
  · exact segments_append_slash cwd target

/-- **Resolved arguments**: in an absolute working directory an argument is resolved to an
absolute path, which every file system cuts into the same segments.  These are the segments
of the argument when it is absolute and those of the working directory when it is a dot; an
argument that climbs is followed component by component, and any other goes on from the
working directory, as it does in the file system itself. -/
theorem segments_resolve {cwd : String} (hCwd : isAbsolute cwd = true) (target : String) :
    isAbsolute (resolve cwd target) = true ∧
    (∀ other, absoluteSegments other (resolve cwd target) = segments (resolve cwd target)) ∧
    (isAbsolute target = true → segments (resolve cwd target) = segments target) ∧
    (target = "." → segments (resolve cwd target) = segments cwd) ∧
    (Climbs target →
      segments (resolve cwd target) = (components target).foldl follow (segments cwd)) ∧
    (isAbsolute target = false → target ≠ "." → ¬ Climbs target →
      segments (resolve cwd target) = segments cwd ++ segments target ∧
      absoluteSegments cwd (resolve cwd target) = absoluteSegments cwd target ∧
      ∀ fs : FileSystem, fs.currentPath = cwd →
        fs.node? (fs.resolve target) = fs.node? target) := by
  have hResolved : isAbsolute (resolve cwd target) = true := isAbsolute_resolve hCwd target
  refine ⟨hResolved, absoluteSegments_of_isAbsolute hResolved, ?absolute, ?dot,
    segments_resolve_of_climbs, ?plain⟩
  case absolute =>
    intro hAbsolute
    rw [resolve_of_isAbsolute hAbsolute]
  case dot =>
    rintro rfl
    rw [resolve_dot]
  case plain =>
    intro hRelative hDot hClimbs
    have hSegments : segments (resolve cwd target) = segments cwd ++ segments target :=
      segments_resolve_of_plain hRelative hDot hClimbs
    have hSame : absoluteSegments cwd (resolve cwd target) = absoluteSegments cwd target := by
      rw [absoluteSegments_of_isAbsolute hResolved, hSegments, absoluteSegments,
        if_neg (by simp [hRelative]), segments_append_slash]
    refine ⟨hSegments, hSame, ?_⟩
    -- A node is looked up by its segments and by nothing else of the path.
    intro fs hPath
    have hKeys : fs.state.segments (fs.resolve target) = fs.state.segments target := by
      have hState : fs.state.currentPath = cwd := hPath
      rw [Tree.State.segments, Tree.State.segments, FileSystem.resolve, hPath, hState]
      exact hSame
    rw [FileSystem.node?, FileSystem.node?, Tree.State.node?, Tree.State.node?, hKeys]

/-- From a working directory with slashes to spare: a chain that leaves the root twice, and a
path in which dots are names. -/
theorem segments_resolve_spare_slashes :
    isAbsolute "//blog/x/" = true ∧
    segments (resolve "//blog/x/" "../../..//./z/") = ["z"] ∧
    segments (resolve "//blog/x/" "./a//..") = ["blog", "x", ".", "a", ".."] := by
  have hCwd : isAbsolute "//blog/x/" = true := by decide
  obtain ⟨-, -, -, -, hChain, -⟩ := segments_resolve hCwd "../../..//./z/"
  obtain ⟨-, -, -, -, -, hPlain⟩ := segments_resolve hCwd "./a//.."
  have hClimbs : Climbs "../../..//./z/" := .inr (by decide)
  have hStays : ¬ Climbs "./a//.." := by
    rintro (hLone | hPrefix)
    · revert hLone
      decide
    · revert hPrefix
      decide
  refine ⟨hCwd, ?_, ?_⟩
  · rw [hChain hClimbs]
    decide
  · rw [(hPlain (by decide) (by decide) hStays).1]
    decide

end TreeShell.Path
