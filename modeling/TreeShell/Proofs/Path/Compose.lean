import Mathlib.Tactic.Common
import TreeShell.Proofs.Path.Resolve

/-!
# Arguments one after the other

To resolve one argument, and from there a second one that goes on without dots, comes to the same
segments as to resolve both at once with a slash between them.  The first argument may be
absolute, climb or go on itself; both ways treat it in the same branch, and a climb is followed
through the components of both in order.

## Layers

- `components_append_slash`: the components of two texts with a slash between;
- `GoesOn`: texts without dots as components, which are followed by going on;
- `climbs_append_slash`, `not_climbs_append_slash`: the branch of both arguments together is the
  branch of the first;
- `segments_resolve_append_slash`: both ways come to the same.
-/

namespace TreeShell.Path

/-! ## Components with a slash between -/

theorem components_append_slash (first second : String) :
    components (first ++ "/" ++ second) = components first ++ components second := by
  have hChars : (first ++ "/" ++ second).toList = first.toList ++ '/' :: second.toList := by simp
  simp only [components, hChars, List.splitOn_eq_splitOnP]
  rw [List.splitOnP_append_cons _ _ (by simp), List.map_append]

theorem mem_components_of_mem_segments {path name : String} (h : name ∈ segments path) :
    name ∈ components path := by
  rw [segments, pieces] at h
  exact List.map_subset _ List.filter_sublist.subset h

/-! ## Going on -/

/-- Whether no component of a path is understood as more than a name. -/
def GoesOn (path : String) : Prop :=
  ∀ component ∈ components path, component ≠ "." ∧ component ≠ ".."

instance (path : String) : Decidable (GoesOn path) :=
  inferInstanceAs (Decidable (∀ component ∈ components path, _))

theorem not_goesOn_of_climbs {path : String} (h : Climbs path) : ¬ GoesOn path := by
  have hMem : ".." ∈ components path := by
    rcases h with rfl | ⟨rest, hRest⟩
    · decide
    · -- What stands before the first slash is a component.
      have hPath : path = ".." ++ "/" ++ String.ofList rest := by
        apply String.toList_inj.1
        simp [← hRest]
      have hFirst : ".." ∈ components ".." := by decide
      rw [hPath, components_append_slash]
      exact List.mem_append_left _ hFirst
  exact fun hGoesOn => (hGoesOn ".." hMem).2 rfl

theorem GoesOn.ne_dot {path : String} (h : GoesOn path) : path ≠ "." := by
  rintro rfl
  have hMem : "." ∈ components "." := by decide
  exact (h "." hMem).1 rfl

theorem foldl_step_of_ne_dots {names : List String}
    (h : ∀ name ∈ names, name ≠ "." ∧ name ≠ "..") (segs : List String) :
    names.foldl step segs = segs ++ names := by
  induction names generalizing segs with
  | nil => rw [List.append_nil, List.foldl_nil]
  | cons name names ih =>
    obtain ⟨⟨hDot, hDots⟩, hRest⟩ := List.forall_mem_cons.1 h
    rw [List.foldl_cons, step, if_neg hDot, if_neg hDots, ih hRest, List.append_assoc,
      List.singleton_append]

/-- Components without dots are followed by going on with the segments. -/
theorem GoesOn.foldl_follow {path : String} (h : GoesOn path) (segs : List String) :
    (components path).foldl follow segs = segs ++ segments path := by
  rw [Path.foldl_follow]
  exact foldl_step_of_ne_dots (fun name hMem => h name (mem_components_of_mem_segments hMem)) segs

theorem GoesOn.segments_resolve_eq {path : String} (h : GoesOn path)
    (hRelative : isAbsolute path = false) (cwd : String) :
    segments (resolve cwd path) = segments cwd ++ segments path :=
  segments_resolve_of_plain hRelative h.ne_dot fun hClimbs => not_goesOn_of_climbs hClimbs h

/-! ## Both arguments together -/

variable {cwd first second : String}

theorem isAbsolute_append_slash (hNonempty : first ≠ "") :
    isAbsolute (first ++ "/" ++ second) = isAbsolute first := by
  have hChars : first.toList ≠ [] := fun hNil => hNonempty (String.toList_inj.1 hNil)
  obtain ⟨c, cs, hFirst⟩ := List.exists_cons_of_ne_nil hChars
  simp [isAbsolute, hFirst]

theorem append_slash_ne {whole : String} (h : '/' ∉ whole.toList) :
    first ++ "/" ++ second ≠ whole := by
  rintro rfl
  simp at h

theorem climbs_append_slash (h : Climbs first) : Climbs (first ++ "/" ++ second) := by
  rcases h with rfl | hPrefix
  · exact .inr ⟨second.toList, by simp⟩
  · exact .inr (hPrefix.trans (by simp))

/-- Two dots and a slash in front stand in the first argument, or are it with the slash. -/
theorem not_climbs_append_slash (hNonempty : first ≠ "") (h : ¬ Climbs first) :
    ¬ Climbs (first ++ "/" ++ second) := by
  rintro (hLone | hPrefix)
  · exact append_slash_ne (by decide) hLone
  · have hChars : (first ++ "/" ++ second).toList = first.toList ++ '/' :: second.toList := by
      simp
    have hDots : "../".toList = ['.', '.', '/'] := by decide
    rw [hChars, hDots] at hPrefix
    -- By the length of the first argument: the three characters end before, at or behind its end.
    match hFirst : first.toList with
    | [] => exact hNonempty (String.toList_inj.1 hFirst)
    | [c] => simp [hFirst] at hPrefix
    | [c, d] =>
      simp only [hFirst, List.cons_append, List.nil_append, List.cons_prefix_cons] at hPrefix
      obtain ⟨rfl, rfl, -⟩ := hPrefix
      exact h (.inl (String.toList_inj.1 hFirst))
    | c :: d :: e :: rest =>
      simp only [hFirst, List.cons_append, List.cons_prefix_cons] at hPrefix
      obtain ⟨rfl, rfl, rfl, -⟩ := hPrefix
      exact h (.inr ⟨rest, by rw [hFirst, hDots]; rfl⟩)

/-- **One after the other**: an argument and one that goes on from there come to the same segments
as both together. -/
theorem segments_resolve_append_slash (hNonempty : first ≠ "") (hDot : first ≠ ".")
    (hRelative : isAbsolute second = false) (hGoesOn : GoesOn second) :
    segments (resolve (resolve cwd first) second)
      = segments (resolve cwd (first ++ "/" ++ second)) := by
  rw [hGoesOn.segments_resolve_eq hRelative]
  cases hAbsolute : isAbsolute first with
  | true =>
    have hBoth : isAbsolute (first ++ "/" ++ second) = true :=
      (isAbsolute_append_slash hNonempty).trans hAbsolute
    rw [resolve_of_isAbsolute hAbsolute, resolve_of_isAbsolute hBoth, segments_append_slash]
  | false =>
    by_cases hClimbs : Climbs first
    · -- A climb goes through the components of the first argument, then through the others.
      rw [segments_resolve_of_climbs hClimbs,
        segments_resolve_of_climbs (climbs_append_slash hClimbs), components_append_slash,
        List.foldl_append, hGoesOn.foldl_follow]
    · have hBoth : isAbsolute (first ++ "/" ++ second) = false :=
        (isAbsolute_append_slash hNonempty).trans hAbsolute
      rw [segments_resolve_of_plain hAbsolute hDot hClimbs,
        segments_resolve_of_plain hBoth (append_slash_ne (by decide))
          (not_climbs_append_slash hNonempty hClimbs),
        segments_append_slash, List.append_assoc]

end TreeShell.Path
