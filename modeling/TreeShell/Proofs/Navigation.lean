import Mathlib.Tactic.Common
import TreeShell.Proofs.Command.Directories
import TreeShell.Proofs.Frame
import TreeShell.Proofs.Path.Compose

/-!
# Going about in the tree

`cd` resolves its argument from the old working directory and keeps the path as a text, which is
read anew by whatever comes next.  In an absolute working directory nothing is lost by this: the
path means the same node from everywhere.  So an argument after `cd` addresses the node that both
arguments together addressed before it, and `ls` after `cd` prints what `ls` with the same argument
printed before it.

## Layers

- `FileSystem.node?_setCurrentPath`, `FileSystem.list_setCurrentPath`: absolute paths do not depend
  on the working directory;
- `Command.cd_then`: one argument after the other;
- `Command.cd_iff_ls`: `cd` and `ls` with one argument.
-/

namespace TreeShell

open TreeShell.Command TreeShell.Path TreeShell.Time TreeShell.Tree

/-! ## Absolute paths from everywhere -/

namespace FileSystem

variable {fs : FileSystem} {path : String}

theorem shown_setCurrentPath (fs : FileSystem) (path : String) :
    (fs.setCurrentPath path).shown [] = path := rfl

theorem segments_setCurrentPath (h : isAbsolute path = true) (cwd : String) :
    (fs.setCurrentPath cwd).state.segments path = fs.state.segments path := by
  rw [State.segments, State.segments, absoluteSegments_of_isAbsolute h,
    absoluteSegments_of_isAbsolute h]

theorem node?_setCurrentPath (h : isAbsolute path = true) (cwd : String) :
    (fs.setCurrentPath cwd).node? path = fs.node? path := by
  rw [node?, node?, State.node?, State.node?, segments_setCurrentPath h]
  rfl

theorem list_setCurrentPath (h : isAbsolute path = true) (cwd : String) :
    (fs.setCurrentPath cwd).list path = fs.list path := by
  have hNode : (fs.setCurrentPath cwd).state.node? path = fs.state.node? path :=
    node?_setCurrentPath h cwd
  rw [list, list, State.list, State.list, hNode]

theorem isAbsolute_resolve (h : isAbsolute fs.currentPath = true) (arg : String) :
    isAbsolute (fs.resolve arg) = true :=
  Path.isAbsolute_resolve h arg

end FileSystem

namespace Command

variable {fs : FileSystem} {first second : String}

/-! ## One argument after the other -/

/-- **One after the other**: in an absolute working directory, to resolve an argument other than a
dot and then from there one without dots as components comes to the segments that both come to
together, with a slash between.  So when `cd` has gone to the first, the second addresses the same
node as both together did before. -/
theorem cd_then {cwd : String} (hCwd : isAbsolute cwd = true) (hNonempty : first ≠ "")
    (hDot : first ≠ ".") (hRelative : isAbsolute second = false) (hGoesOn : GoesOn second) :
    segments (resolve (resolve cwd first) second)
      = segments (resolve cwd (first ++ "/" ++ second)) ∧
    ∀ (fs : FileSystem) (now : Instant) (rest : List String) (gone : Outcome),
      fs.currentPath = cwd → cd.run now (first :: rest) fs = gone → gone.result.isError = false →
      gone.fs.state.root = fs.state.root ∧
      gone.fs.state.segments (gone.fs.resolve second)
        = fs.state.segments (fs.resolve (first ++ "/" ++ second)) ∧
      gone.fs.node? (gone.fs.resolve second) = fs.node? (fs.resolve (first ++ "/" ++ second)) := by
  have hSegments : segments (resolve (resolve cwd first) second)
      = segments (resolve cwd (first ++ "/" ++ second)) :=
    segments_resolve_append_slash hNonempty hDot hRelative hGoesOn
  refine ⟨hSegments, ?_⟩
  rintro fs now rest gone rfl rfl hGone
  simp only [run_cd_of_directory (isError_cd_iff.1 hGone)]
  have hFirst : isAbsolute (fs.resolve first) = true := fs.isAbsolute_resolve hCwd first
  have hThere : isAbsolute (resolve (fs.resolve first) second) = true :=
    isAbsolute_resolve hFirst second
  have hBoth : isAbsolute (fs.resolve (first ++ "/" ++ second)) = true :=
    fs.isAbsolute_resolve hCwd _
  -- Both paths are absolute, so that their segments are all that counts of them.
  have hKeys : (fs.setCurrentPath (fs.resolve first)).state.segments
        (resolve (fs.resolve first) second)
      = fs.state.segments (fs.resolve (first ++ "/" ++ second)) := by
    rw [State.segments, State.segments, absoluteSegments_of_isAbsolute hThere,
      absoluteSegments_of_isAbsolute hBoth]
    exact hSegments
  exact ⟨rfl, hKeys, congrArg fs.state.root.lookup? hKeys⟩

/-- From a working directory with slashes to spare, up by a chain and down again. -/
theorem cd_then_namesakes :
    isAbsolute FileSystem.namesakes.currentPath = true ∧ GoesOn "c//a" ∧
    segments (resolve (resolve "/blog//c/" "../") "c//a")
      = segments (resolve "/blog//c/" "..//c//a") ∧
    ∃ gone, cd.run default ["../"] FileSystem.namesakes = gone ∧ gone.result.isError = false ∧
      gone.fs.node? (gone.fs.resolve "c//a")
        = FileSystem.namesakes.node? (FileSystem.namesakes.resolve "..//c//a") := by
  have hCwd : isAbsolute FileSystem.namesakes.currentPath = true := by decide
  have hGoesOn : GoesOn "c//a" := by decide
  have hGone : (cd.run default ["../"] FileSystem.namesakes).result.isError = false := by
    decide +kernel
  obtain ⟨hSegments, hNodes⟩ :=
    @cd_then "../" "c//a" _ hCwd (by decide) (by decide) (by decide) hGoesOn
  exact ⟨hCwd, hGoesOn, hSegments, _, rfl, hGone,
    (hNodes FileSystem.namesakes default [] _ rfl rfl hGone).2.2⟩

/-! ## Going and looking -/

/-- **Going and looking**: in an absolute working directory, `cd` goes where `ls` lists.  When it
has gone there, `ls` without an argument prints what `ls` with the argument printed before, and to
go to a dot changes nothing of the state.  When it is refused, nothing is changed, and `ls` without
an argument prints what it printed before. -/
theorem cd_iff_ls {arg : String} {now later : Instant} {gone : Outcome}
    (hCwd : isAbsolute fs.currentPath = true) (hCd : cd.run now [arg] fs = gone) :
    (gone.result.isError = false ↔ (ls.run now [arg] fs).result.isError = false) ∧
    (gone.result.isError = false →
      (ls.run later [] gone.fs).result.isError = false ∧
      (ls.run later [] gone.fs).result = (ls.run now [arg] fs).result ∧
      (cd.run later ["."] gone.fs).result.isError = false ∧
      (cd.run later ["."] gone.fs).fs.state = gone.fs.state) ∧
    (gone.result.isError = true →
      gone.fs = fs ∧ (ls.run later [] gone.fs).result = (ls.run now [] fs).result) := by
  subst hCd
  refine ⟨?alike, ?gone, ?refused⟩
  case alike =>
    have hLs : (ls.run now [arg] fs).result.isError = false
        ↔ fs.LeadsToDirectory (fs.resolve arg) := isError_ls_iff
    rw [isError_cd_iff, hLs]
  case gone =>
    intro hGone
    have hThere : fs.LeadsToDirectory (fs.resolve arg) := isError_cd_iff.1 hGone
    simp only [run_cd_of_directory hThere]
    have hAbsolute : isAbsolute (fs.resolve arg) = true := fs.isAbsolute_resolve hCwd arg
    -- The path that was kept leads to the same directory from itself.
    have hAgain : (fs.setCurrentPath (fs.resolve arg)).LeadsToDirectory (fs.resolve arg) := by
      rw [FileSystem.LeadsToDirectory, FileSystem.node?_setCurrentPath hAbsolute]
      exact hThere
    have hShown : (fs.setCurrentPath (fs.resolve arg)).shown [] = fs.resolve arg :=
      fs.shown_setCurrentPath (fs.resolve arg)
    have hDot : (fs.setCurrentPath (fs.resolve arg)).resolve "." = fs.resolve arg :=
      resolve_dot (fs.resolve arg)
    refine ⟨isError_ls_iff.2 (hShown ▸ hAgain), ?_, ?_⟩
    · obtain ⟨d, hNode, hDirectory⟩ := hThere
      obtain ⟨nodes, hList, -⟩ := exists_list_eq_ok hNode hDirectory
      have hListAgain : (fs.setCurrentPath (fs.resolve arg)).list
          ((fs.setCurrentPath (fs.resolve arg)).shown []) = .ok nodes := by
        rw [hShown, FileSystem.list_setCurrentPath hAbsolute, hList]
      have hBefore : (ls.run now [arg] fs).result
          = .say ("\n".intercalate (nodes.map listingLine)) := result_ls now hList
      rw [result_ls later hListAgain, hBefore]
    · rw [run_cd_of_directory (hDot.symm ▸ hAgain), hDot]
      exact ⟨rfl, rfl⟩
  case refused =>
    intro hRefused
    rw [fs_cd_of_isError hRefused, run_ls, run_ls]
    exact ⟨rfl, rfl⟩

/-- Up from a working directory with slashes to spare, and to a name that a file has. -/
theorem cd_iff_ls_namesakes :
    isAbsolute FileSystem.namesakes.currentPath = true ∧
    (∃ gone, cd.run default [".."] FileSystem.namesakes = gone ∧ gone.result.isError = false ∧
      (ls.run default [".."] FileSystem.namesakes).result = .say "📁 c\n📄 a" ∧
      (ls.run default [] gone.fs).result = .say "📁 c\n📄 a") ∧
    ∃ gone, cd.run default ["a"] FileSystem.namesakes = gone ∧ gone.result.isError = true ∧
      (ls.run default [] FileSystem.namesakes).result = .say "📄 a" ∧
      (ls.run default [] gone.fs).result = .say "📄 a" := by
  have hCwd : isAbsolute FileSystem.namesakes.currentPath = true := by decide
  have hGone : (cd.run default [".."] FileSystem.namesakes).result.isError = false := by
    decide +kernel
  have hRefused : (cd.run default ["a"] FileSystem.namesakes).result.isError = true := by
    decide +kernel
  have hAbove : (ls.run default [".."] FileSystem.namesakes).result = .say "📁 c\n📄 a" := by
    have hList : FileSystem.namesakes.list (FileSystem.namesakes.shown [".."]) = .ok
        [.directory "c" [("a", .file "a" "2" default default)] default default,
         .file "a" "1" default default] := by
      apply list_eq_ok rfl
      simp [Node.listing?, Node.children?, List.mergeSort, Node.listsBefore, Node.isDirectory]
    exact result_ls default hList
  have hAround : (ls.run default [] FileSystem.namesakes).result = .say "📄 a" := by
    have hList : FileSystem.namesakes.list (FileSystem.namesakes.shown [])
        = .ok [.file "a" "2" default default] := by
      apply list_eq_ok rfl
      simp [Node.listing?, Node.children?]
    exact result_ls default hList
  obtain ⟨-, hThere, -⟩ := @cd_iff_ls _ _ default default _ hCwd rfl
  obtain ⟨-, -, hHere⟩ := @cd_iff_ls _ _ default default _ hCwd rfl
  exact ⟨hCwd, ⟨_, rfl, hGone, hAbove, (hThere hGone).2.1.trans hAbove⟩,
    _, rfl, hRefused, hAround, (hHere hRefused).2.trans hAround⟩

end Command

end TreeShell
