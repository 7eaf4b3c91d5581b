import Mathlib.Tactic.Common
import TreeShell.Command.Directories
import TreeShell.Proofs.Tree.Listing

/-!
# Commands on directories

`cd` and `ls` ask one question first: whether the path that they are about leads to a directory.
`cd` then makes the path the working directory, and `ls` prints the listing of the directory, line
by line.  What `ls` prints is told by the kinds and names of the children alone, in whatever order
they are kept and whatever keys they have.

## Layers

- `FileSystem.shown`, `exists_list_eq_ok`: the directory that `ls` is about;
- `isError_ls_iff`, `result_ls`: what `ls` prints;
- `isError_cd_iff`, `run_cd_of_directory`, `fs_cd_of_isError`: where `cd` goes;
- `listed_ls`: listings, and what `ls` prints of them.
-/

namespace TreeShell

open TreeShell.Command TreeShell.Time TreeShell.Tree

/-- The path that `ls` is about: what its first argument means, or the working directory. -/
def FileSystem.shown (fs : FileSystem) : List String → String
  | [] => fs.currentPath
  | arg :: _ => fs.resolve arg

/-- Whether a path leads to a directory. -/
def FileSystem.LeadsToDirectory (fs : FileSystem) (path : String) : Prop :=
  ∃ d, fs.node? path = some d ∧ d.isDirectory = true

namespace Command

variable {fs fs' : FileSystem} {now now' : Instant} {path arg : String}
  {args args' rest : List String} {d : Node} {nodes nodes' : List Node}

/-! ## Looking into a directory -/

theorem list_eq_ok (h : fs.node? path = some d) (hListing : d.listing? = some nodes) :
    fs.list path = .ok nodes := by
  have hNode : fs.state.node? path = some d := h
  simp only [FileSystem.list, State.list, hNode, hListing]

theorem exists_list_eq_ok (h : fs.node? path = some d) (hDirectory : d.isDirectory = true) :
    ∃ nodes, fs.list path = .ok nodes ∧ d.Listed nodes := by
  obtain ⟨nodes, hListing⟩ : ∃ nodes, d.listing? = some nodes :=
    ⟨_, Node.listing?_eq_some_iff.2 ⟨hDirectory, rfl⟩⟩
  exact ⟨nodes, list_eq_ok h hListing, Node.listed_of_listing? hListing⟩

theorem leadsToDirectory_of_list (h : fs.list path = .ok nodes) : fs.LeadsToDirectory path := by
  simp only [FileSystem.list, State.list] at h
  cases hNode : fs.state.node? path with
  | none => simp [hNode] at h
  | some d =>
    cases hListing : d.listing? with
    | none => simp [hNode, hListing] at h
    | some _ => exact ⟨d, hNode, (Node.listing?_eq_some_iff.1 hListing).1⟩

theorem run_ls (now : Instant) (args : List String) (fs : FileSystem) :
    ls.run now args fs =
      match fs.list (fs.shown args) with
      | .ok nodes => .still fs (.say ("\n".intercalate (nodes.map listingLine)))
      | .error _ =>
        .still fs (.refuse
          ("ls: cannot access '" ++ args.head?.getD "." ++ "': No such file or directory")) := by
  cases args <;> rfl

theorem result_ls (now : Instant) (h : fs.list (fs.shown args) = .ok nodes) :
    (ls.run now args fs).result = .say ("\n".intercalate (nodes.map listingLine)) := by
  rw [run_ls, h]
  rfl

theorem isError_ls_iff :
    (ls.run now args fs).result.isError = false ↔ fs.LeadsToDirectory (fs.shown args) := by
  constructor
  · intro h
    rw [run_ls] at h
    cases hList : fs.list (fs.shown args) with
    | ok nodes => exact leadsToDirectory_of_list hList
    | error f => simp [hList, Outcome.still, Result.refuse] at h
  · rintro ⟨d, hNode, hDirectory⟩
    obtain ⟨nodes, hList, -⟩ := exists_list_eq_ok hNode hDirectory
    rw [result_ls now hList]
    rfl

/-- Nodes with the same labels are printed alike. -/
theorem map_listingLine_of_map_label (h : nodes.map Node.label = nodes'.map Node.label) :
    nodes.map listingLine = nodes'.map listingLine := by
  have hLine : listingLine =
      (fun l : Bool × String => (if l.1 then "📁" else "📄") ++ " " ++ l.2) ∘ Node.label := rfl
  rw [hLine, ← List.map_map, ← List.map_map, h]

/-! ## Going to a directory -/

theorem run_cd_of_directory (h : fs.LeadsToDirectory (fs.resolve arg)) (now : Instant)
    (rest : List String) :
    cd.run now (arg :: rest) fs
      = { result := .silent, fs := fs.setCurrentPath (fs.resolve arg) } := by
  obtain ⟨d, hNode, hDirectory⟩ := h
  simp only [cd, hNode, hDirectory, if_true]

theorem exists_run_cd_eq_refuse (h : ¬ fs.LeadsToDirectory (fs.resolve arg)) (now : Instant)
    (rest : List String) :
    ∃ text, cd.run now (arg :: rest) fs = .still fs (.refuse text) := by
  simp only [cd]
  cases hNode : fs.node? (fs.resolve arg) with
  | none => exact ⟨_, rfl⟩
  | some n =>
    have hFile : n.isDirectory = false := by
      rw [← Bool.not_eq_true]
      exact fun hDirectory => h ⟨n, hNode, hDirectory⟩
    simp only [hFile, Bool.false_eq_true, if_false]
    exact ⟨_, rfl⟩

theorem isError_cd_iff :
    (cd.run now (arg :: rest) fs).result.isError = false
      ↔ fs.LeadsToDirectory (fs.resolve arg) := by
  constructor
  · intro h
    by_contra hNo
    obtain ⟨text, hRefuse⟩ := exists_run_cd_eq_refuse hNo now rest
    rw [hRefuse] at h
    cases h
  · intro h
    rw [run_cd_of_directory h]
    rfl

theorem fs_cd_of_isError (h : (cd.run now (arg :: rest) fs).result.isError = true) :
    (cd.run now (arg :: rest) fs).fs = fs := by
  have hNo : ¬ fs.LeadsToDirectory (fs.resolve arg) := by
    intro hThere
    rw [isError_cd_iff.2 hThere] at h
    cases h
  obtain ⟨text, hRefuse⟩ := exists_run_cd_eq_refuse hNo now rest
  rw [hRefuse]
  rfl

/-! ## What is listed -/

/-- **Listings**: a path that leads to a directory is answered with the children of the
directory in the order of a listing, which there is one of.  `ls` prints them line by line, each
with a sign for its kind, and the same for any two directories whose children have names of their
own and the same kinds and names. -/
theorem listed_ls :
    (∀ (fs : FileSystem) (path : String) (d : Node),
      fs.node? path = some d → d.isDirectory = true →
      ∃ nodes, fs.list path = .ok nodes ∧ d.Listed nodes ∧
        ∀ others, d.Listed others → others = nodes) ∧
    ∀ (fs fs' : FileSystem) (now now' : Instant) (args args' : List String) (d d' : Node),
      fs.node? (fs.shown args) = some d → d.isDirectory = true →
      fs'.node? (fs'.shown args') = some d' → d'.isDirectory = true →
      (d.childNodes.map Node.name).Nodup → (d'.childNodes.map Node.name).Nodup →
      (∀ l, l ∈ d.childNodes.map Node.label ↔ l ∈ d'.childNodes.map Node.label) →
      ∃ nodes, d.Listed nodes ∧
        (ls.run now args fs).result = .say ("\n".intercalate (nodes.map fun n =>
          (if n.isDirectory then "📁" else "📄") ++ " " ++ n.name)) ∧
        (ls.run now' args' fs').result = (ls.run now args fs).result := by
  constructor
  · intro fs path d hNode hDirectory
    obtain ⟨nodes, hList, hListed⟩ := exists_list_eq_ok hNode hDirectory
    exact ⟨nodes, hList, hListed, fun others hOthers => hOthers.unique hListed⟩
  · intro fs fs' now now' args args' d d' hNode hDirectory hNode' hDirectory' hNames hNames' hLabels
    obtain ⟨nodes, hList, hListed⟩ := exists_list_eq_ok hNode hDirectory
    obtain ⟨nodes', hList', hListed'⟩ := exists_list_eq_ok hNode' hDirectory'
    refine ⟨nodes, hListed, result_ls now hList, ?_⟩
    have hSame : nodes'.map Node.label = nodes.map Node.label :=
      hListed'.map_label_eq hListed (Node.perm_map_label hNames hNames' hLabels).symm
    rw [result_ls now hList, result_ls now' hList', map_listingLine_of_map_label hSame]

/-- Two directories and two files, as they were made. -/
def firstMade : Node :=
  .directory "root"
    [("b", .file "b" "1" default default), ("blog", .directory "blog" [] default default),
     ("a", .file "a" "" default default), ("é", .directory "é" [] default default)]
    default default

/-- The same kinds and names under other keys, made in another order. -/
def madeAgain : Node :=
  .directory "home"
    [("e", .directory "é" [("a", .file "a" "2" default default)] default default),
     ("a", .file "a" "3" default default), ("d", .directory "blog" [] default default),
     ("c", .file "b" "" default default)]
    default default

/-- A file system with a tree and the root as its working directory. -/
def rootedAt (n : Node) : FileSystem where
  state := ⟨n, "/"⟩
  store := { backend := .empty }
  key := "tree"

theorem listed_ls_madeAgain :
    (rootedAt firstMade).node? ((rootedAt firstMade).shown []) = some firstMade ∧
    (rootedAt madeAgain).node? ((rootedAt madeAgain).shown ["//"]) = some madeAgain ∧
    (∃ nodes, (rootedAt firstMade).list "/" = .ok nodes ∧ firstMade.Listed nodes) ∧
    (ls.run default [] (rootedAt firstMade)).result = .say "📁 blog\n📁 é\n📄 a\n📄 b" ∧
    (ls.run default ["//"] (rootedAt madeAgain)).result = .say "📁 blog\n📁 é\n📄 a\n📄 b" := by
  have hNode : (rootedAt firstMade).node? ((rootedAt firstMade).shown []) = some firstMade := rfl
  have hNode' : (rootedAt madeAgain).node? ((rootedAt madeAgain).shown ["//"])
      = some madeAgain := rfl
  have hLabels : ∀ l, l ∈ firstMade.childNodes.map Node.label
      ↔ l ∈ madeAgain.childNodes.map Node.label := by
    have hSame : (firstMade.childNodes.map Node.label).Perm
        (madeAgain.childNodes.map Node.label) := by decide
    exact fun l => hSame.mem_iff
  obtain ⟨nodes, hList, hListed, -⟩ := listed_ls.1 (rootedAt firstMade) "/" firstMade hNode rfl
  obtain ⟨-, -, -, hSame⟩ := listed_ls.2 (rootedAt firstMade) (rootedAt madeAgain) default default
    [] ["//"] firstMade madeAgain hNode rfl hNode' rfl (by decide) (by decide) hLabels
  have hListing : firstMade.listing? = some
      [.directory "blog" [] default default, .directory "é" [] default default,
       .file "a" "" default default, .file "b" "1" default default] := by
    simp [firstMade, Node.listing?, Node.children?, List.mergeSort, Node.listsBefore,
      Node.isDirectory, Node.name]
  have hPrinted : (ls.run default [] (rootedAt firstMade)).result
      = .say "📁 blog\n📁 é\n📄 a\n📄 b" := result_ls default (list_eq_ok hNode hListing)
  exact ⟨hNode, hNode', ⟨nodes, hList, hListed⟩, hPrinted, hSame.trans hPrinted⟩

end Command

end TreeShell
