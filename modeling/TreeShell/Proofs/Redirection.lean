import Mathlib.Tactic.Common
import TreeShell.Proofs.Command.Redirect
import TreeShell.Proofs.Frame
import TreeShell.Proofs.Line
import TreeShell.Proofs.Refusal

/-!
# Lines that redirect

A line for `echo` prints its words, or puts what stands before the first sign `>` into the file
named behind it.  Such a line is refused exactly where nothing can be written, and what it has
written is what a line for `cat` prints; nothing else in the tree reads otherwise than before.

## Layers

- `State.put`, `State.put_isError_iff`, `State.read_of_put`, `State.read_aside_of_put`: a content
  is put into a file, old or new;
- `Command.run_echo`, `Command.Redirect.outcome`: what `echo` does with a redirection;
- `Command.Redirect.parse?_intercalate`: the redirection that words make;
- `Shell.echo_iff_cutAtSign`, `Shell.cat_after_echo`.
-/

namespace TreeShell

open TreeShell.Command TreeShell.Text TreeShell.Time TreeShell.Tree

/-! ## Putting a content into a file -/

namespace Tree.State

/-- The state with a content in the file at a path: an existing file has it in place of its own,
and where there is nothing a new file is made with it. -/
def put (s : State) (now : Instant) (path content : String) : Except Failure State :=
  if (s.node? path).isSome then s.write now path content else s.createFile now path content

/-- Whether nothing can be put at the end of some keys. -/
inductive Unwritable (s : State) : List String → Prop where
  /-- The root, whatever it is. -/
  | root : Unwritable s []
  | directory {keys : List String} {n : Node} (hFound : s.root.lookup? keys = some n)
      (hKind : n.isDirectory = true) : Unwritable s keys
  /-- Nothing is there, and no parent to make a file in. -/
  | noParent {keys : List String} (hFree : s.root.lookup? keys = none)
      (hLost : s.root.lookup? keys.dropLast = none) : Unwritable s keys
  /-- Nothing is there, and a file stands where the parent should. -/
  | fileAsParent {keys : List String} {parent : Node} (hFree : s.root.lookup? keys = none)
      (hParent : s.root.lookup? keys.dropLast = some parent)
      (hKind : parent.isDirectory = false) : Unwritable s keys
  /-- Nothing is there, and a new file would lie too deep. -/
  | tooDeep {keys : List String} (hFree : s.root.lookup? keys = none)
      (hDeep : maxDepth < keys.length) : Unwritable s keys

variable {s s' : State} {now : Instant} {path content : String}

theorem put_of_node? {n : Node} (h : s.node? path = some n) :
    s.put now path content = s.write now path content := by
  rw [put, h]
  rfl

theorem put_of_node?_eq_none (h : s.node? path = none) :
    s.put now path content = s.createFile now path content := by
  rw [put, h]
  rfl

/-- Where a content can be put, everything holds that writing or making a file needs. -/
theorem exists_put_eq_ok (h : ¬ s.Unwritable (s.segments path)) :
    ∃ s', s.put now path content = .ok s' := by
  have hNonempty : s.segments path ≠ [] := fun hEq => h (hEq ▸ .root)
  cases hNode : s.node? path with
  | some n =>
    have hFile : n.isDirectory = false := by
      rw [← Bool.not_eq_true]
      exact fun hKind => h (.directory hNode hKind)
    rw [put_of_node? hNode]
    exact ⟨_, write_eq_ok_iff.2 ⟨n, hNonempty, hNode, hFile, rfl⟩⟩
  | none =>
    rw [put_of_node?_eq_none hNode]
    obtain ⟨parent, hParent⟩ :
        ∃ parent, s.root.lookup? (s.segments path).dropLast = some parent := by
      rw [← Option.ne_none_iff_exists']
      exact fun hLost => h (.noParent hNode hLost)
    have hDirectory : parent.isDirectory = true := by
      rw [← Bool.not_eq_false]
      exact fun hKind => h (.fileAsParent hNode hParent hKind)
    have hDepth : (s.segments path).length ≤ maxDepth := by
      rw [← Nat.not_lt]
      exact fun hDeep => h (.tooDeep hNode hDeep)
    refine exists_insert_eq_ok ?_
    simp only [creation, List.forall_mem_cons]
    exact ⟨hNonempty, hDepth, ⟨parent, hParent⟩, ⟨parent, hParent, hDirectory⟩, hNode, by simp⟩

theorem not_unwritable_of_put (h : s.put now path content = .ok s') :
    ¬ s.Unwritable (s.segments path) := by
  cases hNode : s.node? path with
  | some n =>
    rw [put_of_node? hNode] at h
    obtain ⟨n, hNonempty, hNode, hFile, -⟩ := write_eq_ok_iff.1 h
    rw [node?] at hNode
    intro hBarred
    -- An existing file is neither the root nor a directory, and the other bars need a free place.
    generalize s.segments path = keys at hNonempty hNode hBarred
    cases hBarred with
    | root => contradiction
    | directory hFound hKind =>
      obtain rfl := Option.some.inj (hNode.symm.trans hFound)
      simp [hFile] at hKind
    | noParent hFree | fileAsParent hFree | tooDeep hFree => simp [hNode] at hFree
  | none =>
    rw [put_of_node?_eq_none hNode] at h
    obtain ⟨parents, name, parent, hSegments, hDepth, hParent, hDirectory, -, -⟩ :=
      insert_eq_ok_iff.1 h
    rw [node?, hSegments] at hNode
    rw [hSegments]
    intro hBarred
    generalize hKeys : parents ++ [name] = keys at hNode hBarred
    have hFront : keys.dropLast = parents := by rw [← hKeys, List.dropLast_concat]
    cases hBarred with
    | root => simp at hKeys
    | directory hFound => simp [hNode] at hFound
    | noParent _ hLost => simp [hFront, hParent] at hLost
    | fileAsParent _ hOther hKind =>
      rw [hFront, hParent] at hOther
      obtain rfl := Option.some.inj hOther
      simp [hDirectory] at hKind
    | tooDeep _ hDeep =>
      rw [← hKeys, List.length_append, List.length_singleton] at hDeep
      omega

/-- **Refusals**: a content is put into a file unless nothing can be put there. -/
theorem put_isError_iff :
    (∃ f, s.put now path content = .error f) ↔ s.Unwritable (s.segments path) := by
  constructor
  · rintro ⟨f, hError⟩
    by_contra hFree
    obtain ⟨s', hOk⟩ : ∃ s', s.put now path content = .ok s' := exists_put_eq_ok hFree
    simp [hError] at hOk
  · intro hBarred
    cases hPut : s.put now path content with
    | error f => exact ⟨f, rfl⟩
    | ok s' => exact absurd hBarred (not_unwritable_of_put hPut)

theorem read_of_put (h : s.put now path content = .ok s') : s'.read path = .ok content := by
  cases hNode : s.node? path with
  | some n => exact read_of_write (put_of_node? hNode ▸ h)
  | none => exact read_of_createFile (put_of_node?_eq_none hNode ▸ h)

/-- A new child is read at no other path: those that lead to its parents lead to directories,
and the others are as they were. -/
theorem Added.read_aside {parents : List String} {child : Node} (h : s.Added now parents child s')
    (hOther : s.segments path ≠ parents ++ [child.name]) : s'.read path = s.read path := by
  by_cases hPrefix : s.segments path <+: parents
  · obtain ⟨rest, hKeys⟩ := hPrefix
    have hTree := h.tree
    rw [← hKeys] at hTree
    obtain ⟨n, n', hFound, hFound', hRest⟩ := hTree.exists_lookup?
    have hNode' : s'.node? path = some n' := by
      rw [node?_eq_of_segments h.currentPath_eq rfl, hFound']
    have hKinds : n.isDirectory = true ∧ n'.isDirectory = true := by
      cases hRest with
      | here hGains => cases hGains; exact ⟨rfl, rfl⟩
      | through => exact ⟨rfl, rfl⟩
    rw [read_of_isDirectory hNode' hKinds.2, read_of_isDirectory hFound hKinds.1]
  · refine read_congr (h.aside path fun hBelow => ?_)
    rcases List.prefix_concat_iff.1 hBelow with hHere | hAbove
    · exact hOther hHere
    · exact hPrefix hAbove

/-- **Off the file** everything is read as before, and the working directory stays. -/
theorem read_aside_of_put (hKeys : s.root.DistinctKeys) (h : s.put now path content = .ok s') :
    s'.currentPath = s.currentPath ∧
      ∀ other, s.segments other ≠ s.segments path → s'.read other = s.read other := by
  cases hNode : s.node? path with
  | some n =>
    have hWritten := rewritten_of_write hKeys (put_of_node? hNode ▸ h)
    exact ⟨hWritten.currentPath_eq, hWritten.read_aside⟩
  | none =>
    obtain ⟨parents, name, hSegments, hAdded⟩ :=
      added_of_insert hKeys (fun _ => ⟨rfl, rfl⟩) (put_of_node?_eq_none hNode ▸ h)
    refine ⟨hAdded.currentPath_eq, fun other hOther => hAdded.read_aside ?_⟩
    rwa [hSegments] at hOther

end Tree.State

/-! ## What `echo` does -/

namespace Command

/-- What is said when a redirection is refused. -/
def Redirect.refusal (r : Redirect) (fs : FileSystem) : String :=
  if (fs.node? (fs.resolve r.file)).isSome then "echo: cannot write to '" ++ r.file ++ "'"
  else "echo: cannot create file '" ++ r.file ++ "'"

/-- What comes of a redirection. -/
def Redirect.outcome (r : Redirect) (now : Instant) (fs : FileSystem) : Outcome :=
  .ofChange fs (fs.commit <$> fs.state.put now (fs.resolve r.file) r.content) (r.refusal fs)

/-- `echo` prints its arguments as one text, unless they are a redirection. -/
theorem run_echo (now : Instant) (args : List String) (fs : FileSystem) :
    echo.run now args fs =
      match Redirect.parse? (" ".intercalate args) with
      | none => .still fs (.say (" ".intercalate args))
      | some r => r.outcome now fs := by
  simp only [echo]
  cases Redirect.parse? (" ".intercalate args) with
  | none => rfl
  | some r =>
    by_cases hTaken : (fs.node? (fs.resolve r.file)).isSome = true
    · have hPut : fs.state.put now (fs.resolve r.file) r.content
          = fs.state.write now (fs.resolve r.file) r.content := if_pos hTaken
      simp only [Redirect.outcome, Redirect.refusal, if_pos hTaken, hPut]
      rfl
    · have hPut : fs.state.put now (fs.resolve r.file) r.content
          = fs.state.createFile now (fs.resolve r.file) r.content := if_neg hTaken
      simp only [Redirect.outcome, Redirect.refusal, if_neg hTaken, hPut]
      rfl

/-- No line gives `echo` a text with a newline: a newline is a blank. -/
theorem newline_notMem_intercalate {ws : List String} (hWords : ∀ w ∈ ws, IsWord w) :
    '\n' ∉ (" ".intercalate ws).toList := by
  intro hMem
  rcases mem_of_mem_intercalate hMem with hSpace | ⟨w, hw, hChar⟩
  · revert hSpace
    decide
  · have hBlank := (hWords w hw).blankFree _ hChar
    revert hBlank
    decide

/-- **Redirections of words**: words without a sign, a sign and a word for the file. -/
theorem Redirect.parse?_intercalate {ws : List String} {file : String} (hNonempty : ws ≠ [])
    (hWords : ∀ w ∈ ws ++ [">", file], IsWord w) (hSigns : ∀ w ∈ ws, '>' ∉ w.toList) :
    parse? (" ".intercalate (ws ++ [">", file])) = some ⟨" ".intercalate ws, file⟩ := by
  have hFile : IsWord file := hWords file (by simp)
  have hText : (" ".intercalate (ws ++ [">", file])).toList
      = ((" ".intercalate ws).toList ++ [' ']) ++ '>' :: ' ' :: file.toList := by
    rw [toList_intercalate_append hNonempty (by simp)]
    simp
  have hCut : CutAtSign (" ".intercalate (ws ++ [">", file])).toList
      ((" ".intercalate ws).toList ++ [' ']) (' ' :: file.toList) := by
    refine ⟨hText, by simp, fun hMem => ?_⟩
    rcases List.mem_append.1 (List.mem_of_mem_tail hMem) with hContent | hSpace
    · rcases mem_of_mem_intercalate hContent with hSpace | ⟨w, hw, hSign⟩
      · revert hSpace
        decide
      · exact hSigns w hw hSign
    · revert hSpace
      decide
  have hSpace : IsGap [' '] := by simp [IsGap]; decide
  have hContent : trim ((" ".intercalate ws).toList ++ [' ']) = (" ".intercalate ws).toList := by
    rw [trim_append_gap hSpace, trim_intercalate fun w hw => hWords w (by simp [hw])]
  have hName : trim (' ' :: file.toList) = file.toList := by
    have hOne := trim_intercalate (List.forall_mem_singleton.2 hFile)
    rw [String.intercalate_singleton] at hOne
    exact (trim_gap_append hSpace file.toList).trans hOne
  rw [parse?_of_cutAtSign (newline_notMem_intercalate hWords) hCut (by simp), hContent, hName,
    String.ofList_toList, String.ofList_toList]

theorem Redirect.outcome_of_put {r : Redirect} {now : Instant} {fs : FileSystem} {s : State}
    (h : fs.state.put now (fs.resolve r.file) r.content = .ok s) :
    r.outcome now fs = ⟨.silent, fs.commit s, []⟩ := by
  rw [Redirect.outcome, h]
  rfl

/-- A redirection is refused exactly where nothing can be put. -/
theorem Redirect.outcome_isError_iff {r : Redirect} {now : Instant} {fs : FileSystem} :
    (r.outcome now fs).result.isError = true ↔
      fs.state.Unwritable (fs.state.segments (fs.resolve r.file)) := by
  refine Iff.trans ?_ (State.put_isError_iff : (∃ f, fs.state.put now _ r.content = .error f) ↔ _)
  cases hPut : fs.state.put now (fs.resolve r.file) r.content with
  | error f => simp [Redirect.outcome, hPut, Outcome.ofChange, Outcome.still, Result.refuse]
  | ok s => simp [Redirect.outcome_of_put hPut, Result.silent]

end Command

/-! ## Lines -/

namespace Shell

/-- **To print or to write**: a text without a newline is a redirection exactly when something
stands behind its first sign `>` that is not its first character; content and file are what
stands before this sign and behind it, trimmed.  Words joined by spaces hold no newline, so that
this tells of every line for `echo` whether it puts a content into a file or prints its words. -/
theorem echo_iff_cutAtSign :
    (∀ text : String, '\n' ∉ text.toList → ∀ r : Redirect,
      Redirect.parse? text = some r ↔
        ∃ before after, Redirect.CutAtSign text.toList before after ∧ after ≠ [] ∧
          r = ⟨String.ofList (trim before), String.ofList (trim after)⟩) ∧
    ∀ (line first : String) (args : List String), words line = first :: args →
      '\n' ∉ (" ".intercalate args).toList ∧
      ∀ (sh : Shell) (now : Instant), sh.registry = .standard → toLower first = "echo" →
        (∀ before after, Redirect.CutAtSign (" ".intercalate args).toList before after →
          after ≠ [] → sh.handle now line = sh.settle (Redirect.outcome
            ⟨String.ofList (trim before), String.ofList (trim after)⟩ now sh.fs)) ∧
        ((∀ before after, Redirect.CutAtSign (" ".intercalate args).toList before after →
          after = []) → sh.handle now line = (.say (" ".intercalate args), sh)) := by
  refine ⟨fun text hLine r => Redirect.parse?_eq_some_iff hLine, ?_⟩
  intro line first args hWords
  have hLine : '\n' ∉ (" ".intercalate args).toList :=
    newline_notMem_intercalate fun w hw => isWord_of_mem_words (hWords ▸ List.mem_cons_of_mem _ hw)
  refine ⟨hLine, fun sh now hRegistry hVerb => ?_⟩
  have hFind : Registry.standard.find? (toLower first) = some echo := by rw [hVerb]; rfl
  rw [handle_of_words hRegistry hWords hFind, run_echo]
  constructor
  · intro before after hCut hAfter
    rw [Redirect.parse?_of_cutAtSign hLine hCut hAfter]
  · intro hNothing
    -- Any redirection would have a sign with something behind it.
    have hNone : Redirect.parse? (" ".intercalate args) = none := by
      rw [Option.eq_none_iff_forall_ne_some]
      intro r hSome
      obtain ⟨before, after, hCut, hAfter⟩ := Redirect.exists_cutAtSign_of_parse? hSome
      exact hAfter (hNothing before after hCut)
    rw [hNone]
    rfl

theorem echo_iff_cutAtSign_signs :
    Redirect.parse? "> a > b" = some ⟨"> a", "b"⟩ ∧
    Shell.handle { fs := .namesakes } FileSystem.noon "  ECHO > a >\tb>"
      = Shell.settle { fs := .namesakes }
        (Redirect.outcome ⟨"> a", "b>"⟩ FileSystem.noon .namesakes) ∧
    Shell.handle { fs := .namesakes } FileSystem.noon "echo a >"
      = (.say "a >", { fs := .namesakes }) := by
  have hWords : words "  ECHO > a >\tb>" = ["ECHO", ">", "a", ">", "b>"] := by decide
  have hNothing : ∀ before after, Redirect.CutAtSign "a >".toList before after → after = [] := by
    intro before after hCut
    have hText : ['a', ' ', '>'] = before ++ '>' :: after := hCut.eq_append
    match before with
    | [] | [_] => simp at hText
    | [_, _] => simp_all
    | _ :: _ :: _ :: _ => simp at hText
  refine ⟨?_, ?_, ?_⟩
  · exact (echo_iff_cutAtSign.1 "> a > b" (by decide) ⟨"> a", "b"⟩).2
      ⟨"> a ".toList, " b".toList, ⟨by decide, by decide, by decide⟩, by decide, by decide⟩
  · exact ((echo_iff_cutAtSign.2 _ _ _ hWords).2 { fs := .namesakes } FileSystem.noon rfl
      (by decide)).1 "> a ".toList " b>".toList ⟨by decide, by decide, by decide⟩ (by decide)
  · exact ((echo_iff_cutAtSign.2 "echo a >" "echo" ["a", ">"] (by decide)).2
      { fs := .namesakes } FileSystem.noon rfl (by decide)).2 hNothing

section ReadBack

variable {sh : Shell} {ws : List String} {file content line next : String}

theorem handle_echo (hRegistry : sh.registry = .standard) (hNonempty : ws ≠ [])
    (hSigns : ∀ w ∈ ws, '>' ∉ w.toList)
    (hLine : Spaced ("echo" :: (ws ++ [">", file])) line.toList) (now : Instant) :
    sh.handle now line
      = sh.settle (Redirect.outcome ⟨" ".intercalate ws, file⟩ now sh.fs) := by
  have hWords : ∀ w ∈ ws ++ [">", file], IsWord w := fun w hw =>
    hLine.isWord w (List.mem_cons_of_mem _ hw)
  have hFind : Registry.standard.find? (toLower "echo") = some echo := rfl
  rw [handle_of_words hRegistry (words_eq_iff.2 hLine) hFind, run_echo,
    Redirect.parse?_intercalate hNonempty hWords hSigns]

theorem handle_cat (hRegistry : sh.registry = .standard)
    (hLine : Spaced ["cat", file] line.toList) (now : Instant)
    (hRead : sh.fs.read (sh.fs.resolve file) = .ok content) :
    sh.handle now line = (.say content, sh) := by
  have hFind : Registry.standard.find? (toLower "cat") = some cat := rfl
  rw [handle_of_words hRegistry (words_eq_iff.2 hLine) hFind]
  simp only [settle, cat, hRead]
  rfl

/-- **Read back**: a line for `echo` that puts words without a sign into a file is refused
exactly where nothing can be written.  When it is not, the next line for `cat` prints the words
joined by single spaces, every other file is read as before, and the working directory stays. -/
theorem cat_after_echo {fs : FileSystem} (hKeys : fs.state.root.DistinctKeys) (hNonempty : ws ≠ [])
    (hSigns : ∀ w ∈ ws, '>' ∉ w.toList)
    (hLine : Spaced ("echo" :: (ws ++ [">", file])) line.toList)
    (hNext : Spaced ["cat", file] next.toList) (session : Session) (now later : Instant) :
    let sh : Shell := { fs, session }
    let keys := fs.state.segments (fs.resolve file)
    let result := (sh.handle now line).1
    let after := (sh.handle now line).2
    (result.isError = true ↔ fs.state.Unwritable keys) ∧
    (result.isError = false →
      (after.handle later next).1 = .say (" ".intercalate ws) ∧
      after.fs.currentPath = fs.currentPath ∧
      ∀ path, fs.state.segments path ≠ keys →
        after.fs.state.read path = fs.state.read path) := by
  intro sh keys result after
  have hEcho : sh.handle now line
      = sh.settle (Redirect.outcome ⟨" ".intercalate ws, file⟩ now fs) :=
    handle_echo rfl hNonempty hSigns hLine now
  have hResult : result = (Redirect.outcome ⟨" ".intercalate ws, file⟩ now fs).result :=
    congrArg Prod.fst hEcho
  have hSettled : after = (sh.settle (Redirect.outcome ⟨" ".intercalate ws, file⟩ now fs)).2 :=
    congrArg Prod.snd hEcho
  have hRefused : result.isError = true ↔ fs.state.Unwritable keys := by
    rw [hResult]
    exact Redirect.outcome_isError_iff
  refine ⟨hRefused, fun hQuiet => ?_⟩
  have hWritable : ¬ fs.state.Unwritable keys := by
    rw [← hRefused, hQuiet]
    exact Bool.false_ne_true
  obtain ⟨s, hPut⟩ := State.exists_put_eq_ok hWritable
  obtain ⟨hPath, hAside⟩ := State.read_aside_of_put hKeys hPut
  have hOutcome : Redirect.outcome ⟨" ".intercalate ws, file⟩ now fs = ⟨.silent, fs.commit s, []⟩ :=
    Redirect.outcome_of_put hPut
  rw [hOutcome] at hSettled
  -- The file is resolved anew, from the working directory that stayed.
  have hSame : after.fs.resolve file = fs.resolve file := by
    rw [FileSystem.resolve, hSettled]
    exact congrArg (Path.resolve · file) hPath
  have hRead : after.fs.read (after.fs.resolve file) = .ok (" ".intercalate ws) := by
    rw [hSame, hSettled]
    exact State.read_of_put hPut
  refine ⟨?prints, ?stays, ?others⟩
  case prints =>
    have hRegistry : after.registry = .standard := by
      rw [hSettled]
      rfl
    rw [handle_cat hRegistry hNext later hRead]
  case stays =>
    rw [hSettled]
    exact hPath
  case others =>
    rw [hSettled]
    exact hAside

theorem cat_after_echo_namesakes :
    let sh : Shell := { fs := .namesakes }
    let after := (sh.handle FileSystem.noon "\techo é  b > ../a>").2
    FileSystem.namesakes.state.root.DistinctKeys ∧
      (after.handle FileSystem.noon " cat\t../a> ").1 = .say "é b" ∧
      after.fs.currentPath = FileSystem.namesakes.currentPath ∧
      after.fs.state.read "/blog/a" = FileSystem.namesakes.state.read "/blog/a" := by
  have hSigns : ∀ w ∈ ["é", "b"], '>' ∉ w.toList := by decide
  have hLine : Spaced ("echo" :: (["é", "b"] ++ [">", "../a>"])) "\techo é  b > ../a>".toList :=
    words_eq_iff.1 (by decide)
  have hNext : Spaced ["cat", "../a>"] " cat\t../a> ".toList := words_eq_iff.1 (by decide)
  have hText : " ".intercalate ["é", "b"] = "é b" := by decide
  obtain ⟨-, hGranted⟩ := cat_after_echo FileSystem.distinctKeys_namesakes
    (List.cons_ne_nil _ _) hSigns hLine hNext {} FileSystem.noon FileSystem.noon
  rw [hText] at hGranted
  obtain ⟨hPrinted, hPath, hAside⟩ := hGranted (by decide +kernel)
  exact ⟨FileSystem.distinctKeys_namesakes, hPrinted, hPath, hAside "/blog/a" (by decide +kernel)⟩

end ReadBack

end Shell

end TreeShell
