import Mathlib.Data.List.Induction
import TreeShell.Proofs.Command.Directories
import TreeShell.Proofs.Text.Words
import TreeShell.Proofs.WorkingDirectory

/-!
# The root in the prompt

The prompt shows a tilde for the one path `/`, while every path of slashes leads to the root.  All
ways to the root end at `/` but one: `cd` takes an absolute argument as it stands, so after `cd //`
the working directory is the root and the prompt shows the two slashes, until a `cd` that goes
somewhere else.

## Layers

- `Path.resolve_eq_of_segments_eq_nil`: the arguments that lead to the root, and how they spell it;
- `currentPath_act_of_does_cd`, `currentPath_act_of_stays`: what an action makes of the working
  directory;
- `WentLast`: the arguments of the last `cd` that went anywhere;
- `currentPath_of_wentLast`, `currentPath_eq_or_wentLast`: how a run spells the root;
- `prompt_eq_iff`, `prompt_play`.
-/

namespace TreeShell

open TreeShell.Command TreeShell.Path TreeShell.Text TreeShell.Time TreeShell.Tree

/-! ## Spellings of the root -/

namespace Path

/-- Whether a path leads to the root and is spelled otherwise than the root is shown. -/
def IsSpareRoot (path : String) : Prop :=
  segments path = [] ∧ path ≠ "/"

instance (path : String) : Decidable (IsSpareRoot path) :=
  inferInstanceAs (Decidable (_ ∧ _))

/-- A path that leads to the root from everywhere begins there. -/
theorem isAbsolute_of_segments_eq_nil {path : String} (hNonempty : path ≠ "")
    (h : segments path = []) : isAbsolute path = true := by
  have hChars : path.toList ≠ [] := fun hNil => hNonempty (String.toList_inj.1 hNil)
  obtain ⟨c, cs, hPath⟩ := List.exists_cons_of_ne_nil hChars
  by_cases hSlash : c = '/'
  · simp [isAbsolute, hPath, hSlash]
  · -- The first piece has a character.
    obtain ⟨p, ps, hSplit⟩ := List.exists_cons_of_ne_nil (List.splitOn_ne_nil '/' cs)
    simp [segments, pieces, hPath, List.splitOn_cons_eq_if_modifyHead, hSlash, hSplit] at h

theorem join_eq_root {segs : List String} (hSegs : ∀ name ∈ segs, IsSegment name)
    (h : segments (join segs) = []) : join segs = "/" := by
  obtain rfl : segs = [] := (segments_join hSegs).symm.trans h
  decide

/-- An argument that leads to the root is the root as it is shown, the working directory itself, or
taken as it stands. -/
theorem resolve_eq_of_segments_eq_nil {cwd arg : String} (hNonempty : arg ≠ "")
    (h : segments (resolve cwd arg) = []) :
    resolve cwd arg = "/" ∨ arg = "." ∨ (resolve cwd arg = arg ∧ segments arg = []) := by
  cases hAbsolute : isAbsolute arg with
  | true =>
    have hItself : resolve cwd arg = arg := resolve_of_isAbsolute hAbsolute
    exact .inr (.inr ⟨hItself, hItself ▸ h⟩)
  | false =>
    by_cases hDot : arg = "."
    · exact .inr (.inl hDot)
    · by_cases hClimbs : Climbs arg
      · -- A climb ends in a joined path.
        rw [resolve_of_climbs hClimbs] at h ⊢
        have hSegs : ∀ name ∈ (segments arg).foldl step (segments cwd), IsSegment name :=
          isSegment_of_mem_foldl_step (fun _ => isSegment_of_mem_segments)
            fun _ => isSegment_of_mem_segments
        exact .inl (join_eq_root hSegs h)
      · rw [segments_resolve_of_plain hAbsolute hDot hClimbs] at h
        have hRoot := isAbsolute_of_segments_eq_nil hNonempty (List.append_eq_nil_iff.1 h).2
        exact absurd hRoot (Bool.eq_false_iff.1 hAbsolute)

end Path

namespace Shell

variable {sh : Shell} {now : Instant} {a : Action} {args : List String}
  {script : List (Instant × Action)} {store : Store} {key : String} {start : Instant}

/-! ## Actions -/

/-- Where `cd` goes from a working directory. -/
def destination (cwd : String) : List String → String
  | [] => "/"
  | arg :: _ => resolve cwd arg

theorem currentPath_act_of_does_cd (hDoes : sh.Does now a "cd" args)
    (hRegistry : sh.registry = .standard) :
    (sh.act now a).2.fs.currentPath = destination sh.fs.currentPath args := by
  obtain ⟨c, hFind, hDone, hAct⟩ := hDoes.exists_run hRegistry
  obtain rfl : cd = c := Option.some.inj hFind
  rw [hAct]
  cases args with
  | nil => rfl
  | cons arg rest =>
    rw [run_cd_of_directory (isError_cd_iff.1 hDone)]
    rfl

theorem Does.arg_ne_empty {name arg : String} (h : sh.Does now a name (arg :: args)) :
    arg ≠ "" := by
  obtain ⟨line, first, -, hWords, -, -⟩ := h
  have hMem : arg ∈ words line := by simp [hWords]
  exact (isWord_of_mem_words hMem).nonempty

/-- Whether an action is no `cd`, one that is refused, or one that stays at the dot. -/
def Stays (sh : Shell) (now : Instant) (a : Action) : Prop :=
  ∀ args, sh.Does now a "cd" args → args.head? = some "."

theorem currentPath_act_of_stays (hCourse : sh.Course now a (sh.act now a).2.fs.state)
    (hRegistry : sh.registry = .standard) (h : sh.Stays now a) :
    (sh.act now a).2.fs.currentPath = sh.fs.currentPath := by
  by_cases hCd : ∃ args, sh.Does now a "cd" args
  · obtain ⟨args, hDoes⟩ := hCd
    obtain ⟨rest, rfl⟩ := List.head?_eq_some_iff.1 (h args hDoes)
    rw [currentPath_act_of_does_cd hDoes hRegistry, destination, resolve_dot]
  · by_contra hMoved
    exact hCd (hCourse.does_cd_of_ne hMoved)

/-! ## Runs -/

/-- Whether the last `cd` of a script that went anywhere had these arguments. -/
inductive WentLast (sh : Shell) : List (Instant × Action) → List String → Prop where
  /-- It is the last action. -/
  | go {script : List (Instant × Action)} {now : Instant} {a : Action} {args : List String}
      (hDoes : (sh.play script).2.Does now a "cd" args) (hGoes : args.head? ≠ some ".") :
      WentLast sh (script ++ [(now, a)]) args
  /-- It stands before the last action, which stays. -/
  | stay {script : List (Instant × Action)} {now : Instant} {a : Action} {args : List String}
      (hBefore : WentLast sh script args) (hStays : (sh.play script).2.Stays now a) :
      WentLast sh (script ++ [(now, a)]) args

/-- A shell over a store. -/
def onStore (store : Store) (key : String) (start : Instant) : Shell :=
  .new (.openAt store key start)

section

variable (hWorks : store.Works) (hStore : store.backend.get key = .ok none)
include hWorks hStore

theorem currentPath_openAt : (FileSystem.openAt store key start).currentPath = "/" := by
  rw [FileSystem.currentPath, state_openAt_of_nothing hWorks hStore]
  rfl

theorem located_before (start : Instant)
    (hLines : ∀ e ∈ script ++ [(now, a)], RunsOrReopens key e.2) :
    Located store key (onStore store key start) script :=
  located_play hWorks hStore start fun e hMem => hLines e (List.mem_append_left _ hMem)

theorem currentPath_concat_of_does_cd
    (hLines : ∀ e ∈ script ++ [(now, a)], RunsOrReopens key e.2)
    (hDoes : ((onStore store key start).play script).2.Does now a "cd" args) :
    ((onStore store key start).play (script ++ [(now, a)])).2.fs.currentPath
      = destination ((onStore store key start).play script).2.fs.currentPath args := by
  have hLocated := located_before hWorks hStore start hLines
  rw [play_concat_snd, currentPath_act_of_does_cd hDoes hLocated.opened.registry]

theorem currentPath_concat_of_stays
    (hLines : ∀ e ∈ script ++ [(now, a)], RunsOrReopens key e.2)
    (hStays : ((onStore store key start).play script).2.Stays now a) :
    ((onStore store key start).play (script ++ [(now, a)])).2.fs.currentPath
      = ((onStore store key start).play script).2.fs.currentPath := by
  have hLocated := located_before hWorks hStore start hLines
  have hAction : RunsOrReopens key a := hLines (now, a) (by simp)
  have hCourse := course_act hLocated.opened hLocated.placed hAction now
  rw [play_concat_snd, currentPath_act_of_stays hCourse hLocated.opened.registry hStays]

/-- Slashes that the last `cd` went to are the working directory. -/
theorem currentPath_of_wentLast {slashes : String} {rest : List String}
    (hLines : ∀ e ∈ script, RunsOrReopens key e.2)
    (h : (onStore store key start).WentLast script (slashes :: rest))
    (hRoot : segments slashes = []) :
    ((onStore store key start).play script).2.fs.currentPath = slashes := by
  generalize hArgs : slashes :: rest = args at h
  induction h with
  | go hDoes =>
    subst hArgs
    have hAbsolute : isAbsolute slashes = true :=
      isAbsolute_of_segments_eq_nil hDoes.arg_ne_empty hRoot
    rw [currentPath_concat_of_does_cd hWorks hStore hLines hDoes, destination,
      resolve_of_isAbsolute hAbsolute]
  | stay _ hStays ih =>
    rw [currentPath_concat_of_stays hWorks hStore hLines hStays]
    exact ih (fun e hMem => hLines e (List.mem_append_left _ hMem)) hArgs

/-- A working directory that is the root is spelled as the root is shown, or with the slashes that
the last `cd` went to. -/
theorem currentPath_eq_or_wentLast (hLines : ∀ e ∈ script, RunsOrReopens key e.2)
    (hRoot : segments ((onStore store key start).play script).2.fs.currentPath = []) :
    ((onStore store key start).play script).2.fs.currentPath = "/" ∨
      ∃ slashes rest, IsSpareRoot slashes ∧
        (onStore store key start).WentLast script (slashes :: rest) := by
  -- From the end: the last action stays, or it is the last `cd` that went anywhere.
  induction script using List.reverseRecOn with
  | nil => exact .inl (currentPath_openAt hWorks hStore)
  | append_singleton script entry ih =>
    obtain ⟨now, a⟩ := entry
    have hBefore : ∀ e ∈ script, RunsOrReopens key e.2 :=
      fun e hMem => hLines e (List.mem_append_left _ hMem)
    by_cases hStays : ((onStore store key start).play script).2.Stays now a
    · -- The working directory is that before the action, and so is the last `cd`.
      rw [currentPath_concat_of_stays hWorks hStore hLines hStays] at hRoot ⊢
      refine (ih hBefore hRoot).imp_right ?_
      rintro ⟨slashes, rest, hSpare, hWent⟩
      exact ⟨slashes, rest, hSpare, hWent.stay hStays⟩
    · obtain ⟨args, hGoes⟩ := not_forall.1 hStays
      obtain ⟨hDoes, hElsewhere⟩ := Classical.not_imp.1 hGoes
      have hWent : (onStore store key start).WentLast (script ++ [(now, a)]) args :=
        .go hDoes hElsewhere
      rw [currentPath_concat_of_does_cd hWorks hStore hLines hDoes] at hRoot ⊢
      cases args with
      | nil => exact .inl rfl
      | cons arg rest =>
        rcases resolve_eq_of_segments_eq_nil hDoes.arg_ne_empty hRoot with
          hShown | rfl | ⟨hItself, hSlashes⟩
        · exact .inl hShown
        · exact absurd rfl hElsewhere
        · by_cases hOne : arg = "/"
          · exact .inl (hItself.trans hOne)
          · exact .inr ⟨arg, rest, ⟨hSlashes, hOne⟩, hWent⟩

end

/-! ## The prompt -/

theorem prompt_eq (h : sh.fs.currentPath ≠ "/") :
    sh.prompt = "user@terminal:" ++ sh.fs.currentPath ++ "$" :=
  congrArg (fun shown => "user@terminal:" ++ shown ++ "$") (if_neg h)

/-- The prompt has a tilde for the root as it is shown, and for no other absolute path. -/
theorem prompt_eq_iff (h : isAbsolute sh.fs.currentPath = true) :
    sh.prompt = "user@terminal:~$" ↔ sh.fs.currentPath = "/" := by
  constructor
  · intro hPrompt
    by_contra hOther
    have hSame : "user@terminal:" ++ sh.fs.currentPath ++ "$" = "user@terminal:" ++ "~" ++ "$" :=
      (prompt_eq hOther).symm.trans hPrompt
    have hTilde : sh.fs.currentPath = "~" :=
      (String.append_right_inj _).1 ((String.append_left_inj _).1 hSame)
    rw [hTilde] at h
    exact absurd h (by decide)
  · intro hRoot
    exact congrArg (fun shown => "user@terminal:" ++ shown ++ "$") (if_pos hRoot)

/-- **The root in the prompt.**  Over a store that works and holds nothing under the key, after a
script of lines and reopenings, the prompt shows a tilde exactly when the working directory is the
root, unless the last `cd` that went anywhere had an argument of more than one slash and nothing
else: then the working directory is the root, and the prompt shows the slashes. -/
theorem prompt_play {store : Store} (hWorks : store.Works) {key : String}
    (hStore : store.backend.get key = .ok none) (start : Instant)
    {script : List (Instant × Action)} (hLines : ∀ e ∈ script, RunsOrReopens key e.2) :
    let sh := Shell.new (.openAt store key start)
    let last := (sh.play script).2
    (last.prompt = "user@terminal:~$" ↔
      segments last.fs.currentPath = [] ∧
        ¬ ∃ slashes rest, IsSpareRoot slashes ∧ sh.WentLast script (slashes :: rest)) ∧
    ∀ slashes rest, IsSpareRoot slashes → sh.WentLast script (slashes :: rest) →
      segments last.fs.currentPath = [] ∧ last.prompt = "user@terminal:" ++ slashes ++ "$" := by
  intro sh last
  have hAbsolute : isAbsolute last.fs.currentPath = true :=
    (located_play hWorks hStore start hLines).placed.isAbsolute
  have hSpelled : ∀ {slashes rest}, IsSpareRoot slashes → sh.WentLast script (slashes :: rest) →
      last.fs.currentPath = slashes :=
    fun hSpare hWent => currentPath_of_wentLast hWorks hStore hLines hWent hSpare.1
  refine ⟨?tilde, fun slashes rest hSpare hWent => ?slashes⟩
  case tilde =>
    rw [prompt_eq_iff hAbsolute]
    constructor
    · intro hRoot
      refine ⟨hRoot ▸ by decide, ?_⟩
      rintro ⟨slashes, rest, hSpare, hWent⟩
      exact hSpare.2 ((hSpelled hSpare hWent).symm.trans hRoot)
    · rintro ⟨hRoot, hNone⟩
      exact (currentPath_eq_or_wentLast hWorks hStore hLines hRoot).resolve_right hNone
  case slashes =>
    have hPath : last.fs.currentPath = slashes := hSpelled hSpare hWent
    have hOther : last.fs.currentPath ≠ "/" := hPath ▸ hSpare.2
    refine ⟨hPath ▸ hSpare.1, ?_⟩
    rw [prompt_eq hOther, hPath]

/-- The root by a climb that goes beyond it. -/
def climbed : List (Instant × Action) :=
  [(default, .handle "cd blog"), (default, .submit "CD ..//../."), (default, .handle "cd .")]

/-- The root by slashes to spare, from which two actions stay. -/
def spared : List (Instant × Action) :=
  [(default, .handle "cd blog"), (default, .submit "CD // now"), (default, .reopen "tree"),
    (default, .handle "cd .")]

theorem wentLast_spared : (Shell.new (.openAt bareStore "tree" default)).WentLast spared
    ["//", "now"] := by
  have hWent : (Shell.new (.openAt bareStore "tree" default)).WentLast
      ([(default, .handle "cd blog")] ++ [(default, .submit "CD // now")]) ["//", "now"] := by
    refine .go ⟨"CD // now", "CD", .inr rfl, ?_, ?_, ?_⟩ (by decide)
    · decide +kernel
    · decide +kernel
    · decide +kernel
  refine (hWent.stay ?reopen).stay ?dot
  case reopen =>
    rintro args ⟨line, first, hRuns | hRuns, -⟩ <;> contradiction
  case dot =>
    rintro args ⟨line, first, hRuns | hRuns, hWords, -⟩
    · obtain rfl : "cd ." = line := Action.handle.inj hRuns
      have hDot : words "cd ." = ["cd", "."] := by decide +kernel
      rw [← (List.cons.inj (hDot.symm.trans hWords)).2]
      rfl
    · contradiction

theorem prompt_play_spared :
    let sh := Shell.new (.openAt bareStore "tree" default)
    (bareStore.Works ∧ bareStore.backend.get "tree" = .ok none ∧
      (∀ e ∈ climbed, RunsOrReopens "tree" e.2) ∧ ∀ e ∈ spared, RunsOrReopens "tree" e.2) ∧
    (∀ slashes rest, IsSpareRoot slashes → ¬ sh.WentLast climbed (slashes :: rest)) ∧
    (sh.play spared).2.prompt = "user@terminal:" ++ "//" ++ "$" := by
  intro sh
  have hWorks : bareStore.Works := ⟨rfl, fun _ => rfl⟩
  have hStore : bareStore.backend.get "tree" = .ok none := rfl
  have hClimbed : ∀ e ∈ climbed, RunsOrReopens "tree" e.2 := by
    simp [climbed, RunsOrReopens, Action.RunsLine]
  have hSpared : ∀ e ∈ spared, RunsOrReopens "tree" e.2 := by
    simp [spared, RunsOrReopens, Action.RunsLine]
  refine ⟨⟨hWorks, hStore, hClimbed, hSpared⟩, ?_, ?_⟩
  · have hPrompt : (sh.play climbed).2.prompt = "user@terminal:~$" := by decide +kernel
    have hNone := ((prompt_play hWorks hStore default hClimbed).1.1 hPrompt).2
    exact fun slashes rest hSpare hWent => hNone ⟨slashes, rest, hSpare, hWent⟩
  · exact ((prompt_play hWorks hStore default hSpared).2 "//" ["now"] (by decide)
      wentLast_spared).2

/-- One line that goes to the root by two slashes. -/
def twoSlashes : List (Instant × Action) :=
  [(default, .handle "cd //")]

/-- From the initial tree, the working directory is the root and the prompt has no tilde. -/
theorem prompt_play_twoSlashes :
    let last := ((Shell.new (.fresh default)).play twoSlashes).2
    (∀ e ∈ twoSlashes, ∃ line, e.2.RunsLine line) ∧
      segments last.fs.currentPath = [] ∧ last.prompt ≠ "user@terminal:~$" := by
  intro last
  have hLines : ∀ e ∈ twoSlashes, ∃ line, e.2.RunsLine line := by
    simp [twoSlashes, Action.RunsLine]
  have hRoot : segments last.fs.currentPath = [] := by decide +kernel
  have hPrompt : last.prompt ≠ "user@terminal:~$" := by decide +kernel
  exact ⟨hLines, hRoot, hPrompt⟩

end Shell

end TreeShell
