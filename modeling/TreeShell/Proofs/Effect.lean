import Mathlib.Tactic.Common
import TreeShell.Proofs.Line
import TreeShell.Script

/-!
# What reaches the file system

Everything that a line, a direct use of the file system or the seeding does is told by the
state and the session that it finds, whatever the store below: it answers, leaves a session,
and takes a chain of steps, saving each state as it is taken (`Upshot`).  In particular only
saved steps reach the file system (`FileSystem.Saves`).

Main statements: `Action.settles`, `Shell.saves_act`, `Saves.invariant`.
-/

namespace TreeShell

open TreeShell.Command TreeShell.Time TreeShell.Tree

/-! ## Chains of steps -/

/-- Whether one state comes after another by a step at an instant; the step may set the
working directories that `goes` tells of the state before. -/
def Tree.State.Leads (goes : State → String → Prop) (now : Instant) (s s' : State) : Prop :=
  s.Step (goes s) now s'

namespace Tree.State

theorem isChain_pair {goes : State → String → Prop} {now : Instant} {s s' : State}
    (h : s.Step (goes s) now s') : [s, s'].IsChain (Leads goes now) :=
  .cons_cons h (.singleton s')

/-- A chain goes on from its last state. -/
theorem isChain_append {Leads : State → State → Prop} {s : State} {states rest : List State}
    (h : (s :: states).IsChain Leads) (hRest : (states.getLastD s :: rest).IsChain Leads) :
    (s :: (states ++ rest)).IsChain Leads := by
  induction states generalizing s with
  | nil => exact hRest
  | cons s' states ih =>
    obtain ⟨hStep, hTail⟩ := List.isChain_cons_cons.1 h
    rw [List.getLastD_cons] at hRest
    exact List.isChain_cons_cons.2 ⟨hStep, ih hTail hRest⟩

end Tree.State

namespace FileSystem

/-! ## Saved steps -/

/-- The file systems reached from one by steps at an instant, each saved as it is taken;
in a state `s` a step may set the working directories that `goes s` tells. -/
inductive Saves (goes : State → String → Prop) (now : Instant) (fs : FileSystem) :
    FileSystem → Prop where
  | still : Saves goes now fs fs
  | commit {mid : FileSystem} {s : State} (hBefore : Saves goes now fs mid)
      (hStep : mid.state.Step (goes mid.state) now s) : Saves goes now fs (mid.commit s)

variable {goes : State → String → Prop} {now : Instant} {fs mid last : FileSystem}

theorem Saves.single {s : State} (h : fs.state.Step (goes fs.state) now s) :
    Saves goes now fs (fs.commit s) :=
  .commit .still h

theorem Saves.trans (h₁ : Saves goes now fs mid) (h₂ : Saves goes now mid last) :
    Saves goes now fs last := by
  induction h₂ with
  | still => exact h₁
  | commit _ hStep ih => exact .commit ih hStep

theorem Saves.key_eq (h : Saves goes now fs last) : last.key = fs.key := by
  induction h with
  | still => rfl
  | commit _ _ ih => exact ih

/-- What every step keeps, a chain of steps keeps. -/
theorem Saves.invariant {I : State → Prop}
    (hI : ∀ s s', I s → s.Step (goes s) now s' → I s') (h : Saves goes now fs last)
    (hs : I fs.state) : I last.state := by
  induction h with
  | still => exact hs
  | commit _ hStep ih => exact hI _ _ ih hStep

/-! ## States saved in order -/

theorem state_foldl_commit (states : List State) (fs : FileSystem) :
    (states.foldl commit fs).state = states.getLastD fs.state := by
  induction states generalizing fs with
  | nil => rfl
  | cons s rest ih => rw [List.foldl_cons, ih, List.getLastD_cons, commit]

theorem saves_of_isChain {states : List State}
    (h : (fs.state :: states).IsChain (State.Leads goes now)) :
    Saves goes now fs (states.foldl commit fs) := by
  induction states generalizing fs with
  | nil => exact .still
  | cons s rest ih =>
    obtain ⟨hStep, hRest⟩ := List.isChain_cons_cons.1 h
    have hHead : Saves goes now fs (fs.commit s) := .single hStep
    exact hHead.trans (ih hRest)

end FileSystem

/-! ## Actions -/

/-- Whether an action changes what is around the shell: the store or the file system as
such, and not the state through an operation. -/
def Action.isOutside : Action → Bool
  | .reopen _ | .faults _ _ | .put _ _ => true
  | _ => false

/-- The working directories that an action may set in a state. -/
def Action.Goes : Action → State → String → Prop
  | .handle _, s, path | .submit _, s, path => FileSystem.LineGoes s path
  | .setCurrentPath p, _, path => path = p
  | _, _, _ => False

/-- What comes of an action: its answer, the session after it, and the states that it saves
in order. -/
structure Upshot where
  answer : Answer
  session : Session
  saved : List State

/-- The upshot as it comes to a shell. -/
def Upshot.on (u : Upshot) (sh : Shell) : Answer × Shell :=
  (u.answer, { sh with fs := u.saved.foldl FileSystem.commit sh.fs, session := u.session })

/-- Whether an action comes to one upshot in all shells with a state and a session. -/
def Action.Settles (a : Action) (now : Instant) (s : State) (session : Session) : Prop :=
  ∃ u : Upshot, (s :: u.saved).IsChain (State.Leads a.Goes now) ∧
    ∀ sh : Shell, sh.registry = .standard → sh.fs.state = s → sh.session = session →
      sh.act now a = u.on sh

/-! ## Lines -/

namespace Shell

variable {now : Instant}

theorem exists_handle_eq (s : State) (session : Session) (now : Instant) (line : String) :
    ∃ (result : Result) (session' : Session) (states : List State),
      (s :: states).IsChain (State.Leads FileSystem.LineGoes now) ∧
      ∀ sh : Shell, sh.registry = .standard → sh.fs.state = s → sh.session = session →
        sh.handle now line
          = (result, { sh with
              fs := states.foldl FileSystem.commit sh.fs
              session := session' }) := by
  obtain ⟨reply, hAllowed, hHandle⟩ := replies_handle s now line
  -- Only a reply that saves takes a step, and only one that prints sends signals.
  cases hAllowed with
  | refuse text =>
    refine ⟨.refuse text, session, [], .singleton s, ?_⟩
    rintro sh hRegistry hState rfl
    exact hHandle sh hRegistry hState
  | @save s' _ hStep =>
    refine ⟨.silent, session, [s'], State.isChain_pair hStep, ?_⟩
    rintro sh hRegistry hState rfl
    exact hHandle sh hRegistry hState
  | say text signals =>
    refine ⟨.say text, signals.foldl Session.heed session, [], .singleton s, ?_⟩
    rintro sh hRegistry hState rfl
    exact hHandle sh hRegistry hState

theorem settles_handle (s : State) (session : Session) (line : String) :
    (Action.handle line).Settles now s session := by
  obtain ⟨result, session', states, hChain, hHandle⟩ := exists_handle_eq s session now line
  refine ⟨⟨.result result, session', states⟩, hChain, ?_⟩
  intro sh hRegistry hState hSession
  simp only [act, hHandle sh hRegistry hState hSession]
  rfl

theorem settles_submit (s : State) (session : Session) (line : String) :
    (Action.submit line).Settles now s session := by
  by_cases hBlank : Text.allBlank line = true
  · -- A line of blanks is dropped before it is run.
    refine ⟨⟨.nothing, session, []⟩, .singleton s, ?_⟩
    rintro sh - - rfl
    simp only [act, submit, hBlank, if_true]
    rfl
  · obtain ⟨result, session', states, hChain, hHandle⟩ := exists_handle_eq s session now line
    refine ⟨⟨.result result, session'.record line result, states⟩, hChain, ?_⟩
    intro sh hRegistry hState hSession
    simp only [act, submit, hBlank, hHandle sh hRegistry hState hSession]
    rfl

/-! ## Operations -/

theorem settles_change {a : Action} {s : State} {session : Session}
    {change : Except Failure State}
    (hStep : ∀ s', change = .ok s' → s.Step (a.Goes s) now s')
    (h : ∀ sh : Shell, sh.fs.state = s → sh.act now a = sh.change (sh.fs.commit <$> change)) :
    a.Settles now s session := by
  cases change with
  | error f =>
    refine ⟨⟨.refusal f, session, []⟩, .singleton s, ?_⟩
    rintro sh - hState rfl
    exact h sh hState
  | ok s' =>
    refine ⟨⟨.done, session, [s']⟩, State.isChain_pair (hStep s' rfl), ?_⟩
    rintro sh - hState rfl
    exact h sh hState

theorem settles_ask {α : Type} {a : Action} {s : State} {session : Session}
    (answer : α → Answer) (question : Except Failure α)
    (h : ∀ sh : Shell, sh.fs.state = s → sh.act now a = sh.ask answer question) :
    a.Settles now s session := by
  cases question with
  | error f =>
    refine ⟨⟨.refusal f, session, []⟩, .singleton s, ?_⟩
    rintro sh - hState rfl
    exact h sh hState
  | ok x =>
    refine ⟨⟨answer x, session, []⟩, .singleton s, ?_⟩
    rintro sh - hState rfl
    exact h sh hState

end Shell

/-! ## Seeding -/

namespace FileSystem

variable {goes : State → String → Prop} {now : Instant}

theorem exists_addPost_eq (s : State) (count : Nat) (post : Content.Post) :
    ∃ (count' : Nat) (states : List State), (s :: states).IsChain (State.Leads goes now) ∧
      ∀ fs : FileSystem, fs.state = s →
        addPost now (count, fs) post = (count', states.foldl commit fs) := by
  -- A post that is there already is left alone, and one that is refused is not counted.
  cases hTaken : (s.node? (postPath post)).isSome with
  | true =>
    refine ⟨count, [], .singleton s, ?_⟩
    intro fs hState
    simp only [addPost, node?, hState, hTaken, if_true]
    rfl
  | false =>
    cases hCreate : s.createFile now (postPath post) post.content with
    | error f =>
      refine ⟨count, [], .singleton s, ?_⟩
      intro fs hState
      simp only [addPost, node?, createFile, hState, hTaken, hCreate]
      rfl
    | ok s' =>
      refine ⟨count + 1, [s'], State.isChain_pair (State.step_of_createFile hCreate), ?_⟩
      intro fs hState
      simp only [addPost, node?, createFile, hState, hTaken, hCreate]
      rfl

theorem exists_foldl_addPost_eq (posts : List Content.Post) (s : State) (count : Nat) :
    ∃ (count' : Nat) (states : List State), (s :: states).IsChain (State.Leads goes now) ∧
      ∀ fs : FileSystem, fs.state = s →
        posts.foldl (addPost now) (count, fs) = (count', states.foldl commit fs) := by
  -- Post by post: each is added to the last state of the chain so far.
  induction posts generalizing s count with
  | nil => exact ⟨count, [], .singleton s, fun _ _ => rfl⟩
  | cons post posts ih =>
    obtain ⟨mid, states, hChain, hHead⟩ := @exists_addPost_eq goes now s count post
    obtain ⟨last, rest, hRest, hTail⟩ := ih (states.getLastD s) mid
    refine ⟨last, states ++ rest, State.isChain_append hChain hRest, ?_⟩
    intro fs hState
    have hMid : (states.foldl commit fs).state = states.getLastD s := by
      rw [state_foldl_commit, hState]
    rw [List.foldl_cons, hHead fs hState, hTail _ hMid, List.foldl_append]

theorem exists_seed_eq (posts : List Content.Post) (s : State) :
    ∃ (count : Nat) (states : List State), (s :: states).IsChain (State.Leads goes now) ∧
      ∀ fs : FileSystem, fs.state = s → fs.seed now posts = (count, states.foldl commit fs) := by
  cases hBlog : (s.node? blogPath).any Node.isDirectory with
  | false =>
    refine ⟨0, [], .singleton s, ?_⟩
    intro fs hState
    simp only [seed, node?, hState, hBlog]
    rfl
  | true =>
    obtain ⟨count, states, hChain, hFold⟩ := @exists_foldl_addPost_eq goes now posts s 0
    refine ⟨count, states, hChain, ?_⟩
    intro fs hState
    simp only [seed, node?, hState, hBlog, if_true]
    exact hFold fs hState

end FileSystem

/-! ## Every action -/

/-- **Actions**: an action on the shell comes to one upshot in all shells with a state and a
session, and takes a chain of steps. -/
theorem Action.settles {a : Action} (hInside : a.isOutside = false) (now : Instant) (s : State)
    (session : Session) : a.Settles now s session := by
  cases a with
  | handle line => exact Shell.settles_handle s session line
  | submit line => exact Shell.settles_submit s session line
  | setCurrentPath path =>
    refine ⟨⟨.nothing, session, [s.setCurrentPath path]⟩, State.isChain_pair (.go rfl), ?_⟩
    rintro sh - rfl rfl
    rfl
  | createFile path content =>
    apply Shell.settles_change fun _ => State.step_of_createFile
    rintro sh rfl
    rfl
  | createDirectory path =>
    apply Shell.settles_change fun _ => State.step_of_createDirectory
    rintro sh rfl
    rfl
  | delete path =>
    apply Shell.settles_change fun _ => State.step_of_delete
    rintro sh rfl
    rfl
  | write path content =>
    apply Shell.settles_change fun _ => State.step_of_write
    rintro sh rfl
    rfl
  | read path =>
    apply Shell.settles_ask .content (s.read path)
    rintro sh rfl
    rfl
  | list path =>
    apply Shell.settles_ask .listing (s.list path)
    rintro sh rfl
    rfl
  | seed posts =>
    obtain ⟨count, states, hChain, hSeed⟩ := FileSystem.exists_seed_eq posts s
    refine ⟨⟨.count count, session, states⟩, hChain, ?_⟩
    rintro sh - hState rfl
    simp only [Shell.act, hSeed sh.fs hState]
    rfl
  | reset =>
    refine ⟨⟨.nothing, session, [.initial now]⟩, State.isChain_pair .restart, ?_⟩
    rintro sh - rfl rfl
    rfl
  | reopen key => simp [isOutside] at hInside
  | faults reads writes => simp [isOutside] at hInside
  | put key text => simp [isOutside] at hInside

namespace Shell

variable {sh : Shell} {now : Instant}

/-- An action on the shell reaches the file system through saved steps only. -/
theorem saves_act (hRegistry : sh.registry = .standard) {a : Action}
    (hInside : a.isOutside = false) : sh.fs.Saves a.Goes now (sh.act now a).2.fs := by
  obtain ⟨u, hChain, hAct⟩ := Action.settles hInside now sh.fs.state sh.session
  rw [hAct sh hRegistry rfl rfl]
  exact FileSystem.saves_of_isChain hChain

theorem ask_snd {α : Type} (answer : α → Answer) (e : Except Failure α) :
    (sh.ask answer e).2 = sh := by
  cases e <;> rfl

theorem act_submit_snd (line : String) :
    (sh.act now (.submit line)).2 = (sh.submit now line).2 := by
  simp only [act]
  rcases sh.submit now line with ⟨_ | result, after⟩ <;> rfl

theorem registry_act (now : Instant) (a : Action) :
    (sh.act now a).2.registry = sh.registry := by
  -- A line changes the file system and the session only.
  have hHandle : ∀ line, (sh.handle now line).2.registry = sh.registry := by
    intro line
    unfold handle
    split
    · rfl
    · split <;> rfl
  have hChange : ∀ change, (sh.change change).2.registry = sh.registry := by
    rintro (_ | _) <;> rfl
  cases a with
  | handle line => exact hHandle line
  | submit line =>
    rw [act_submit_snd, submit]
    split
    · rfl
    · exact hHandle line
  | read path => simp only [act, ask_snd]
  | list path => simp only [act, ask_snd]
  | createFile | createDirectory | delete | write => exact hChange _
  | setCurrentPath | seed | reset | reopen | faults | put => rfl

end Shell

end TreeShell
