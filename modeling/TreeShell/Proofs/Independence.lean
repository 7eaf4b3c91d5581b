import TreeShell.Proofs.Refusal
import TreeShell.Proofs.Tree.Reordering
import TreeShell.Proofs.Tree.Retiming

/-!
# Independent changes

Two changes of the tree whose keys lie apart do not see each other: what one of them finds at
its keys and above them has the kind that it had before the other.  So each comes to the same in
either order, and the trees at the end differ in instants and in the order of siblings only.

## Layers

- `Change`: the four operations that change the tree, with what each of them needs
  (`Change.needs`) and what it does under the last of its keys (`Change.edit`);
- `attempt_eq_ok`, `attempt_eq_error`: a change is told by these two;
- `Change.needs_congr`, `Change.found_after`: what a change needs is told by two kinds, which
  another change leaves;
- `Change.after_comm`: the states at the end;
- `Shell.play_comm_of_apart`: answers and states.
-/

namespace TreeShell

open TreeShell.Time TreeShell.Tree

/-! ## Making a node -/

/-- A node that may be made is added to its parent under the last key. -/
theorem Tree.State.insert_eq_ok_of_creation {s : State} {now : Instant} {op : Operation}
    {path key : String} {make : String → Node} {parents : List String}
    (h : ∀ condition ∈ s.creation (s.segments path), condition.Holds)
    (hKeys : s.segments path = parents ++ [key]) :
    s.insert now op path make = .ok (s.alter now (.addChild key (make key)) parents) := by
  obtain ⟨s', hOk⟩ : ∃ s', s.insert now op path make = .ok s' := exists_insert_eq_ok h
  obtain ⟨parents', key', parent, hKeys', -, -, -, -, rfl⟩ := insert_eq_ok_iff.1 hOk
  obtain ⟨rfl, rfl⟩ := List.append_singleton_inj.1 (hKeys'.symm.trans hKeys)
  exact hOk

/-! ## Changes -/

/-- An operation that changes the tree at a path. -/
inductive Change where
  | createFile (path content : String)
  | createDirectory (path : String)
  | delete (path : String)
  | write (path content : String)

namespace Change

/-- The path that a change is asked for. -/
def path : Change → String
  | .createFile path _ | .createDirectory path | .delete path | .write path _ => path

/-- The operation that a refusal of a change names. -/
def operation : Change → Operation
  | .createFile _ _ => .createFile
  | .createDirectory _ => .createDirectory
  | .delete _ => .delete
  | .write _ _ => .write

/-- A change as an action on a shell. -/
def action : Change → Action
  | .createFile path content => .createFile path content
  | .createDirectory path => .createDirectory path
  | .delete path => .delete path
  | .write path content => .write path content

/-- A change of a state. -/
def attempt (now : Instant) (s : State) : Change → Except Failure State
  | .createFile path content => s.createFile now path content
  | .createDirectory path => s.createDirectory now path
  | .delete path => s.delete now path
  | .write path content => s.write now path content

/-- What a change needs of a state. -/
def needs (s : State) (c : Change) : List Condition :=
  match c with
  | .createFile _ _ | .createDirectory _ => s.creation (s.segments c.path)
  | .delete _ => s.deletion (s.segments c.path)
  | .write _ _ => s.rewriting (s.segments c.path)

/-- What a change does to a node under a key. -/
def edit (now : Instant) (key : String) : Change → Node → Node
  | .createFile _ content => .addChild key (.newFile key content now)
  | .createDirectory _ => .addChild key (.newDirectory key now)
  | .delete _ => .removeChild key
  | .write _ content => .mapChild key fun n => .setContent content (n.stamp now)

variable {now now' : Instant} {s s' : State} {c : Change} {key : String}
  {parents : List String}

theorem editsUnder_edit (now : Instant) (key : String) (c : Change) :
    Node.EditsUnder key (c.edit now key) := by
  cases c with
  | createFile path content => exact .add _
  | createDirectory path => exact .add _
  | delete path => exact .remove
  | write path content =>
    rw [edit]
    exact .change _

/-! ## What a change comes to -/

theorem keys_ne_nil (h : ∀ condition ∈ c.needs s, condition.Holds) : s.segments c.path ≠ [] := by
  -- Each list of conditions begins with this one.
  cases c with
  | createFile | createDirectory =>
    exact h ⟨.invalidArgument, _⟩ (by simp [needs, State.creation])
  | delete => exact h ⟨.invalidArgument, _⟩ (by simp [needs, State.deletion])
  | write => exact h ⟨.invalidArgument, _⟩ (by simp [needs, State.rewriting])

/-- A change whose needs are met edits the parent under the last key. -/
theorem attempt_eq_ok (h : ∀ condition ∈ c.needs s, condition.Holds)
    (hKeys : s.segments c.path = parents ++ [key]) (now : Instant) :
    c.attempt now s = .ok (s.alter now (c.edit now key) parents) := by
  cases c with
  | createFile | createDirectory => exact State.insert_eq_ok_of_creation h hKeys
  | delete path =>
    obtain ⟨s', hOk⟩ : ∃ s', s.delete now path = .ok s' := State.exists_delete_eq_ok h
    obtain ⟨parents', key', hKeys', -, -, rfl⟩ := State.delete_eq_ok_iff.1 hOk
    obtain ⟨rfl, rfl⟩ := List.append_singleton_inj.1 (hKeys'.symm.trans hKeys)
    exact hOk
  | write path content =>
    obtain ⟨s', hOk⟩ : ∃ s', s.write now path content = .ok s' := State.exists_write_eq_ok h
    obtain ⟨n, -, -, -, rfl⟩ := State.write_eq_ok_iff.1 hOk
    -- The walk to the file is the walk to its parent, and the file is stamped there as well.
    have hWalk : s.alter now (Node.setContent content) (s.segments path)
        = s.alter now ((Change.write path content).edit now key) parents := by
      have hPath : s.segments path = parents ++ [key] := hKeys
      rw [hPath, State.alter, Node.alter_concat]
      rfl
    rw [← hWalk]
    exact hOk

theorem attempt_eq_error {cause : Cause} (h : FirstFailing (c.needs s) cause) (now : Instant) :
    c.attempt now s = .error ⟨cause, c.operation, c.path⟩ := by
  cases c with
  | createFile path content => exact State.insert_eq_error h
  | createDirectory path => exact State.insert_eq_error h
  | delete path => exact State.delete_eq_error h
  | write path content => exact State.write_eq_error h

/-- What a change is refused for, if it is. -/
def refusal? (now : Instant) (s : State) (c : Change) : Option Failure :=
  match c.attempt now s with
  | .ok _ => none
  | .error f => some f

/-- The state after a change, made or refused. -/
def after (now : Instant) (s : State) (c : Change) : State :=
  match c.attempt now s with
  | .ok s' => s'
  | .error _ => s

theorem act_action (sh : Shell) (now : Instant) (c : Change) :
    sh.act now c.action = sh.change (sh.fs.commit <$> c.attempt now sh.fs.state) := by
  cases c <;> rfl

theorem act_action_fst (sh : Shell) (now : Instant) (c : Change) :
    (sh.act now c.action).1 = (c.refusal? now sh.fs.state).elim .done .refusal := by
  rw [act_action, refusal?]
  cases c.attempt now sh.fs.state <;> rfl

theorem state_act_action (sh : Shell) (now : Instant) (c : Change) :
    (sh.act now c.action).2.fs.state = c.after now sh.fs.state := by
  rw [act_action, after]
  cases c.attempt now sh.fs.state <;> rfl

/-- A change is made under the last of its keys, or refused and leaves the state. -/
theorem after_eq_or (now : Instant) (s : State) (c : Change) :
    (c.refusal? now s ≠ none ∧ c.after now s = s) ∨
      ∃ parents key, s.segments c.path = parents ++ [key] ∧
        c.refusal? now s = none ∧ c.after now s = s.alter now (c.edit now key) parents := by
  rcases all_or_firstFailing (c.needs s) with hAll | ⟨cause, hFirst⟩
  · obtain ⟨parents, key, hKeys⟩ :=
      (List.eq_nil_or_concat' (s.segments c.path)).resolve_left (keys_ne_nil hAll)
    have hOk := attempt_eq_ok hAll hKeys now
    exact .inr ⟨parents, key, hKeys, by rw [refusal?, hOk], by rw [after, hOk]⟩
  · have hError := attempt_eq_error hFirst now
    exact .inl ⟨by rw [refusal?, hError]; nofun, by rw [after, hError]⟩

theorem after_eq_self (hRefused : c.refusal? now s ≠ none) : c.after now s = s := by
  rcases after_eq_or now s c with ⟨-, hAfter⟩ | ⟨-, -, -, hMade, -⟩
  · exact hAfter
  · exact absurd hMade hRefused

/-- A change that is not refused is made under the last of its keys. -/
theorem after_eq_alter (hMade : c.refusal? now s = none)
    (hKeys : s.segments c.path = parents ++ [key]) :
    c.after now s = s.alter now (c.edit now key) parents := by
  rcases after_eq_or now s c with ⟨hRefused, -⟩ | ⟨parents', key', hKeys', -, hAfter⟩
  · exact absurd hMade hRefused
  · obtain ⟨rfl, rfl⟩ := List.append_singleton_inj.1 (hKeys'.symm.trans hKeys)
    exact hAfter

theorem exists_keys_of_made (hMade : c.refusal? now s = none) :
    ∃ parents key, s.segments c.path = parents ++ [key] := by
  rcases after_eq_or now s c with ⟨hRefused, -⟩ | ⟨parents, key, hKeys, -, -⟩
  · exact absurd hMade hRefused
  · exact ⟨parents, key, hKeys⟩

theorem currentPath_after (now : Instant) (s : State) (c : Change) :
    (c.after now s).currentPath = s.currentPath := by
  rcases after_eq_or now s c with ⟨-, hAfter⟩ | ⟨parents, key, -, -, hAfter⟩
  · rw [hAfter]
  · rw [hAfter, State.alter]

theorem segments_after (now : Instant) (s : State) (c : Change) (path : String) :
    (c.after now s).segments path = s.segments path := by
  rw [State.segments, currentPath_after, State.segments]

end Change

/-! ## What a change finds -/

/-- The kinds of what stands above the last of some keys and of what stands at its end. -/
def Tree.State.found (s : State) (keys : List String) : Option Bool × Option Bool :=
  ((s.root.lookup? keys.dropLast).map Node.isDirectory,
    (s.root.lookup? keys).map Node.isDirectory)

namespace Tree.State

variable {s s' : State} {keys : List String}

theorem found_eq_iff :
    s.found keys = s'.found keys ↔
      (s.root.lookup? keys.dropLast).map Node.isDirectory
          = (s'.root.lookup? keys.dropLast).map Node.isDirectory ∧
        (s.root.lookup? keys).map Node.isDirectory
          = (s'.root.lookup? keys).map Node.isDirectory := by
  simp only [found, Prod.mk.injEq]

theorem exists_eq_some_congr {o o' : Option Node}
    (h : o.map Node.isDirectory = o'.map Node.isDirectory) :
    (∃ n, o = some n) ↔ ∃ n, o' = some n := by
  have hSome : o.isSome = o'.isSome := by
    simpa using congrArg Option.isSome h
  rw [← Option.isSome_iff_exists, ← Option.isSome_iff_exists, hSome]

theorem exists_kind_congr {o o' : Option Node}
    (h : o.map Node.isDirectory = o'.map Node.isDirectory) (kind : Bool) :
    (∃ n, o = some n ∧ n.isDirectory = kind) ↔ ∃ n, o' = some n ∧ n.isDirectory = kind := by
  rw [← Option.map_eq_some_iff, ← Option.map_eq_some_iff, h]

theorem eq_none_congr {o o' : Option Node}
    (h : o.map Node.isDirectory = o'.map Node.isDirectory) : o = none ↔ o' = none := by
  rw [← Option.map_eq_none_iff (f := Node.isDirectory), h, Option.map_eq_none_iff]

theorem creation_congr (h : s.found keys = s'.found keys) : s.creation keys = s'.creation keys := by
  obtain ⟨hAbove, hHere⟩ := found_eq_iff.1 h
  simp only [creation, exists_eq_some_congr hAbove, exists_kind_congr hAbove, eq_none_congr hHere]

theorem deletion_congr (h : s.found keys = s'.found keys) : s.deletion keys = s'.deletion keys := by
  simp only [deletion, exists_eq_some_congr (found_eq_iff.1 h).2]

theorem rewriting_congr (h : s.found keys = s'.found keys) :
    s.rewriting keys = s'.rewriting keys := by
  obtain ⟨-, hHere⟩ := found_eq_iff.1 h
  simp only [rewriting, exists_eq_some_congr hHere, exists_kind_congr hHere]

end Tree.State

namespace Change

variable {s s' : State} {a b c : Change}

/-- What a change needs is told by its keys and by the kinds that it finds. -/
theorem needs_congr (hKeys : s'.segments c.path = s.segments c.path)
    (h : s'.found (s.segments c.path) = s.found (s.segments c.path)) :
    c.needs s' = c.needs s := by
  cases c with
  | createFile | createDirectory => simpa only [needs, hKeys] using State.creation_congr h
  | delete => simpa only [needs, hKeys] using State.deletion_congr h
  | write => simpa only [needs, hKeys] using State.rewriting_congr h

theorem refusal?_congr (h : c.needs s' = c.needs s) (now now' : Instant) :
    c.refusal? now' s' = c.refusal? now s := by
  rcases all_or_firstFailing (c.needs s) with hAll | ⟨cause, hFirst⟩
  · obtain ⟨parents, key, hKeys⟩ :=
      (List.eq_nil_or_concat' (s.segments c.path)).resolve_left (keys_ne_nil hAll)
    obtain ⟨parents', key', hKeys'⟩ :=
      (List.eq_nil_or_concat' (s'.segments c.path)).resolve_left (keys_ne_nil (h ▸ hAll))
    rw [refusal?, refusal?, attempt_eq_ok hAll hKeys, attempt_eq_ok (h ▸ hAll) hKeys']
  · rw [refusal?, refusal?, attempt_eq_error hFirst, attempt_eq_error (h ▸ hFirst)]

/-- **What a change finds** is not changed by another whose keys lie apart. -/
theorem found_after (hApart : Node.Apart (s.segments a.path) (s.segments b.path)) (now : Instant) :
    (a.after now s).found (s.segments b.path) = s.found (s.segments b.path) := by
  rcases after_eq_or now s a with ⟨-, hAfter⟩ | ⟨parents, key, hKeys, -, hAfter⟩
  · rw [hAfter]
  · rw [hKeys] at hApart
    have hEdit := editsUnder_edit now key a
    -- Keys that lead above the end of others are a prefix of these.
    have hAbove : ¬ parents ++ [key] <+: (s.segments b.path).dropLast := fun hPrefix =>
      hApart.left (hPrefix.trans (List.dropLast_prefix _))
    rw [hAfter, State.found_eq_iff]
    exact ⟨Node.map_isDirectory_lookup?_alter hEdit now hAbove s.root,
      Node.map_isDirectory_lookup?_alter hEdit now hApart.left s.root⟩

/-- A change is refused alike before and after another whose keys lie apart. -/
theorem refusal?_after (hApart : Node.Apart (s.segments a.path) (s.segments b.path))
    (now now₁ now₂ : Instant) :
    b.refusal? now₂ (a.after now s) = b.refusal? now₁ s :=
  refusal?_congr (needs_congr (segments_after now s a b.path) (found_after hApart now)) now₁ now₂

end Change

/-! ## The states at the end -/

/-- Whether two states differ in instants and in the order of siblings only. -/
structure Tree.State.Resembles (s s' : State) : Prop where
  root : s.root.timeless.Reordered s'.root.timeless
  currentPath_eq : s.currentPath = s'.currentPath

namespace Change

variable {s : State} {a b c : Change}

theorem attempt_retime (g : Instant → Instant) (now : Instant) (s : State) (c : Change) :
    c.attempt (g now) (s.retime g) = State.retime g <$> c.attempt now s := by
  cases c with
  | createFile path content => exact State.createFile_retime s now path content
  | createDirectory path => exact State.createDirectory_retime s now path
  | delete path => exact State.delete_retime s now path
  | write path content => exact State.write_retime s now path content

theorem after_timeless (now : Instant) (s : State) (c : Change) :
    (c.after now s).timeless = c.after default s.timeless := by
  have hAttempt : c.attempt default s.timeless = State.timeless <$> c.attempt now s :=
    c.attempt_retime (fun _ => default) now s
  rw [after, after, hAttempt]
  cases c.attempt now s <;> rfl

/-- At one instant, two changes whose keys lie apart leave the same tree in either order, but
for the order of siblings. -/
theorem reordered_root_after (hApart : Node.Apart (s.segments a.path) (s.segments b.path))
    (now : Instant) :
    (b.after now (a.after now s)).root.Reordered (a.after now (b.after now s)).root := by
  have hA : a.refusal? now (b.after now s) = a.refusal? now s :=
    refusal?_after hApart.symm now now now
  have hB : b.refusal? now (a.after now s) = b.refusal? now s := refusal?_after hApart now now now
  -- A change that is refused is refused in either order.
  by_cases hMadeA : a.refusal? now s = none
  case neg =>
    have hRefused : a.refusal? now (b.after now s) ≠ none := by rwa [hA]
    rw [after_eq_self hMadeA, after_eq_self hRefused]
    exact .refl _
  by_cases hMadeB : b.refusal? now s = none
  case neg =>
    have hRefused : b.refusal? now (a.after now s) ≠ none := by rwa [hB]
    rw [after_eq_self hMadeB, after_eq_self hRefused]
    exact .refl _
  -- Both are made in either order, each under the last of its own keys.
  obtain ⟨parents, key, hKeys⟩ := exists_keys_of_made hMadeA
  obtain ⟨parents', key', hKeys'⟩ := exists_keys_of_made hMadeB
  have hLastA : a.after now (b.after now s)
      = (b.after now s).alter now (a.edit now key) parents :=
    after_eq_alter (hA.trans hMadeA) ((segments_after now s b a.path).trans hKeys)
  have hLastB : b.after now (a.after now s)
      = (a.after now s).alter now (b.edit now key') parents' :=
    after_eq_alter (hB.trans hMadeB) ((segments_after now s a b.path).trans hKeys')
  rw [hLastA, hLastB, after_eq_alter hMadeA hKeys, after_eq_alter hMadeB hKeys']
  rw [hKeys, hKeys'] at hApart
  exact Node.alter_comm (editsUnder_edit now key a) (editsUnder_edit now key' b) now hApart s.root

/-- **The states at the end** of two changes whose keys lie apart: the same in either order, but
for instants and the order of siblings. -/
theorem after_comm (hApart : Node.Apart (s.segments a.path) (s.segments b.path))
    (t₁ t₂ t₃ t₄ : Instant) :
    (b.after t₂ (a.after t₁ s)).Resembles (a.after t₄ (b.after t₃ s)) := by
  -- Without instants, both orders happen at one instant.
  have hTimeless : ∀ {c d : Change} (t t' : Instant),
      (d.after t' (c.after t s)).timeless = d.after default (c.after default s.timeless) := by
    intro c d t t'
    rw [after_timeless, after_timeless]
  have hRoots := reordered_root_after (s := s.timeless) hApart default
  rw [← hTimeless t₁ t₂, ← hTimeless t₃ t₄] at hRoots
  refine ⟨hRoots, ?_⟩
  simp only [currentPath_after]

end Change

/-! ## Answers -/

namespace Shell

/-- **Independent changes commute**: two whose keys lie apart are answered alike in either order,
and the states at the end differ in instants and in the order of siblings only. -/
theorem play_comm_of_apart (sh : Shell) {a b : Change}
    (hApart : Node.Apart (sh.fs.state.segments a.path) (sh.fs.state.segments b.path))
    (t₁ t₂ t₃ t₄ : Instant) :
    ∃ answerA answerB last last',
      sh.play [(t₁, a.action), (t₂, b.action)] = ([answerA, answerB], last) ∧
        sh.play [(t₃, b.action), (t₄, a.action)] = ([answerB, answerA], last') ∧
        last.fs.state.Resembles last'.fs.state := by
  let afterA := (sh.act t₁ a.action).2
  let afterB := (sh.act t₃ b.action).2
  have hAnswerA : (afterB.act t₄ a.action).1 = (sh.act t₁ a.action).1 := by
    rw [Change.act_action_fst, Change.act_action_fst, Change.state_act_action,
      Change.refusal?_after hApart.symm t₃ t₁ t₄]
  have hAnswerB : (afterA.act t₂ b.action).1 = (sh.act t₃ b.action).1 := by
    rw [Change.act_action_fst, Change.act_action_fst, Change.state_act_action,
      Change.refusal?_after hApart t₁ t₃ t₂]
  have hStates : (afterA.act t₂ b.action).2.fs.state.Resembles
      (afterB.act t₄ a.action).2.fs.state := by
    simp only [afterA, afterB, Change.state_act_action]
    exact Change.after_comm hApart t₁ t₂ t₃ t₄
  refine ⟨(sh.act t₁ a.action).1, (sh.act t₃ b.action).1, (afterA.act t₂ b.action).2,
    (afterB.act t₄ a.action).2, ?first, ?second, hStates⟩
  case first => rw [← hAnswerB]; rfl
  case second => rw [← hAnswerA]; rfl

/-- A new shell in the protected directory. -/
def inBlog : Shell :=
  .new {
    state := (State.initial default).setCurrentPath "/blog"
    store := { backend := .empty }
    key := "tree" }

/-- The keys in the protected directory of a shell. -/
def blogKeys (sh : Shell) : List String :=
  ((sh.fs.node? "/blog").bind Node.children?).getD [] |>.map Prod.fst

theorem play_comm_of_apart_siblings :
    let dayFirst := inBlog.play
      [(default, .createFile "/blog/day" "1"), (default, .createDirectory "night")]
    let nightFirst := inBlog.play
      [(default, .createDirectory "night"), (default, .createFile "/blog/day" "1")]
    (dayFirst.1 = [.done, .done] ∧ nightFirst.1 = [.done, .done]) ∧
      (blogKeys dayFirst.2 = ["day", "night"] ∧ blogKeys nightFirst.2 = ["night", "day"]) ∧
      dayFirst.2.fs.state.Resembles nightFirst.2.fs.state := by
  intro dayFirst nightFirst
  have hApart : Node.Apart (inBlog.fs.state.segments "/blog/day")
      (inBlog.fs.state.segments "night") :=
    ⟨by decide +kernel, by decide +kernel⟩
  obtain ⟨answerA, answerB, last, last', hDay, hNight, hAlike⟩ :=
    play_comm_of_apart inBlog (a := .createFile "/blog/day" "1") (b := .createDirectory "night")
      hApart default default default default
  have hDayFirst : dayFirst = ([answerA, answerB], last) := hDay
  have hNightFirst : nightFirst = ([answerB, answerA], last') := hNight
  refine ⟨⟨rfl, rfl⟩, ⟨by decide +kernel, by decide +kernel⟩, ?_⟩
  rw [hDayFirst, hNightFirst]
  exact hAlike

end Shell

end TreeShell
