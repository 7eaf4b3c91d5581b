import Mathlib.Data.List.Basic
import Mathlib.Tactic.Common
import TreeShell.Proofs.Effect
import TreeShell.Proofs.Tree.Directories

/-!
# When a change is refused

What a change of the tree needs is a list of conditions on the keys it is asked for, in the
order in which a refusal names them.  The change is made when all of them hold.  Otherwise
it is refused for the first that does not, and nothing at all has happened: neither the
state nor the store below is touched.

## Layers

- `Condition`, `FirstFailing`: conditions, and the first of them that does not hold;
- `insert_eq_error`, `delete_eq_error`, `write_eq_error`: each refusal from its condition;
- `read_of_insert` and its like: a change that is made shows at the path it was asked for,
  for the walk that stamps the tree ends where the walk before it looked;
- `Shell.obeys_change`: the four changes together.
-/

namespace TreeShell

open TreeShell.Time TreeShell.Tree

/-! ## Conditions -/

/-- A condition on a change, and the cause of a refusal where it does not hold. -/
structure Condition where
  cause : Cause
  Holds : Prop

/-- Whether a cause is that of the first condition that does not hold. -/
inductive FirstFailing : List Condition → Cause → Prop where
  | here {c : Condition} {rest : List Condition} (h : ¬ c.Holds) :
      FirstFailing (c :: rest) c.cause
  | later {c : Condition} {rest : List Condition} {cause : Cause} (h : c.Holds)
      (hRest : FirstFailing rest cause) : FirstFailing (c :: rest) cause

theorem not_firstFailing_nil (cause : Cause) : ¬ FirstFailing [] cause := nofun

theorem firstFailing_cons_iff {c : Condition} {rest : List Condition} {cause : Cause} :
    FirstFailing (c :: rest) cause ↔
      (¬ c.Holds ∧ cause = c.cause) ∨ (c.Holds ∧ FirstFailing rest cause) := by
  constructor
  · rintro (h | ⟨h, hRest⟩)
    · exact .inl ⟨h, rfl⟩
    · exact .inr ⟨h, hRest⟩
  · rintro (⟨h, rfl⟩ | ⟨h, hRest⟩)
    · exact .here h
    · exact .later h hRest

theorem all_or_firstFailing (cs : List Condition) :
    (∀ c ∈ cs, c.Holds) ∨ ∃ cause, FirstFailing cs cause := by
  -- The first condition decides, or the rest does.
  induction cs with
  | nil => exact .inl (by simp)
  | cons c rest ih =>
    by_cases hHere : c.Holds
    · rcases ih with hAll | ⟨cause, hRest⟩
      · exact .inl (List.forall_mem_cons.2 ⟨hHere, hAll⟩)
      · exact .inr ⟨cause, .later hHere hRest⟩
    · exact .inr ⟨c.cause, .here hHere⟩

theorem FirstFailing.not_all {cs : List Condition} {cause : Cause} (h : FirstFailing cs cause) :
    ¬ ∀ c ∈ cs, c.Holds := by
  intro hAll
  induction h with
  | here hNot => exact hNot (List.forall_mem_cons.1 hAll).1
  | later _ _ ih => exact ih (List.forall_mem_cons.1 hAll).2

theorem FirstFailing.unique {cs : List Condition} {cause other : Cause}
    (h : FirstFailing cs cause) (hOther : FirstFailing cs other) : cause = other := by
  induction h with
  | here hNot =>
    cases hOther with
    | here => rfl
    | later hHolds => exact absurd hHolds hNot
  | later hHolds _ ih =>
    cases hOther with
    | here hNot => exact absurd hHolds hNot
    | later _ hRest => exact ih hRest

/-! ## What each change needs -/

namespace Tree.State

/-- What making a node at the end of some keys needs. -/
def creation (s : State) (keys : List String) : List Condition :=
  [⟨.invalidArgument, keys ≠ []⟩,
   ⟨.tooDeep, keys.length ≤ maxDepth⟩,
   ⟨.notFound, ∃ parent, s.root.lookup? keys.dropLast = some parent⟩,
   ⟨.notDirectory, ∃ parent, s.root.lookup? keys.dropLast = some parent ∧
      parent.isDirectory = true⟩,
   ⟨.alreadyExists, s.root.lookup? keys = none⟩]

/-- What taking away the node at the end of some keys needs. -/
def deletion (s : State) (keys : List String) : List Condition :=
  [⟨.invalidArgument, keys ≠ []⟩,
   ⟨.protectedPath, keys ≠ [protectedName]⟩,
   ⟨.notFound, ∃ n, s.root.lookup? keys = some n⟩]

/-- What replacing the content of the file at the end of some keys needs. -/
def rewriting (s : State) (keys : List String) : List Condition :=
  [⟨.invalidArgument, keys ≠ []⟩,
   ⟨.notFound, ∃ n, s.root.lookup? keys = some n⟩,
   ⟨.isDirectory, ∃ n, s.root.lookup? keys = some n ∧ n.isDirectory = false⟩]

variable {s s' : State} {now : Instant} {path content : String}

/-! ## Making a node -/

theorem lookup?_segments_concat {parents : List String} {name : String}
    (h : s.segments path = parents ++ [name]) {parent : Node}
    (hParent : s.root.lookup? parents = some parent) :
    s.root.lookup? (s.segments path) = parent.child? name := by
  rw [h, Node.lookup?_concat, hParent, Option.bind_some]

theorem exists_insert_eq_ok {op : Operation} {make : String → Node}
    (h : ∀ c ∈ s.creation (s.segments path), c.Holds) :
    ∃ s', s.insert now op path make = .ok s' := by
  simp only [creation, List.forall_mem_cons] at h
  -- The conditions speak of all keys, and the operation of the last one and those before it.
  obtain ⟨hNonempty, hDepth, -, ⟨parent, hParent, hDirectory⟩, hFree, -⟩ := h
  obtain ⟨parents, name, hSegments⟩ :=
    (List.eq_nil_or_concat' (s.segments path)).resolve_left hNonempty
  rw [hSegments, List.dropLast_concat] at hParent
  refine ⟨_, insert_eq_ok_iff.2
    ⟨parents, name, parent, hSegments, ?_, hParent, hDirectory, ?_, rfl⟩⟩
  · rw [hSegments, List.length_append, List.length_singleton] at hDepth
    exact hDepth
  · rwa [lookup?_segments_concat hSegments hParent] at hFree

theorem insert_eq_error {op : Operation} {make : String → Node} {cause : Cause}
    (h : FirstFailing (s.creation (s.segments path)) cause) :
    s.insert now op path make = .error ⟨cause, op, path⟩ := by
  simp only [creation, firstFailing_cons_iff, not_firstFailing_nil, and_false, or_false] at h
  rcases List.eq_nil_or_concat' (s.segments path) with hNil | ⟨parents, name, hSegments⟩
  · -- Without a segment the first condition decides.
    obtain rfl : cause = .invalidArgument := by simpa [hNil] using h
    simp [insert, hNil]
  · have hNonempty : parents ++ [name] ≠ [] := by simp
    simp only [hSegments, List.dropLast_concat, List.length_append, List.length_singleton] at h
    simp only [insert, hSegments, List.getLast?_concat, List.dropLast_concat]
    -- One case for each of the other conditions, all before it holding.
    rcases h with ⟨hEmpty, -⟩ | ⟨-, ⟨hDeep, rfl⟩ | ⟨hDepth, ⟨hLost, rfl⟩ | ⟨⟨parent, hParent⟩,
      ⟨hFile, rfl⟩ | ⟨⟨parent', hParent', hDirectory⟩, hTaken, rfl⟩⟩⟩⟩
    · exact absurd hNonempty hEmpty
    · rw [if_pos (by omega)]
    · have hNone : s.root.lookup? parents = none :=
        Option.eq_none_iff_forall_ne_some.2 (not_exists.1 hLost)
      rw [if_neg (by omega), hNone]
    · have hKind : parent.isDirectory = false := by
        simpa [hParent] using hFile
      rw [if_neg (by omega), hParent]
      simp [hKind]
    · obtain rfl : parent = parent' := by simpa [hParent] using hParent'
      have hSome : (parent.child? name).isSome = true := by
        rw [Node.lookup?_concat, hParent, Option.bind_some] at hTaken
        exact Option.isSome_iff_ne_none.2 hTaken
      rw [if_neg (by omega), hParent]
      simp [hDirectory, hSome]

/-- A node that was made stands at the path it was asked for. -/
theorem node?_of_insert {op : Operation} {make : String → Node}
    (h : s.insert now op path make = .ok s') :
    ∃ name, (s.segments path).getLast? = some name ∧ s'.node? path = some (make name) := by
  obtain ⟨parents, name, parent, hSegments, -, hParent, hDirectory, hFree, rfl⟩ :=
    insert_eq_ok_iff.1 h
  refine ⟨name, by rw [hSegments, List.getLast?_concat], ?_⟩
  have hKeys : (s.alter now (Node.addChild name (make name)) parents).segments path
      = parents ++ [name] := hSegments
  rw [node?, hKeys, Node.lookup?_concat, alter, Node.lookup?_alter, hParent, Option.map_some,
    Option.bind_some]
  exact Node.child?_addChild_self (make name) (by simpa using hDirectory) (by simpa using hFree)

theorem read_of_createFile (h : s.createFile now path content = .ok s') :
    s'.read path = .ok content := by
  obtain ⟨name, -, hNode⟩ := node?_of_insert h
  rw [read, hNode]
  rfl

theorem list_of_createDirectory (h : s.createDirectory now path = .ok s') :
    s'.list path = .ok [] := by
  obtain ⟨name, -, hNode⟩ := node?_of_insert h
  simp [list, hNode, Node.newDirectory, Node.listing?, Node.children?]

/-! ## Taking a node away -/

theorem exists_delete_eq_ok (h : ∀ c ∈ s.deletion (s.segments path), c.Holds) :
    ∃ s', s.delete now path = .ok s' := by
  simp only [deletion, List.forall_mem_cons] at h
  obtain ⟨hNonempty, hProtected, ⟨n, hFound⟩, -⟩ := h
  obtain ⟨parents, name, hSegments⟩ :=
    (List.eq_nil_or_concat' (s.segments path)).resolve_left hNonempty
  rw [hSegments] at hProtected hFound
  refine ⟨_, delete_eq_ok_iff.2 ⟨parents, name, hSegments, ?_, by rw [hFound]; rfl, rfl⟩⟩
  rintro ⟨rfl, rfl⟩
  exact hProtected rfl

theorem delete_eq_error {cause : Cause} (h : FirstFailing (s.deletion (s.segments path)) cause) :
    s.delete now path = .error ⟨cause, .delete, path⟩ := by
  simp only [deletion, firstFailing_cons_iff, not_firstFailing_nil, and_false, or_false] at h
  rcases List.eq_nil_or_concat' (s.segments path) with hNil | ⟨parents, name, hSegments⟩
  · obtain rfl : cause = .invalidArgument := by simpa [hNil] using h
    simp [delete, hNil]
  · have hNonempty : parents ++ [name] ≠ [] := by simp
    simp only [hSegments] at h
    simp only [delete, hSegments, List.getLast?_concat, List.dropLast_concat, List.isEmpty_iff]
    -- The guard compares the keys in two parts.
    have hIff : parents = [] ∧ name = protectedName ↔ parents ++ [name] = [protectedName] := by
      cases parents <;> simp
    rcases h with ⟨hEmpty, -⟩ | ⟨-, ⟨hProtected, rfl⟩ | ⟨hProtected, hLost, rfl⟩⟩
    · exact absurd hNonempty hEmpty
    · rw [if_pos (hIff.2 (not_not.1 hProtected))]
    · have hNone : s.root.lookup? (parents ++ [name]) = none :=
        Option.eq_none_iff_forall_ne_some.2 (not_exists.1 hLost)
      rw [if_neg (fun h => hProtected (hIff.1 h)), hNone]
      rfl

theorem node?_of_delete (h : s.delete now path = .ok s') : s'.node? path = none := by
  have hLoses : s.Loses (s.segments path) s' := loses_delete h
  rw [node?, segments, hLoses.currentPath_eq]
  exact hLoses.after

/-! ## Replacing a content -/

theorem exists_write_eq_ok (h : ∀ c ∈ s.rewriting (s.segments path), c.Holds) :
    ∃ s', s.write now path content = .ok s' := by
  simp only [rewriting, List.forall_mem_cons] at h
  obtain ⟨hNonempty, -, ⟨n, hNode, hFile⟩, -⟩ := h
  exact ⟨_, write_eq_ok_iff.2 ⟨n, hNonempty, hNode, hFile, rfl⟩⟩

theorem write_eq_error {cause : Cause} (h : FirstFailing (s.rewriting (s.segments path)) cause) :
    s.write now path content = .error ⟨cause, .write, path⟩ := by
  simp only [rewriting, firstFailing_cons_iff, not_firstFailing_nil, and_false, or_false] at h
  simp only [write, node?, List.isEmpty_iff]
  rcases h with ⟨hEmpty, rfl⟩ | ⟨hNonempty, ⟨hLost, rfl⟩ | ⟨⟨n, hNode⟩, hDirectory, rfl⟩⟩
  · rw [if_pos (not_not.1 hEmpty)]
  · have hNone : s.root.lookup? (s.segments path) = none :=
      Option.eq_none_iff_forall_ne_some.2 (not_exists.1 hLost)
    rw [if_neg hNonempty, hNone]
  · have hKind : n.isDirectory = true := by
      simpa [hNode] using hDirectory
    rw [if_neg hNonempty, hNode]
    simp [hKind]

theorem read_of_write (h : s.write now path content = .ok s') : s'.read path = .ok content := by
  obtain ⟨n, -, hNode, hFile, rfl⟩ := write_eq_ok_iff.1 h
  have hFound : (s.alter now (Node.setContent content) (s.segments path)).node? path
      = some (Node.setContent content (n.stamp now)) := by
    have hLookup : s.root.lookup? (s.segments path) = some n := hNode
    have hKeys : (s.alter now (Node.setContent content) (s.segments path)).segments path
        = s.segments path := rfl
    rw [node?, hKeys, alter, Node.lookup?_alter, hLookup, Option.map_some]
  rw [read, hFound]
  -- Setting a content does nothing to a directory, which the guard has ruled out.
  cases n with
  | file => rfl
  | directory => simp [Node.isDirectory] at hFile

/-- What can be read can be replaced, below the root. -/
theorem rewriting_iff_read :
    (∀ c ∈ s.rewriting (s.segments path), c.Holds) ↔
      s.segments path ≠ [] ∧ ∃ text, s.read path = .ok text := by
  have hFile : (∃ n, s.root.lookup? (s.segments path) = some n ∧ n.isDirectory = false) ↔
      ∃ text, s.read path = .ok text := by
    have hNode : s.node? path = s.root.lookup? (s.segments path) := rfl
    rw [read, hNode]
    cases s.root.lookup? (s.segments path) with
    | none => simp
    | some n => cases n <;> simp [Node.isDirectory, Node.content?]
  simp only [rewriting, List.forall_mem_cons, ← hFile]
  constructor
  · rintro ⟨hNonempty, -, hFound, -⟩
    exact ⟨hNonempty, hFound⟩
  · rintro ⟨hNonempty, n, hNode, hKind⟩
    exact ⟨hNonempty, ⟨n, hNode⟩, ⟨n, hNode, hKind⟩, by simp⟩

end Tree.State

/-! ## Changes of a shell -/

namespace Shell

/-- Whether what comes of a change obeys its conditions: it is done when all of them hold, and
then shows in the state; else it is refused for the first that does not, and the shell with
all below it is as it was. -/
structure Obeys (sh : Shell) (conditions : List Condition) (op : Operation) (path : String)
    (Shows : State → Prop) (outcome : Answer × Shell) : Prop where
  done_iff : outcome.1 = .done ↔ ∀ c ∈ conditions, c.Holds
  refusal_iff : ∀ f, outcome.1 = .refusal f ↔
    f.operation = op ∧ f.path = path ∧ FirstFailing conditions f.cause
  shows : outcome.1 = .done → Shows outcome.2.fs.state
  still : ∀ f, outcome.1 = .refusal f → outcome.2 = sh

variable {sh : Shell}

theorem obeys_of_change {conditions : List Condition} {op : Operation} {path : String}
    {Shows : State → Prop} {change : Except Failure State}
    (hOk : (∀ c ∈ conditions, c.Holds) → ∃ s, change = .ok s)
    (hError : ∀ cause, FirstFailing conditions cause → change = .error ⟨cause, op, path⟩)
    (hShows : ∀ s, change = .ok s → Shows s) :
    sh.Obeys conditions op path Shows (sh.change (sh.fs.commit <$> change)) := by
  rcases all_or_firstFailing conditions with hAll | ⟨cause, hFirst⟩
  · obtain ⟨s, rfl⟩ := hOk hAll
    exact {
      done_iff := ⟨fun _ => hAll, fun _ => rfl⟩
      refusal_iff := fun f => ⟨nofun, fun h => absurd hAll h.2.2.not_all⟩
      shows := fun _ => hShows s rfl
      still := nofun }
  · -- A refused operation saves nothing, so the shell after it is the one before.
    obtain rfl := hError cause hFirst
    refine { done_iff := ⟨nofun, fun hAll => absurd hAll hFirst.not_all⟩, refusal_iff := ?_,
             shows := nofun, still := fun _ _ => rfl }
    rintro ⟨cause', op', path'⟩
    constructor
    · intro hEq
      obtain ⟨rfl, rfl, rfl⟩ : cause = cause' ∧ op = op' ∧ path = path' := by
        simpa [change] using hEq
      exact ⟨rfl, rfl, hFirst⟩
    · rintro ⟨rfl, rfl, hOther⟩
      rw [hFirst.unique hOther]
      rfl

/-- **Changes and refusals**: each change of the tree is made exactly when all that it needs
holds, and then shows at its path; else it is refused for the first condition that does not
hold, and the shell, its state and the store below it are as they were.  In particular what
can be written, below the root, is what can be read. -/
theorem obeys_change (sh : Shell) (now : Instant) (path content : String) :
    let s := sh.fs.state
    let keys := s.segments path
    sh.Obeys (s.creation keys) .createFile path (fun s' => s'.read path = .ok content)
      (sh.act now (.createFile path content)) ∧
    sh.Obeys (s.creation keys) .createDirectory path (fun s' => s'.list path = .ok [])
      (sh.act now (.createDirectory path)) ∧
    sh.Obeys (s.deletion keys) .delete path (fun s' => s'.node? path = none)
      (sh.act now (.delete path)) ∧
    sh.Obeys (s.rewriting keys) .write path (fun s' => s'.read path = .ok content)
      (sh.act now (.write path content)) ∧
    ((sh.act now (.write path content)).1 = .done ↔
      keys ≠ [] ∧ ∃ text, sh.fs.read path = .ok text) := by
  intro s keys
  have hWrite : sh.Obeys (s.rewriting keys) .write path (fun s' => s'.read path = .ok content)
      (sh.act now (.write path content)) :=
    obeys_of_change State.exists_write_eq_ok (fun _ => State.write_eq_error)
      fun _ => State.read_of_write
  refine ⟨?file, ?directory, ?deletion, hWrite, ?reading⟩
  case file =>
    exact obeys_of_change State.exists_insert_eq_ok (fun _ => State.insert_eq_error)
      fun _ => State.read_of_createFile
  case directory =>
    exact obeys_of_change State.exists_insert_eq_ok (fun _ => State.insert_eq_error)
      fun _ => State.list_of_createDirectory
  case deletion =>
    exact obeys_of_change State.exists_delete_eq_ok (fun _ => State.delete_eq_error)
      fun _ => State.node?_of_delete
  case reading => exact hWrite.done_iff.trans State.rewriting_iff_read

end Shell

end TreeShell
