import Mathlib.Tactic.Common
import TreeShell.Proofs.Tree.Directories
import TreeShell.Proofs.Tree.Frame

/-!
# Trees that grow

A tree grows when files come into it and nothing else happens (`Node.Grown`): every node is where
it was, with the same name, kind, content and instant of creation and with its children in their
order, new ones behind them; a file is as it was altogether; and there are no new directories.
Growth adds up, and so does the number of nodes.

## Layers

- `Node.Kept`: one node before and after;
- `Node.Grown`: the whole tree, from any one step to many by `Grown.trans`;
- `Node.ChangedAlong.grown`, `Node.GainsChild.grown`: a new file makes a tree grow;
- `Node.count`, `Node.ChangedAlong.count_eq`: by how much.
-/

namespace TreeShell.Tree

open TreeShell.Time

namespace Node

/-! ## One node -/

/-- Whether one node is another with perhaps more children behind its own. -/
structure Kept (n n' : Node) : Prop where
  name : n'.name = n.name
  isDirectory : n'.isDirectory = n.isDirectory
  content? : n'.content? = n.content?
  created : n'.created = n.created
  /-- The children in their order, and perhaps others behind. -/
  keys : n.keys <+: n'.keys
  /-- Only a directory can have the instant of a change. -/
  modified : n.isDirectory = false → n'.modified = n.modified

variable {now : Instant} {Turns : Node → Node → Prop} {n n' n'' child : Node}
  {keys : List String}

theorem Kept.refl (n : Node) : n.Kept n :=
  ⟨rfl, rfl, rfl, rfl, List.prefix_refl _, fun _ => rfl⟩

theorem Kept.trans (h : n.Kept n') (h' : n'.Kept n'') : n.Kept n'' where
  name := h'.name.trans h.name
  isDirectory := h'.isDirectory.trans h.isDirectory
  content? := h'.content?.trans h.content?
  created := h'.created.trans h.created
  keys := h.keys.trans h'.keys
  modified := fun hFile =>
    (h'.modified (h.isDirectory.trans hFile)).trans (h.modified hFile)

/-- A file is kept as it is. -/
theorem Kept.eq_of_file (h : n.Kept n') (hFile : n.isDirectory = false) : n' = n := by
  cases n with
  | directory => contradiction
  | file name content created modified =>
    cases n' with
    | directory => cases h.isDirectory
    | file name' content' created' modified' =>
      obtain rfl : name' = name := h.name
      obtain rfl : content' = content := Option.some.inj h.content?
      obtain rfl : created' = created := h.created
      obtain rfl : modified' = modified := h.modified rfl
      rfl

/-! ## The whole tree -/

/-- Whether one tree is another into which files came. -/
structure Grown (n n' : Node) : Prop where
  kept : ∀ keys m, n.lookup? keys = some m → ∃ m', n'.lookup? keys = some m' ∧ m.Kept m'
  directoryAt : ∀ keys, n'.DirectoryAt keys → n.DirectoryAt keys

theorem Grown.refl (n : Node) : n.Grown n :=
  ⟨fun _ m hFound => ⟨m, hFound, .refl m⟩, fun _ h => h⟩

theorem Grown.trans (h : n.Grown n') (h' : n'.Grown n'') : n.Grown n'' where
  kept := by
    intro keys m hFound
    obtain ⟨m', hFound', hKept⟩ := h.kept keys m hFound
    obtain ⟨m'', hFound'', hKept'⟩ := h'.kept keys m' hFound'
    exact ⟨m'', hFound'', hKept.trans hKept'⟩
  directoryAt := fun keys hDirectory => h.directoryAt keys (h'.directoryAt keys hDirectory)

/-- A tree that grows keeps its directories. -/
theorem Grown.directoryAt_iff (h : n.Grown n') : n'.DirectoryAt keys ↔ n.DirectoryAt keys := by
  refine ⟨h.directoryAt keys, ?_⟩
  rintro ⟨m, hFound, hDirectory⟩
  obtain ⟨m', hFound', hKept⟩ := h.kept keys m hFound
  exact ⟨m', hFound', hKept.isDirectory.trans hDirectory⟩

/-- What is free in a tree that has grown was free before. -/
theorem Grown.lookup?_eq_none (h : n.Grown n') (hFree : n'.lookup? keys = none) :
    n.lookup? keys = none := by
  cases hFound : n.lookup? keys with
  | none => rfl
  | some m =>
    obtain ⟨m', hFound', -⟩ := h.kept keys m hFound
    simp [hFree] at hFound'

/-! ## A directory with another child -/

/-- A directory grows when it has a grown child in the place of one. -/
theorem grown_between {name key : String} {before after : List (String × Node)} {c c' : Node}
    (created modified : Instant) (hOnly : key ∉ (before ++ after).map Prod.fst)
    (h : c.Grown c') :
    (directory name (before ++ (key, c) :: after) created modified).Grown
      (directory name (before ++ (key, c') :: after) created now) where
  kept := by
    intro keys m hFound
    cases keys with
    | nil =>
      obtain rfl := Option.some.inj hFound
      refine ⟨_, rfl, rfl, rfl, rfl, rfl, ?_, nofun⟩
      simp [Node.keys]
    | cons k keys =>
      rw [lookup?] at hFound ⊢
      by_cases hKey : k = key
      · subst hKey
        rw [child?_between hOnly, Option.bind_some] at hFound ⊢
        exact h.kept keys m hFound
      · rw [child?_between_of_ne hKey] at hFound ⊢
        exact ⟨m, hFound, .refl m⟩
  directoryAt := by
    intro keys hDirectory
    cases keys with
    | nil => exact directoryAt_nil.2 rfl
    | cons k keys =>
      obtain ⟨d, hChild, hBelow⟩ := directoryAt_cons.1 hDirectory
      rw [directoryAt_cons]
      by_cases hKey : k = key
      · subst hKey
        rw [child?_between hOnly] at hChild ⊢
        obtain rfl := Option.some.inj hChild
        exact ⟨c, rfl, h.directoryAt keys hBelow⟩
      · rw [child?_between_of_ne hKey] at hChild ⊢
        exact ⟨d, hChild, hBelow⟩

/-- **Growth along a path**: a tree grows when the node at the end of the path does. -/
theorem ChangedAlong.grown (h : n.ChangedAlong now Turns keys n')
    (hTurns : ∀ m m', Turns m m' → m.Grown m') : n.Grown n' := by
  induction h with
  | here hHere => exact hTurns _ _ hHere
  | through name created modified hOnly _ ih => exact grown_between created modified hOnly ih

/-- A directory grows by a new file. -/
theorem GainsChild.grown (h : GainsChild now child n n') (hFile : child.isDirectory = false) :
    n.Grown n' := by
  cases h with
  | @last cs name created modified hNew =>
    have hOld : ∀ {k : String} {c : Node}, cs.lookup k = some c →
        (cs ++ [(child.name, child)]).lookup k = some c := by
      intro k c hFound
      rw [List.lookup_append, hFound, Option.some_or]
    refine ⟨?_, ?_⟩
    · intro keys m hFound
      cases keys with
      | nil =>
        obtain rfl := Option.some.inj hFound
        refine ⟨_, rfl, rfl, rfl, rfl, rfl, ?_, nofun⟩
        simp [Node.keys]
      | cons k keys =>
        rw [lookup?, Option.bind_eq_some_iff] at hFound
        obtain ⟨c, hChild, hBelow⟩ := hFound
        refine ⟨m, ?_, .refl m⟩
        rw [lookup?, child?_eq_lookup, entries_directory, hOld hChild, Option.bind_some, hBelow]
    · intro keys hDirectory
      cases keys with
      | nil => exact directoryAt_nil.2 rfl
      | cons k keys =>
        obtain ⟨c, hChild, hBelow⟩ := directoryAt_cons.1 hDirectory
        refine directoryAt_cons.2 ⟨c, ?_, hBelow⟩
        rw [child?_eq_lookup, entries_directory, List.lookup_append] at hChild
        -- The new child is no directory and has nothing below it.
        rcases Option.or_eq_some_iff.1 hChild with hFirst | ⟨-, hLast⟩
        · exact hFirst
        · exfalso
          have hEq : c = child := by
            cases hKey : k == child.name with
            | true => simpa [List.lookup_cons, hKey, eq_comm] using hLast
            | false => simp [List.lookup_cons, hKey] at hLast
          subst hEq
          cases c with
          | directory => contradiction
          | file =>
            cases keys with
            | nil => cases directoryAt_nil.1 hBelow
            | cons k' keys =>
              obtain ⟨d, hNone, _⟩ := directoryAt_cons.1 hBelow
              cases hNone

end Node

/-! ## The number of nodes -/

mutual

/-- How many nodes there are: the node and all that are below it. -/
def Node.count : Node → Nat
  | .file .. => 1
  | .directory _ children _ _ => 1 + countChildren children

/-- How many nodes the children and all below them are. -/
def countChildren : List (String × Node) → Nat
  | [] => 0
  | (_, n) :: rest => n.count + countChildren rest

end

theorem countChildren_append (cs ds : List (String × Node)) :
    countChildren (cs ++ ds) = countChildren cs + countChildren ds := by
  induction cs with
  | nil => rw [List.nil_append, countChildren, Nat.zero_add]
  | cons kc cs ih => rw [List.cons_append, countChildren, countChildren, ih, Nat.add_assoc]

namespace Node

variable {now : Instant} {Turns : Node → Node → Prop} {n n' child : Node} {keys : List String}
  {added : Nat}

theorem GainsChild.count_eq (h : GainsChild now child n n') :
    n'.count = n.count + child.count := by
  cases h with
  | last =>
    simp only [count, countChildren_append, countChildren]
    omega

/-- Nodes that come at the end of a path come into the tree. -/
theorem ChangedAlong.count_eq (h : n.ChangedAlong now Turns keys n')
    (hTurns : ∀ m m', Turns m m' → m'.count = m.count + added) :
    n'.count = n.count + added := by
  induction h with
  | here hHere => exact hTurns _ _ hHere
  | through name created modified hOnly _ ih =>
    simp only [count, countChildren_append, countChildren, ih]
    omega

end Node

end TreeShell.Tree
