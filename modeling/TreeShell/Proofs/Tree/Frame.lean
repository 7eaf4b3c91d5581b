import Mathlib.Data.List.Infix
import Mathlib.Data.List.Nodup
import Mathlib.Tactic.Common
import TreeShell.Proofs.Tree.Position

/-!
# What a change along a path leaves

`n.ChangedAlong now Turns keys n'` says that the tree `n'` is the tree `n` with one node changed:
each directory on the way along the keys has what comes of its child in the place of this child,
all its other children as they were, and the instant of the change; and the node at the end
turned into another as `Turns` tells.  There are three ways to turn: a directory gains a last
child, a directory loses a child, and a file gains a content.

In a tree of maps this is what the walk of an operation makes (`changedAlong_alter`).  It tells
the node at every path afterwards: the nodes on the way are restamped
(`ChangedAlong.restamped`), and off the way every node is as it was with all below it
(`ChangedAlong.lookup?_of_not_prefix`).
-/

namespace TreeShell.Tree

open TreeShell.Time

/-! ## Children under other keys -/

theorem map_replace_of_notMem {cs : List (String × Node)} {key : String}
    (h : key ∉ cs.map Prod.fst) (f : Node → Node) :
    (cs.map fun (k, c) => if k = key then (k, f c) else (k, c)) = cs := by
  have hSame : ∀ kc ∈ cs, (if kc.1 = key then (kc.1, f kc.2) else (kc.1, kc.2)) = kc := by
    intro kc hMem
    have hNe : kc.1 ≠ key := fun hEq => h (hEq ▸ List.mem_map_of_mem hMem)
    rw [if_neg hNe]
  exact (List.map_congr_left hSame).trans (List.map_id _)

theorem filter_ne_of_notMem {cs : List (String × Node)} {key : String}
    (h : key ∉ cs.map Prod.fst) : (cs.filter fun (k, _) => k ≠ key) = cs := by
  refine List.filter_eq_self.2 fun kc hMem => ?_
  have hNe : kc.1 ≠ key := fun hEq => h (hEq ▸ List.mem_map_of_mem hMem)
  simpa using hNe

namespace Node

/-- In a directory with distinct keys, a child stands between others of other keys. -/
theorem exists_between_of_child? {n c : Node} {key : String} (hKeys : n.keys.Nodup)
    (h : n.child? key = some c) :
    ∃ name before after created modified,
      n = .directory name (before ++ (key, c) :: after) created modified ∧
        key ∉ (before ++ after).map Prod.fst := by
  cases n with
  | file => contradiction
  | directory name cs created modified =>
    obtain ⟨before, after, rfl⟩ := List.append_of_mem (mem_entries_of_child? h)
    refine ⟨name, before, after, created, modified, rfl, ?_⟩
    -- The key stands once in all, and so not in front of the child or behind it.
    have hAll : ((before ++ (key, c) :: after).map Prod.fst).Nodup := hKeys
    rw [List.map_append, List.map_cons, List.nodup_middle] at hAll
    rw [List.map_append]
    exact (List.nodup_cons.1 hAll).1

section Between

variable {name key k : String} {before after : List (String × Node)} {c : Node}
  {created modified : Instant}

theorem child?_between (hOnly : key ∉ (before ++ after).map Prod.fst) :
    (directory name (before ++ (key, c) :: after) created modified).child? key = some c := by
  have hBefore : before.lookup key = none :=
    lookup_eq_none_iff_notMem.2 fun hMem => hOnly (by simp [List.map_append, hMem])
  rw [child?_eq_lookup, entries_directory, List.lookup_append, hBefore, Option.none_or,
    List.lookup_cons_self]

/-- A child does not matter to another key, and neither does its absence. -/
theorem child?_between_of_ne (h : k ≠ key) :
    (directory name (before ++ (key, c) :: after) created modified).child? k
      = (before ++ after).lookup k := by
  have hNe : (k == key) = false := beq_eq_false_iff_ne.2 h
  rw [child?_eq_lookup, entries_directory, List.lookup_append, List.lookup_append,
    List.lookup_cons, hNe]

end Between

/-! ## Changes along a path -/

/-- Whether one tree comes of another by a change of the node at the end of some keys: each
directory on the way is stamped and has its child under the next key changed in its place. -/
inductive ChangedAlong (now : Instant) (Turns : Node → Node → Prop) :
    List String → Node → Node → Prop where
  | here {n n' : Node} (h : Turns n n') : ChangedAlong now Turns [] n n'
  | through {key : String} {keys : List String} {c c' : Node} {before after : List (String × Node)}
      (name : String) (created modified : Instant)
      (hOnly : key ∉ (before ++ after).map Prod.fst) (h : ChangedAlong now Turns keys c c') :
      ChangedAlong now Turns (key :: keys)
        (.directory name (before ++ (key, c) :: after) created modified)
        (.directory name (before ++ (key, c') :: after) created now)

/-- The directory with a new last child under the name of the child. -/
inductive GainsChild (now : Instant) (child : Node) : Node → Node → Prop where
  | last {cs : List (String × Node)} (name : String) (created modified : Instant)
      (hNew : child.name ∉ cs.map Prod.fst) :
      GainsChild now child (.directory name cs created modified)
        (.directory name (cs ++ [(child.name, child)]) created now)

/-- The directory without its child under a key. -/
inductive LosesChild (now : Instant) (key : String) : Node → Node → Prop where
  | between {before after : List (String × Node)} (c : Node) (name : String)
      (created modified : Instant) (hOnly : key ∉ (before ++ after).map Prod.fst) :
      LosesChild now key (.directory name (before ++ (key, c) :: after) created modified)
        (.directory name (before ++ after) created now)

/-- The file with a content in place of its own. -/
inductive GainsContent (now : Instant) (content : String) : Node → Node → Prop where
  | file (name old : String) (created modified : Instant) :
      GainsContent now content (.file name old created modified)
        (.file name content created now)

variable {now : Instant} {Turns : Node → Node → Prop} {n n' m child : Node}
  {key content : String} {keys rest other : List String}

/-! ## The walk of an operation -/

/-- **Walks**: in a tree of maps, the walk to a node that is there changes this node and
nothing off the way. -/
theorem changedAlong_alter {f : Node → Node} (hKeys : n.DistinctKeys)
    (hFound : n.lookup? keys = some m) (hEnd : Turns m (f (m.stamp now))) :
    n.ChangedAlong now Turns keys (n.alter now f keys) := by
  -- Along the keys; the children beside the way have other keys than the next one.
  induction keys generalizing n with
  | nil =>
    obtain rfl : n = m := Option.some.inj hFound
    exact .here hEnd
  | cons key keys ih =>
    rw [lookup?, Option.bind_eq_some_iff] at hFound
    obtain ⟨c, hChild, hBelow⟩ := hFound
    obtain ⟨hHere, hDeeper⟩ := everywhere_iff.1 hKeys
    have hWalk : c.ChangedAlong now Turns keys (c.alter now f keys) :=
      ih (hDeeper _ (mem_entries_of_child? hChild)) hBelow
    obtain ⟨name, before, after, created, modified, rfl, hOnly⟩ :=
      exists_between_of_child? hHere hChild
    have hBeside : key ∉ before.map Prod.fst ∧ key ∉ after.map Prod.fst := by
      simpa [List.map_append, not_or] using hOnly
    have hAlter : (directory name (before ++ (key, c) :: after) created modified).alter now f
          (key :: keys)
        = .directory name (before ++ (key, c.alter now f keys) :: after) created now := by
      simp only [alter, stamp, mapChild, List.map_append, List.map_cons, if_true,
        map_replace_of_notMem hBeside.1, map_replace_of_notMem hBeside.2]
    rw [hAlter]
    exact .through name created modified hOnly hWalk

theorem gainsChild_addChild (hDirectory : m.isDirectory = true)
    (hFree : m.child? child.name = none) :
    GainsChild now child m (addChild child.name child (m.stamp now)) := by
  cases m with
  | file => contradiction
  | directory name cs created modified =>
    exact .last name created modified ((child?_eq_none_iff_notMem _ _).1 hFree)

theorem losesChild_removeChild (hKeys : m.keys.Nodup) (hFound : (m.child? key).isSome = true) :
    LosesChild now key m (removeChild key (m.stamp now)) := by
  obtain ⟨c, hChild⟩ := Option.isSome_iff_exists.1 hFound
  obtain ⟨name, before, after, created, modified, rfl, hOnly⟩ :=
    exists_between_of_child? hKeys hChild
  have hBeside : key ∉ before.map Prod.fst ∧ key ∉ after.map Prod.fst := by
    simpa [List.map_append, not_or] using hOnly
  have hRemove : removeChild key
        ((directory name (before ++ (key, c) :: after) created modified).stamp now)
      = .directory name (before ++ after) created now := by
    have hDropped : ((key, c) :: after).filter (fun (k, _) => k ≠ key)
        = after.filter fun (k, _) => k ≠ key := by simp
    simp only [stamp, removeChild, List.filter_append, hDropped, filter_ne_of_notMem hBeside.1,
      filter_ne_of_notMem hBeside.2]
  rw [hRemove]
  exact .between c name created modified hOnly

theorem gainsContent_setContent (hFile : m.isDirectory = false) :
    GainsContent now content m (setContent content (m.stamp now)) := by
  cases m with
  | file name old created modified => exact .file name old created modified
  | directory => contradiction

/-! ## On the way -/

/-- Whether one node is another with the instant of a change, and perhaps with other children
or another content. -/
structure Restamped (now : Instant) (n n' : Node) : Prop where
  name : n'.name = n.name
  isDirectory : n'.isDirectory = n.isDirectory
  created : n'.created = n.created
  modified : n'.modified = now

theorem GainsChild.restamped (h : GainsChild now child n n') : n.Restamped now n' := by
  cases h
  exact ⟨rfl, rfl, rfl, rfl⟩

theorem LosesChild.restamped (h : LosesChild now key n n') : n.Restamped now n' := by
  cases h
  exact ⟨rfl, rfl, rfl, rfl⟩

theorem GainsContent.restamped (h : GainsContent now content n n') : n.Restamped now n' := by
  cases h
  exact ⟨rfl, rfl, rfl, rfl⟩

/-- At every node on the way, the change goes on along the keys that are left. -/
theorem ChangedAlong.exists_lookup? (h : ChangedAlong now Turns (keys ++ rest) n n') :
    ∃ m m', n.lookup? keys = some m ∧ n'.lookup? keys = some m' ∧
      m.ChangedAlong now Turns rest m' := by
  induction keys generalizing n n' with
  | nil => exact ⟨n, n', rfl, rfl, h⟩
  | cons key keys ih =>
    cases h with
    | through name created modified hOnly hBelow =>
      obtain ⟨m, m', hFound, hFound', hRest⟩ := ih hBelow
      refine ⟨m, m', ?_, ?_, hRest⟩
      · rw [lookup?, child?_between hOnly, Option.bind_some, hFound]
      · rw [lookup?, child?_between hOnly, Option.bind_some, hFound']

/-- At the end of the keys stands what the node there turned into. -/
theorem ChangedAlong.exists_turns (h : ChangedAlong now Turns keys n n') :
    ∃ m m', n.lookup? keys = some m ∧ n'.lookup? keys = some m' ∧ Turns m m' := by
  rw [← List.append_nil keys] at h
  obtain ⟨m, m', hFound, hFound', hRest⟩ := h.exists_lookup?
  cases hRest with
  | here hTurns => exact ⟨m, m', hFound, hFound', hTurns⟩

/-- **On the way** every node is restamped, up to the one at the end. -/
theorem ChangedAlong.restamped (hTurns : ∀ m m', Turns m m' → m.Restamped now m')
    (h : ChangedAlong now Turns keys n n') (hPrefix : other <+: keys) :
    ∃ m m', n.lookup? other = some m ∧ n'.lookup? other = some m' ∧ m.Restamped now m' := by
  obtain ⟨rest, rfl⟩ := hPrefix
  obtain ⟨m, m', hFound, hFound', hRest⟩ := h.exists_lookup?
  refine ⟨m, m', hFound, hFound', ?_⟩
  cases hRest with
  | here hHere => exact hTurns m m' hHere
  | through => exact ⟨rfl, rfl, rfl, rfl⟩

/-! ## Off the way -/

/-- **Off the way** every node is as it was, with all that is below it, when what lies below
the node at the end is. -/
theorem ChangedAlong.lookup?_of_not_prefix (h : ChangedAlong now Turns keys n n')
    (hAside : ¬ other <+: keys)
    (hEnd : ∀ m m' rest, Turns m m' → other = keys ++ rest → m'.lookup? rest = m.lookup? rest) :
    n'.lookup? other = n.lookup? other := by
  induction h generalizing other with
  | here hTurns => exact hEnd _ _ other hTurns rfl
  | @through key keys c c' before after name created modified hOnly _ ih =>
    cases other with
    | nil => exact absurd List.nil_prefix hAside
    | cons k other =>
      by_cases hKey : k = key
      · subst hKey
        have hBelow : c'.lookup? other = c.lookup? other := by
          refine ih (fun hPrefix => hAside (List.cons_prefix_cons.2 ⟨rfl, hPrefix⟩)) ?_
          intro m m' rest hTurns hOther
          exact hEnd m m' rest hTurns (by rw [hOther, List.cons_append])
        rw [lookup?, lookup?, child?_between hOnly, child?_between hOnly, Option.bind_some,
          Option.bind_some, hBelow]
      · rw [lookup?, lookup?, child?_between_of_ne hKey, child?_between_of_ne hKey]

/-- A new child without children is the only node that a directory gains. -/
theorem GainsChild.lookup?_of_not_prefix (h : GainsChild now child n n')
    (hLeaf : child.entries = []) (hOther : ¬ rest <+: [child.name]) :
    n'.lookup? rest = n.lookup? rest := by
  cases h with
  | @last cs name created modified hNew =>
    cases rest with
    | nil => exact absurd List.nil_prefix hOther
    | cons k rest =>
      rw [lookup?, lookup?, child?_eq_lookup, child?_eq_lookup, entries_directory,
        entries_directory, List.lookup_append]
      by_cases hKey : k = child.name
      · -- Nothing was under the name of the child, and nothing is below the child.
        subst hKey
        rw [lookup_eq_none_iff_notMem.2 hNew, Option.none_or, List.lookup_cons_self,
          Option.bind_some]
        cases rest with
        | nil => exact absurd (List.prefix_refl _) hOther
        | cons k' rest =>
          rw [lookup?, child?_eq_lookup, hLeaf]
          rfl
      · have hNe : (k == child.name) = false := beq_eq_false_iff_ne.2 hKey
        rw [List.lookup_cons, hNe, List.lookup_nil, Option.or_none]

theorem GainsChild.lookup?_name (h : GainsChild now child n n') :
    n'.lookup? [child.name] = some child := by
  cases h with
  | last name created modified hNew =>
    rw [lookup?, child?_eq_lookup, entries_directory, List.lookup_append,
      lookup_eq_none_iff_notMem.2 hNew, Option.none_or, List.lookup_cons_self, Option.bind_some,
      lookup?]

/-- A directory loses no node but the child and what is below it. -/
theorem LosesChild.lookup?_of_not_prefix (h : LosesChild now key n n') (hBelow : rest ≠ [])
    (hOther : ¬ [key] <+: rest) : n'.lookup? rest = n.lookup? rest := by
  cases h with
  | between c name created modified hOnly =>
    cases rest with
    | nil => contradiction
    | cons k rest =>
      have hKey : k ≠ key := by
        rintro rfl
        exact hOther (List.cons_prefix_cons.2 ⟨rfl, List.nil_prefix⟩)
      rw [lookup?, lookup?, child?_between_of_ne hKey, child?_eq_lookup, entries_directory]

theorem LosesChild.lookup?_cons (h : LosesChild now key n n') (rest : List String) :
    n'.lookup? (key :: rest) = none := by
  cases h with
  | between c name created modified hOnly =>
    rw [lookup?, child?_eq_lookup, entries_directory, lookup_eq_none_iff_notMem.2 hOnly,
      Option.bind_none]

/-- Below a file there is nothing, whatever it holds. -/
theorem GainsContent.lookup?_of_ne_nil (h : GainsContent now content n n') (hBelow : rest ≠ []) :
    n'.lookup? rest = n.lookup? rest := by
  cases h with
  | file =>
    cases rest with
    | nil => contradiction
    | cons => rfl

end Node

end TreeShell.Tree
