import Mathlib.Tactic.Common
import TreeShell.Tree.State

/-!
# Positions in a tree

`n.At keys m` says that the node `m` lies below `n` at the end of the keys.  It is a
relation of its own beside `Node.lookup?`, which answers the first node only: where a key
occurs twice among siblings, every node still has its position.

A property of every node of a tree is a property of positions, `Node.Everywhere`.  It is
kept by a change along a path when each node on the way keeps it
(`Node.SurvivesOnTheWay`) and the change at the end does.

Main statements: `lookup?_alter`, `lookup?_eq_some_iff_at`, `Everywhere.alter`.
-/

namespace TreeShell.Tree

open TreeShell.Time

/-! ## Children by key -/

theorem lookup_eq_none_iff_notMem {cs : List (String × Node)} {key : String} :
    cs.lookup key = none ↔ key ∉ cs.map Prod.fst := by
  simp only [List.lookup_eq_none_iff, List.mem_map, bne_iff_ne, not_exists, not_and]
  exact ⟨fun h kc hkc hEq => h kc hkc hEq.symm, fun h kc hkc hEq => h kc hkc hEq.symm⟩

theorem map_fst_replace (cs : List (String × Node)) (key : String) (f : Node → Node) :
    (cs.map fun (k, c) => if k = key then (k, f c) else (k, c)).map Prod.fst
      = cs.map Prod.fst := by
  rw [List.map_map]
  refine List.map_congr_left fun kc _ => ?_
  simp only [Function.comp_apply]
  split <;> rfl

theorem nodup_keys_append {cs : List (String × Node)} {key : String} (child : Node)
    (hKeys : (cs.map Prod.fst).Nodup) (hNew : key ∉ cs.map Prod.fst) :
    ((cs ++ [(key, child)]).map Prod.fst).Nodup := by
  rw [List.map_append, List.nodup_append]
  refine ⟨hKeys, by simp, fun k hk other hOther hEq => hNew ?_⟩
  obtain rfl : other = key := by simpa using hOther
  exact hEq ▸ hk

namespace Node

/-! ## Entries -/

/-- The children with their keys; a file has none. -/
def entries (n : Node) : List (String × Node) :=
  n.children?.getD []

@[simp] theorem entries_file (name content : String) (c m : Instant) :
    (Node.file name content c m).entries = [] := rfl

@[simp] theorem entries_directory (name : String) (cs : List (String × Node)) (c m : Instant) :
    (Node.directory name cs c m).entries = cs := rfl

@[simp] theorem entries_stamp (now : Instant) (n : Node) : (n.stamp now).entries = n.entries := by
  cases n <;> rfl

@[simp] theorem entries_setContent (content : String) (n : Node) :
    (n.setContent content).entries = n.entries := by
  cases n <;> rfl

theorem entries_mapChild (key : String) (f : Node → Node) (n : Node) :
    (n.mapChild key f).entries
      = n.entries.map fun (k, c) => if k = key then (k, f c) else (k, c) := by
  cases n <;> rfl

theorem entries_addChild (key : String) (child : Node) {n : Node} (h : n.isDirectory = true) :
    (addChild key child n).entries = n.entries ++ [(key, child)] := by
  cases n with
  | file => simp [isDirectory] at h
  | directory => rfl

theorem entries_removeChild (key : String) (n : Node) :
    (n.removeChild key).entries = n.entries.filter fun (k, _) => k ≠ key := by
  cases n <;> rfl

theorem child?_eq_lookup (n : Node) (key : String) : n.child? key = n.entries.lookup key := by
  cases n <;> rfl

/-- The keys of the children, in order. -/
def keys (n : Node) : List String :=
  n.entries.map Prod.fst

@[simp] theorem keys_stamp (now : Instant) (n : Node) : (n.stamp now).keys = n.keys := by
  simp [keys]

@[simp] theorem keys_setContent (content : String) (n : Node) :
    (n.setContent content).keys = n.keys := by
  simp [keys]

@[simp] theorem keys_mapChild (key : String) (f : Node → Node) (n : Node) :
    (n.mapChild key f).keys = n.keys := by
  rw [keys, entries_mapChild, map_fst_replace, keys]

theorem child?_eq_none_iff_notMem (n : Node) (key : String) :
    n.child? key = none ↔ key ∉ n.keys := by
  rw [child?_eq_lookup, lookup_eq_none_iff_notMem, keys]

/-! ## Children after a change -/

theorem lookup_replace (cs : List (String × Node)) (key : String) (f : Node → Node) (k : String) :
    (cs.map fun (k, c) => if k = key then (k, f c) else (k, c)).lookup k
      = (cs.lookup k).map fun c => if k = key then f c else c := by
  induction cs with
  | nil => rfl
  | cons kc cs ih =>
    obtain ⟨k', c⟩ := kc
    -- The first entry under `k` decides, changed or not.
    by_cases hHere : k = k'
    · subst hHere
      by_cases hKey : k = key <;> simp [hKey]
    · have hNe : (k == k') = false := beq_eq_false_iff_ne.2 hHere
      by_cases hKey : k' = key
      · simpa [List.lookup_cons, hNe, hKey ▸ hNe, hKey] using ih
      · simpa [List.lookup_cons, hNe, hKey] using ih

theorem lookup_filter_ne (cs : List (String × Node)) {key k : String} (h : k ≠ key) :
    (cs.filter fun (k, _) => k ≠ key).lookup k = cs.lookup k := by
  induction cs with
  | nil => rfl
  | cons kc cs ih =>
    obtain ⟨k', c⟩ := kc
    by_cases hKey : k' = key
    · -- An entry that is dropped is not the one that `k` finds.
      have hNe : (k == k') = false := beq_eq_false_iff_ne.2 (hKey ▸ h)
      simpa [List.filter_cons, List.lookup_cons, hNe, hKey, hKey ▸ hNe] using ih
    · cases hHere : k == k' with
      | true => simp [List.lookup_cons, hKey, hHere]
      | false => simpa [List.filter_cons, List.lookup_cons, hKey, hHere] using ih

@[simp] theorem child?_stamp (now : Instant) (n : Node) (k : String) :
    (n.stamp now).child? k = n.child? k := by
  simp [child?_eq_lookup]

@[simp] theorem child?_setContent (content : String) (n : Node) (k : String) :
    (n.setContent content).child? k = n.child? k := by
  simp [child?_eq_lookup]

theorem child?_mapChild (key : String) (f : Node → Node) (n : Node) (k : String) :
    (n.mapChild key f).child? k = (n.child? k).map fun c => if k = key then f c else c := by
  simp only [child?_eq_lookup, entries_mapChild]
  exact lookup_replace n.entries key f k

theorem child?_addChild_of_some (key : String) (child : Node) {n c : Node} {k : String}
    (h : n.child? k = some c) : (addChild key child n).child? k = some c := by
  cases n with
  | file => simp [child?, children?] at h
  | directory name cs created modified =>
    -- The new child comes last, so that the one under `k` is still found first.
    have hOld : cs.lookup k = some c := h
    simp [addChild, child?, children?, List.lookup_append, hOld]

theorem child?_addChild_self {key : String} {n : Node} (child : Node)
    (hDirectory : n.isDirectory = true) (hFree : n.child? key = none) :
    (addChild key child n).child? key = some child := by
  rw [child?_eq_lookup, entries_addChild key child hDirectory, List.lookup_append,
    ← child?_eq_lookup, hFree, Option.none_or, List.lookup_cons_self]

theorem child?_removeChild_of_ne {key k : String} (h : k ≠ key) (n : Node) :
    (n.removeChild key).child? k = n.child? k := by
  simp only [child?_eq_lookup, entries_removeChild]
  exact lookup_filter_ne n.entries h

theorem child?_removeChild_self (key : String) (n : Node) :
    (n.removeChild key).child? key = none := by
  have hGone : key ∉ (n.entries.filter fun (k, _) => k ≠ key).map Prod.fst := by simp
  rw [child?_eq_none_iff_notMem, keys, entries_removeChild]
  exact hGone

/-! ## The walk that changes a tree -/

theorem lookup?_append (n : Node) (path rest : List String) :
    n.lookup? (path ++ rest) = (n.lookup? path).bind (·.lookup? rest) := by
  induction path generalizing n with
  | nil => rfl
  | cons key path ih =>
    rw [List.cons_append, lookup?, lookup?]
    cases n.child? key with
    | none => rfl
    | some c => exact ih c

theorem lookup?_concat (n : Node) (path : List String) (key : String) :
    n.lookup? (path ++ [key]) = (n.lookup? path).bind (·.child? key) := by
  have hChild : ∀ m : Node, m.lookup? [key] = m.child? key := by
    intro m
    rw [lookup?]
    cases m.child? key <;> rfl
  rw [lookup?_append]
  exact congrArg (Option.bind _) (funext hChild)

/-- The walk that stamps a path reaches the node that was looked up there, and none where
there was none. -/
theorem lookup?_alter (now : Instant) (f : Node → Node) (path : List String) (n : Node) :
    (n.alter now f path).lookup? path = (n.lookup? path).map fun m => f (m.stamp now) := by
  induction path generalizing n with
  | nil => rfl
  | cons key path ih =>
    -- The first child under the key is the one that is changed.
    rw [alter, lookup?, child?_mapChild, child?_stamp, lookup?]
    cases n.child? key with
    | none => rfl
    | some c => simpa using ih c

/-! ## What a change leaves of a node -/

@[simp] theorem name_stamp (now : Instant) (n : Node) : (n.stamp now).name = n.name := by
  cases n <;> rfl

@[simp] theorem isDirectory_stamp (now : Instant) (n : Node) :
    (n.stamp now).isDirectory = n.isDirectory := by
  cases n <;> rfl

@[simp] theorem name_mapChild (key : String) (f : Node → Node) (n : Node) :
    (n.mapChild key f).name = n.name := by
  cases n <;> rfl

@[simp] theorem isDirectory_mapChild (key : String) (f : Node → Node) (n : Node) :
    (n.mapChild key f).isDirectory = n.isDirectory := by
  cases n <;> rfl

/-- A change keeps the label of a node when it keeps the name and the kind. -/
structure KeepsLabel (f : Node → Node) : Prop where
  name : ∀ n, (f n).name = n.name
  isDirectory : ∀ n, (f n).isDirectory = n.isDirectory

theorem keepsLabel_addChild (key : String) (child : Node) : KeepsLabel (addChild key child) :=
  ⟨fun n => by cases n <;> rfl, fun n => by cases n <;> rfl⟩

theorem keepsLabel_removeChild (key : String) : KeepsLabel (removeChild key) :=
  ⟨fun n => by cases n <;> rfl, fun n => by cases n <;> rfl⟩

theorem keepsLabel_setContent (content : String) : KeepsLabel (setContent content) :=
  ⟨fun n => by cases n <;> rfl, fun n => by cases n <;> rfl⟩

theorem KeepsLabel.alter {f : Node → Node} (hf : KeepsLabel f) (now : Instant)
    (path : List String) : KeepsLabel (alter now f path) := by
  cases path with
  | nil => exact ⟨fun n => by simp [Node.alter, hf.name],
      fun n => by simp [Node.alter, hf.isDirectory]⟩
  | cons key path => exact ⟨fun n => by simp [Node.alter], fun n => by simp [Node.alter]⟩

/-! ## Positions -/

/-- The node at the end of the second argument lies there below the first. -/
inductive At : Node → List String → Node → Prop where
  | here (n : Node) : At n [] n
  | descend {n c m : Node} {key : String} {path : List String} :
      (key, c) ∈ n.entries → At c path m → At n (key :: path) m

theorem mem_entries_of_child? {n c : Node} {key : String} (h : n.child? key = some c) :
    (key, c) ∈ n.entries := by
  rw [child?_eq_lookup, List.lookup_eq_some_iff] at h
  obtain ⟨before, after, hEntries, _⟩ := h
  simp [hEntries]

theorem at_of_lookup? {n m : Node} {path : List String} (h : n.lookup? path = some m) :
    n.At path m := by
  induction path generalizing n with
  | nil =>
    obtain rfl : n = m := Option.some.inj h
    exact .here n
  | cons key path ih =>
    rw [lookup?, Option.bind_eq_some_iff] at h
    obtain ⟨c, hChild, hLookup⟩ := h
    exact .descend (mem_entries_of_child? hChild) (ih hLookup)

/-! ## Properties of every node -/

/-- Whether a property of positions and nodes holds all over a tree. -/
def Everywhere (n : Node) (P : List String → Node → Prop) : Prop :=
  ∀ path m, n.At path m → P path m

variable {P : List String → Node → Prop}

theorem everywhere_iff {n : Node} :
    n.Everywhere P ↔ P [] n ∧ ∀ kc ∈ n.entries, kc.2.Everywhere fun path => P (kc.1 :: path) := by
  constructor
  · intro h
    exact ⟨h [] n (.here n), fun kc hkc path m hAt => h _ m (.descend hkc hAt)⟩
  · rintro ⟨hHere, hBelow⟩ path m hAt
    cases hAt with
    | here => exact hHere
    | descend hMem hAt => exact hBelow _ hMem _ m hAt

theorem Everywhere.mono {Q : List String → Node → Prop} {n : Node} (h : n.Everywhere P)
    (hPQ : ∀ path m, P path m → Q path m) : n.Everywhere Q :=
  fun path m hAt => hPQ path m (h path m hAt)

/-- A property survives on the way to a change: neither the stamp of a node nor a change
of one child that keeps the label of the child breaks it. -/
def SurvivesOnTheWay (P : List String → Node → Prop) (now : Instant) : Prop :=
  ∀ path m key f, KeepsLabel f → P path m → P path ((m.stamp now).mapChild key f)

/-- **Change along a path**: a property of every node is kept when it survives on the way
and the node at the end, with all below it, keeps it. -/
theorem Everywhere.alter {now : Instant} {f : Node → Node} (hf : KeepsLabel f)
    {path : List String} {n : Node} (hWay : SurvivesOnTheWay P now) (h : n.Everywhere P)
    (hEnd : ∀ m, n.At path m → (m.Everywhere fun below => P (path ++ below)) →
      (f (m.stamp now)).Everywhere fun below => P (path ++ below)) :
    (n.alter now f path).Everywhere P := by
  -- Along the path; below a child the property speaks of positions from that child, so
  -- it changes with every key.
  induction path generalizing n P with
  | nil => exact hEnd n (.here n) h
  | cons key path ih =>
    rw [everywhere_iff] at h ⊢
    refine ⟨hWay _ _ _ _ (hf.alter now path) h.1, fun kc hkc => ?_⟩
    simp only [Node.alter, entries_mapChild, entries_stamp, List.mem_map] at hkc
    obtain ⟨⟨k, c⟩, hMem, rfl⟩ := hkc
    have hChild := h.2 _ hMem
    -- Only the child under the first key is changed.
    by_cases hKey : k = key
    · subst k
      simp only [if_true]
      exact ih (fun below m => hWay (key :: below) m) hChild
        fun m hAt hm => hEnd m (.descend hMem hAt) hm
    · simpa only [if_neg hKey] using hChild

/-! ## Distinct keys -/

/-- Whether siblings have distinct keys all over a tree, as in a tree of maps. -/
def DistinctKeys (n : Node) : Prop :=
  n.Everywhere fun _ m => m.keys.Nodup

theorem child?_of_mem_entries {n c : Node} {key : String} (hKeys : n.keys.Nodup)
    (h : (key, c) ∈ n.entries) : n.child? key = some c := by
  obtain ⟨before, after, hEntries⟩ := List.append_of_mem h
  rw [child?_eq_lookup, List.lookup_eq_some_iff]
  refine ⟨before, after, hEntries, fun kc hkc => ?_⟩
  -- An earlier entry under this key would give the key twice.
  rw [keys, hEntries, List.map_append, List.map_cons, List.nodup_append] at hKeys
  have hNe : kc.1 ≠ key := hKeys.2.2 _ (List.mem_map_of_mem hkc) _ List.mem_cons_self
  simpa using hNe.symm

/-- In a tree of maps a look-up answers exactly the node at a position. -/
theorem lookup?_eq_some_iff_at {n m : Node} {path : List String} (hKeys : n.DistinctKeys) :
    n.lookup? path = some m ↔ n.At path m := by
  refine ⟨at_of_lookup?, fun hAt => ?_⟩
  induction hAt with
  | here n => rfl
  | descend hMem hAt ih =>
    have hHere := (everywhere_iff.1 hKeys).1
    have hBelow := (everywhere_iff.1 hKeys).2 _ hMem
    rw [lookup?, child?_of_mem_entries hHere hMem, Option.bind_some]
    exact ih hBelow

end Node

end TreeShell.Tree
