import TreeShell.Proofs.Json.RoundTrip
import TreeShell.Proofs.Time.Stamp
import TreeShell.Proofs.Tree.Step
import TreeShell.Tree.Document

/-!
# Saved states read back

A level of a tree is two objects in its saved form, so a tree of at most 62 levels below
the root stays inside the nesting that a reader allows; and no text that is read gives a
deeper tree, although a directory may be written with one object more than it was read
from.

Main statements: `State.load?_save`, `State.eq_of_load?_save`, and for what is read
`State.distinctKeys_of_load?` and `State.within_of_load?`.
-/

namespace TreeShell.Tree

open TreeShell.Time TreeShell.Json

/-- How many levels below the root fit into a saved text: the outermost object, the two
of each node on the way, and those of the node itself. -/
def maxSavedDepth : Nat := 62

/-! ## The written value -/

mutual

theorem Node.isNumberFree_toJson : ∀ n : Node, n.toJson.isNumberFree = true
  | .file .. => rfl
  | .directory _ cs _ _ => by
    have hChildren := membersNumberFree_childMembers cs
    simp [Node.toJson, member, textJson, instantJson, isNumberFree, membersNumberFree, hChildren]

theorem membersNumberFree_childMembers : ∀ cs : List (String × Node),
    membersNumberFree (childMembers cs) = true
  | [] => rfl
  | (_, n) :: cs => by
    have hHead := Node.isNumberFree_toJson n
    have hTail := membersNumberFree_childMembers cs
    simp [childMembers, member, membersNumberFree, hHead, hTail]

end

theorem State.isNumberFree_toJson (s : State) : s.toJson.isNumberFree = true := by
  simp [State.toJson, member, textJson, isNumberFree, membersNumberFree,
    Node.isNumberFree_toJson s.root]

mutual

theorem Node.isPlain_toJson : ∀ n : Node, n.toJson.isPlain = true
  | .file .. => rfl
  | .directory _ cs _ _ => by
    have hChildren := membersPlain_childMembers cs
    simp [Node.toJson, member, textJson, instantJson, isPlain, membersPlain, hChildren]

theorem membersPlain_childMembers : ∀ cs : List (String × Node),
    membersPlain (childMembers cs) = true
  | [] => rfl
  | (_, n) :: cs => by
    have hHead := Node.isPlain_toJson n
    have hTail := membersPlain_childMembers cs
    simp [childMembers, member, membersPlain, hHead, hTail]

end

/-! ## Nesting -/

namespace Node

theorem within_entries {limit : Nat} {n : Node} (h : n.Within limit) :
    ∀ kc ∈ n.entries, 0 < limit ∧ kc.2.Within (limit - 1) := by
  intro kc hkc
  have hBelow := (everywhere_iff.1 h).2 kc hkc
  have hPos : 0 < limit := Nat.lt_of_lt_of_le (Nat.succ_pos _) (hBelow [] kc.2 (.here _))
  exact ⟨hPos, hBelow.mono fun path m hPath => Nat.le_sub_one_of_lt hPath⟩

end Node

mutual

/-- A node with `depth` levels below it is written with two objects for each of them and
two for itself. -/
theorem Node.fits_toJson : ∀ (n : Node) (depth : Nat), n.Within depth →
    n.toJson.fits (2 * depth + 2) = true
  | .file .., depth, _ => by
    simp [Node.toJson, member, textJson, instantJson, fits, membersFit]
  | .directory _ cs _ _, depth, h => by
    have hChildren := membersFit_childMembers cs (2 * depth) fun kc hkc => by
      obtain ⟨hPos, hBelow⟩ := Node.within_entries h kc hkc
      exact ⟨depth - 1, by omega, hBelow⟩
    simp [Node.toJson, member, textJson, instantJson, fits, membersFit, hChildren]

theorem membersFit_childMembers : ∀ (cs : List (String × Node)) (limit : Nat),
    (∀ kc ∈ cs, ∃ depth, limit = 2 * depth + 2 ∧ kc.2.Within depth) →
    membersFit limit (childMembers cs) = true
  | [], _, _ => rfl
  | (key, n) :: cs, limit, h => by
    obtain ⟨depth, rfl, hDepth⟩ := h (key, n) List.mem_cons_self
    have hHead := Node.fits_toJson n depth hDepth
    have hTail := membersFit_childMembers cs _ fun kc hkc => h kc (List.mem_cons_of_mem _ hkc)
    simp [childMembers, member, membersFit, hHead, hTail]

end

/-! ## Reading the written value -/

@[simp] theorem text?_textJson (s : String) : text? (textJson s) = some s := rfl

@[simp] theorem instant?_instantJson (t : Instant) : instant? (instantJson t) = some t := by
  simp [instant?, instantJson, Instant.parse?_render]

theorem putChild_of_notMem {cs : List (String × Node)} {key : String} (n : Node)
    (h : key ∉ cs.map Prod.fst) : putChild cs key n = cs ++ [(key, n)] := by
  simp [putChild, lookup_eq_none_iff_notMem.2 h]

mutual

theorem Node.ofJson?_toJson : ∀ n : Node, n.DistinctKeys → Node.ofJson? n.toJson = some n
  | .file name content created modified, _ => by
    simp [Node.toJson, Node.ofJson?, assembleNode, oneText?, oneInstant?, oneKind?, textOrEmpty?,
      valuesOf, member, kind?, textJson, text?, instant?_instantJson]
  | .directory name cs created modified, h => by
    have hHere := (Node.everywhere_iff.1 h).1
    have hChildren := childrenOf_childMembers cs [] (by simpa [Node.keys] using hHere)
      (Node.everywhere_iff.1 h).2
    simp [Node.toJson, Node.ofJson?, childrenIn, assembleNode, oneText?, oneInstant?, oneKind?,
      valuesOf, member, kind?, textJson, text?, instant?_instantJson, hChildren]

theorem childrenOf_childMembers : ∀ cs before : List (String × Node),
    ((before ++ cs).map Prod.fst).Nodup → (∀ kc ∈ cs, kc.2.DistinctKeys) →
    childrenOf before (childMembers cs) = some (before ++ cs)
  | [], before, _, _ => by simp [childMembers, childrenOf]
  | (key, n) :: cs, before, hKeys, hChildren => by
    have hHead := Node.ofJson?_toJson n (hChildren (key, n) List.mem_cons_self)
    -- No key was there before, so no child is put in another's place.
    have hNew : key ∉ before.map Prod.fst := by
      intro hMem
      rw [List.map_append, List.map_cons, List.nodup_append] at hKeys
      exact hKeys.2.2 key hMem key List.mem_cons_self rfl
    have hTail := childrenOf_childMembers cs (before ++ [(key, n)]) (by simpa using hKeys)
      fun kc hkc => hChildren kc (List.mem_cons_of_mem _ hkc)
    simp [childMembers, member, childrenOf, hHead, putChild_of_notMem n hNew, hTail]

end

/-- A state reads back from its text unless its tree is too deep for a reader. -/
theorem State.load?_save_eq {s : State} (hKeys : s.root.DistinctKeys) :
    State.load? s.save = if s.root.toJson.fits (maxNesting - 1) then some s else none := by
  have hParse : Json.parse? s.save.toList = some s.toJson := by
    simpa [State.save] using parse?_render s.isNumberFree_toJson
  have hRoot : dataNode? 1 s.root.toJson
      = if s.root.toJson.fits (maxNesting - 1) then some s.root else none := by
    simp [dataNode?, Node.isPlain_toJson, Node.ofJson?_toJson s.root hKeys]
  rw [State.load?, hParse, Option.bind_eq_bind, Option.bind_some]
  simp only [State.toJson, State.ofJson?, valuesOf, member]
  simp [hRoot, textOrEmpty?, valuesOf]
  split <;> simp

/-- **Reading back**: a tree of maps that is not too deep is read as it was saved. -/
theorem State.load?_save {s : State} (hKeys : s.root.DistinctKeys)
    (hDepth : s.root.Within maxSavedDepth) : State.load? s.save = some s := by
  rw [State.load?_save_eq hKeys, if_pos]
  exact Node.fits_toJson s.root maxSavedDepth hDepth

/-- Whatever is read from the text of a state is that state. -/
theorem State.eq_of_load?_save {s s' : State} (hKeys : s.root.DistinctKeys)
    (h : State.load? s.save = some s') : s' = s := by
  rw [State.load?_save_eq hKeys] at h
  split at h
  · exact (Option.some.inj h).symm
  · contradiction

/-! ## What is read -/

/-- A node made from members has the children that its members hold, if any. -/
theorem entries_of_assembleNode {members : List (Literal × Json)}
    {children : List (Option (List (String × Node)))} {n : Node}
    (h : assembleNode members children = some n) :
    n.entries = [] ∨ children = [some n.entries] := by
  simp only [assembleNode, Option.bind_eq_bind, Option.bind_eq_some_iff] at h
  obtain ⟨name, -, created, -, modified, -, kind, -, h⟩ := h
  cases kind with
  | file =>
    -- A file has no children, whatever its members hold.
    obtain ⟨content, -, h⟩ := Option.bind_eq_some_iff.1 h
    cases h
    exact .inl rfl
  | directory =>
    rcases children with _ | ⟨_ | cs, _ | _⟩
    · cases h
      exact .inl rfl
    · simp at h
    · simp at h
    · cases h
      exact .inr rfl
    · simp at h

theorem nodup_keys_putChild {cs : List (String × Node)} {key : String} {n : Node}
    (h : (cs.map Prod.fst).Nodup) : ((putChild cs key n).map Prod.fst).Nodup := by
  unfold putChild
  split
  · rw [map_fst_replace cs key fun _ => n]
    exact h
  · rename_i hNone
    exact nodup_keys_append n h
      (lookup_eq_none_iff_notMem.1 (Option.not_isSome_iff_eq_none.1 hNone))

theorem mem_putChild {cs : List (String × Node)} {key : String} {n : Node}
    {kc : String × Node} (h : kc ∈ putChild cs key n) : kc ∈ cs ∨ kc.2 = n := by
  unfold putChild at h
  split at h
  · obtain ⟨⟨k, c⟩, hMem, rfl⟩ := List.mem_map.1 h
    by_cases hKey : k = key
    · exact .inr (by simp [hKey])
    · exact .inl (by simpa [hKey] using hMem)
  · rcases List.mem_append.1 h with hMem | hMem
    · exact .inl hMem
    · exact .inr (by simp [List.mem_singleton.1 hMem])

/-- What a reader that may begin `limit` more arrays and objects makes of a node: a tree of
maps with at most two objects a level. -/
def ReadInside (limit : Nat) (path : List String) (m : Node) : Prop :=
  2 * path.length < limit ∧ m.keys.Nodup

-- The limit falls by one from a node to its members and by one more to its children.
mutual

theorem everywhere_of_ofJson? : ∀ (v : Json) (limit : Nat) (n : Node), v.fits limit = true →
    Node.ofJson? v = some n → n.Everywhere (ReadInside limit)
  | .object members, limit, n, hFits, h => by
    simp only [fits, Bool.and_eq_true, decide_eq_true_eq] at hFits
    rw [Node.ofJson?] at h
    rcases entries_of_assembleNode h with hNone | hChildren
    · refine Node.everywhere_of_entries_eq_nil hNone ⟨by simpa using hFits.1, ?_⟩
      simp [Node.keys, hNone]
    · obtain ⟨hKeys, hBelow⟩ := everywhere_of_childrenIn members (limit - 1) n.entries hFits.2
        (by simp [hChildren])
      refine Node.everywhere_iff.2 ⟨⟨by simpa using hFits.1, hKeys⟩, fun kc hkc => ?_⟩
      refine (hBelow kc hkc).mono fun path m hm => ⟨?_, hm.2⟩
      have := hm.1
      simp only [List.length_cons]
      omega
  | .null, _, _, _, h => by simp [Node.ofJson?] at h
  | .bool _, _, _, _, h => by simp [Node.ofJson?] at h
  | .number _, _, _, _, h => by simp [Node.ofJson?] at h
  | .string _, _, _, _, h => by simp [Node.ofJson?] at h
  | .array _, _, _, _, h => by simp [Node.ofJson?] at h

theorem everywhere_of_childrenIn : ∀ (members : List (Literal × Json)) (limit : Nat)
    (cs : List (String × Node)), membersFit limit members = true → some cs ∈ childrenIn members →
    (cs.map Prod.fst).Nodup ∧ ∀ kc ∈ cs, kc.2.Everywhere (ReadInside (limit - 1))
  | [], _, _, _, h => by simp [childrenIn] at h
  | (k, v) :: rest, limit, cs, hFits, h => by
    simp only [membersFit, Bool.and_eq_true] at hFits
    have hRest := everywhere_of_childrenIn rest limit cs hFits.2
    unfold childrenIn at h
    split at h
    · contradiction
    · rename_i members _ hMember
      cases hMember
      rcases List.mem_cons.1 h with hHead | hTail
      · simp only [fits, Bool.and_eq_true] at hFits
        exact everywhere_of_childrenOf members (limit - 1) [] cs hFits.1.2 (by simp) (by simp)
          hHead.symm
      · exact hRest hTail
    · rename_i hMember
      cases hMember
      exact hRest (by simpa using h)
    · rename_i hMember
      cases hMember
      exact hRest h

theorem everywhere_of_childrenOf : ∀ (members : List (Literal × Json)) (limit : Nat)
    (before cs : List (String × Node)), membersFit limit members = true →
    (before.map Prod.fst).Nodup → (∀ kc ∈ before, kc.2.Everywhere (ReadInside limit)) →
    childrenOf before members = some cs →
    (cs.map Prod.fst).Nodup ∧ ∀ kc ∈ cs, kc.2.Everywhere (ReadInside limit)
  | [], _, before, cs, _, hKeys, hBefore, h => by
    obtain rfl : before = cs := by simpa [childrenOf] using h
    exact ⟨hKeys, hBefore⟩
  | (none, _) :: _, _, _, _, _, _, _, h => by simp [childrenOf] at h
  | (some key, v) :: rest, limit, before, cs, hFits, hKeys, hBefore, h => by
    simp only [membersFit, Bool.and_eq_true] at hFits
    rw [childrenOf] at h
    split at h
    · rename_i n hn
      have hNode := everywhere_of_ofJson? v limit n hFits.1 hn
      refine everywhere_of_childrenOf rest limit _ cs hFits.2 (nodup_keys_putChild hKeys) ?_ h
      intro kc hkc
      rcases mem_putChild hkc with hMem | rfl
      · exact hBefore kc hMem
      · exact hNode
    · contradiction

end

theorem everywhere_of_dataNode? {depth : Nat} {v : Json} {n : Node}
    (h : dataNode? depth v = some n) : n.Everywhere (ReadInside (maxNesting - depth)) := by
  unfold dataNode? at h
  split at h
  · rename_i hFits
    exact everywhere_of_ofJson? v _ n (Bool.and_eq_true _ _ ▸ hFits).1 h
  · contradiction

theorem State.everywhere_of_load? {text : String} {s : State} (h : State.load? text = some s) :
    s.root.Everywhere (ReadInside (maxNesting - 1)) := by
  obtain ⟨v, -, h⟩ := Option.bind_eq_some_iff.1 h
  unfold State.ofJson? at h
  -- A state stands as an object, or as an array with or without a path.
  split at h
  · split at h
    · simp only [Option.bind_eq_bind, Option.bind_eq_some_iff] at h
      obtain ⟨root, hRoot, path, -, h⟩ := h
      split at h
      · cases h
        exact everywhere_of_dataNode? hRoot
      · contradiction
    · contradiction
  · simp only [Option.bind_eq_bind, Option.bind_eq_some_iff] at h
    obtain ⟨root, hRoot, h⟩ := h
    cases h
    exact everywhere_of_dataNode? hRoot
  · simp only [Option.bind_eq_bind, Option.bind_eq_some_iff] at h
    obtain ⟨root, hRoot, path, -, h⟩ := h
    cases h
    exact everywhere_of_dataNode? hRoot
  · contradiction

/-- **Trees of maps**: siblings that are read have distinct keys, also where a text gives
one key twice. -/
theorem State.distinctKeys_of_load? {text : String} {s : State}
    (h : State.load? text = some s) : s.root.DistinctKeys :=
  (State.everywhere_of_load? h).mono fun _ _ hm => hm.2

/-- **Depth**: a tree that is read is not too deep to be saved. -/
theorem State.within_of_load? {text : String} {s : State} (h : State.load? text = some s) :
    s.root.Within maxSavedDepth :=
  (State.everywhere_of_load? h).mono fun path _ hm => by
    have hLength : 2 * path.length < 126 := hm.1
    show path.length ≤ 62
    omega

end TreeShell.Tree
