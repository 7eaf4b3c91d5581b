import Mathlib.Tactic.Common
import TreeShell.Proofs.Tree.Position

/-!
# Trees up to the order of siblings

Two trees are reordered into each other when siblings change places, at any depth and as often
as needed (`Node.Reordered`).  Names, kinds, contents, keys and instants stay.

An edit under a key (`Node.EditsUnder`) works on what a node has under this key and on nothing
else: it adds a last child, takes the child away, or changes it in place.  Edits under different
keys of one node commute up to the order of siblings, for two new children come in the order in
which they are made; so do edits at the ends of two walks, when the keys of neither lead to or
through what the other works on.

Main statements: `Node.alter_comm`, `Node.map_isDirectory_lookup?_alter`.
-/

namespace TreeShell.Tree

open TreeShell.Time

namespace Node

/-! ## Reordered trees -/

/-- Whether one tree comes of another by siblings that change places. -/
inductive Reordered : Node → Node → Prop where
  | refl (n : Node) : Reordered n n
  | siblings {cs cs' : List (String × Node)} (name : String) (created modified : Instant)
      (h : cs.Perm cs') :
      Reordered (.directory name cs created modified) (.directory name cs' created modified)
  | child {n n' : Node} (name : String) (before after : List (String × Node)) (key : String)
      (created modified : Instant) (h : Reordered n n') :
      Reordered (.directory name (before ++ (key, n) :: after) created modified)
        (.directory name (before ++ (key, n') :: after) created modified)
  | trans {n₁ n₂ n₃ : Node} (h₁ : Reordered n₁ n₂) (h₂ : Reordered n₂ n₃) : Reordered n₁ n₃

theorem Reordered.of_eq {n n' : Node} (h : n = n') : n.Reordered n' :=
  h ▸ .refl n

theorem Reordered.symm {n n' : Node} (h : n.Reordered n') : n'.Reordered n := by
  induction h with
  | refl n => exact .refl n
  | siblings name created modified hPerm => exact .siblings name created modified hPerm.symm
  | child name before after key created modified _ ih =>
    exact .child name before after key created modified ih
  | trans _ _ ih₁ ih₂ => exact ih₂.trans ih₁

/-- Children that are reordered one by one make a reordered directory. -/
theorem reordered_map {φ ψ : String × Node → String × Node}
    (h : ∀ kc, (φ kc).1 = (ψ kc).1 ∧ (φ kc).2.Reordered (ψ kc).2) (name : String)
    (created modified : Instant) (cs before : List (String × Node)) :
    (Node.directory name (before ++ cs.map φ) created modified).Reordered
      (.directory name (before ++ cs.map ψ) created modified) := by
  -- From the left: the children behind are still those that `φ` gives.
  induction cs generalizing before with
  | nil => exact .refl _
  | cons kc cs ih =>
    obtain ⟨hKey, hNode⟩ := h kc
    have hEntry : ψ kc = ((φ kc).1, (ψ kc).2) := Prod.ext hKey.symm rfl
    have hHead : (Node.directory name (before ++ φ kc :: cs.map φ) created modified).Reordered
        (.directory name (before ++ ψ kc :: cs.map φ) created modified) := by
      rw [hEntry]
      exact .child name before (cs.map φ) (φ kc).1 created modified hNode
    have hTail := ih (before ++ [ψ kc])
    simp only [List.append_assoc, List.singleton_append] at hTail
    exact hHead.trans hTail

theorem reordered_mapChild {f g : Node → Node} (h : ∀ c, (f c).Reordered (g c)) (key : String)
    (n : Node) : (n.mapChild key f).Reordered (n.mapChild key g) := by
  cases n with
  | file => exact .refl _
  | directory name cs created modified =>
    refine reordered_map ?_ name created modified cs []
    rintro ⟨k, c⟩
    by_cases hKey : k = key
    · simp [hKey, h c]
    · simp [hKey, Reordered.refl]

/-! ## Edits under a key -/

/-- The changes of a node that work on what it has under a key. -/
inductive EditsUnder (key : String) : (Node → Node) → Prop where
  | add (child : Node) : EditsUnder key (addChild key child)
  | remove : EditsUnder key (removeChild key)
  | change (f : Node → Node) : EditsUnder key (mapChild key f)

variable {key key' : String} {g g' : Node → Node}

theorem EditsUnder.keepsLabel (h : EditsUnder key g) : KeepsLabel g := by
  cases h with
  | add child => exact keepsLabel_addChild key child
  | remove => exact keepsLabel_removeChild key
  | change f => exact ⟨name_mapChild key f, isDirectory_mapChild key f⟩

theorem EditsUnder.stamp (h : EditsUnder key g) (now : Instant) (n : Node) :
    g (n.stamp now) = (g n).stamp now := by
  cases h <;> cases n <;> rfl

/-- An edit leaves the children under other keys. -/
theorem EditsUnder.child? (h : EditsUnder key g) {k : String} (hNe : k ≠ key) (n : Node) :
    (g n).child? k = n.child? k := by
  cases h with
  | add child =>
    cases n with
    | file => rfl
    | directory name cs created modified =>
      have hNew : (k == key) = false := beq_eq_false_iff_ne.2 hNe
      simp [addChild, Node.child?, children?, List.lookup_append, List.lookup_cons, hNew]
  | remove => exact child?_removeChild_of_ne hNe n
  | change f =>
    rw [child?_mapChild]
    simp [hNe]

theorem mapChild_comm (hNe : key ≠ key') (f f' : Node → Node) (n : Node) :
    (n.mapChild key f).mapChild key' f' = (n.mapChild key' f').mapChild key f := by
  cases n with
  | file => rfl
  | directory name cs created modified =>
    simp only [mapChild, List.map_map, directory.injEq, true_and, and_true]
    refine List.map_congr_left fun kc _ => ?_
    simp only [Function.comp_apply]
    -- One of the two keys at most is that of the child.
    by_cases hKey : kc.1 = key
    · simp [hKey, hNe]
    · by_cases hKey' : kc.1 = key' <;> simp [hKey, hKey', hNe.symm]

theorem mapChild_mapChild (key : String) (f f' : Node → Node) (n : Node) :
    (n.mapChild key f).mapChild key f' = n.mapChild key (f' ∘ f) := by
  cases n with
  | file => rfl
  | directory name cs created modified =>
    simp only [mapChild, List.map_map, directory.injEq, true_and, and_true]
    refine List.map_congr_left fun kc _ => ?_
    by_cases hKey : kc.1 = key <;> simp [hKey]

theorem stamp_mapChild (key : String) (f : Node → Node) (now : Instant) (n : Node) :
    (n.mapChild key f).stamp now = (n.stamp now).mapChild key f := by
  cases n <;> rfl

/-- An edit does not see what is changed under other keys. -/
theorem EditsUnder.mapChild (h : EditsUnder key g) {k : String} (hNe : k ≠ key)
    (f : Node → Node) (n : Node) : g (n.mapChild k f) = (g n).mapChild k f := by
  cases h with
  | add child =>
    cases n with
    | file => rfl
    | directory => simp [addChild, Node.mapChild, hNe.symm]
  | remove =>
    cases n with
    | file => rfl
    | directory name cs created modified =>
      have hKeys : ∀ kc : String × Node, (if kc.1 = k then (kc.1, f kc.2) else kc).1 = kc.1 := by
        intro kc
        split <;> rfl
      simp only [removeChild, Node.mapChild, List.filter_map, directory.injEq, true_and, and_true]
      congr 1
      refine List.filter_congr fun kc _ => ?_
      simp [hKeys kc]
  | change f' => exact mapChild_comm hNe f f' n

/-- **Edits under different keys** of a node commute, up to the order of siblings. -/
theorem EditsUnder.comm (h : EditsUnder key g) (h' : EditsUnder key' g') (hNe : key ≠ key')
    (n : Node) : (g' (g n)).Reordered (g (g' n)) := by
  cases h with
  | change f => exact .of_eq (h'.mapChild hNe f n)
  | add child =>
    cases h' with
    | change f' => exact .of_eq ((EditsUnder.add child).mapChild hNe.symm f' n).symm
    | add child' =>
      cases n with
      | file => exact .refl _
      | directory name cs created modified =>
        -- Two new children are the one case where the order differs.
        have hPerm : (cs ++ [(key, child)] ++ [(key', child')]).Perm
            (cs ++ [(key', child')] ++ [(key, child)]) := by
          simp only [List.append_assoc]
          exact (List.Perm.swap _ _ []).append_left cs
        exact .siblings name created modified hPerm
    | remove =>
      cases n with
      | file => exact .refl _
      | directory => simp [addChild, removeChild, hNe, Reordered.refl]
  | remove =>
    cases h' with
    | change f' => exact .of_eq (EditsUnder.remove.mapChild hNe.symm f' n).symm
    | add child' =>
      cases n with
      | file => exact .refl _
      | directory => simp [addChild, removeChild, hNe.symm, Reordered.refl]
    | remove =>
      cases n with
      | file => exact .refl _
      | directory => simp [removeChild, List.filter_filter, Bool.and_comm, Reordered.refl]

/-! ## Edits at the end of a walk -/

/-- Whether neither of two lists of keys leads to or through the end of the other. -/
structure Apart (keys keys' : List String) : Prop where
  left : ¬ keys <+: keys'
  right : ¬ keys' <+: keys

theorem Apart.symm {keys keys' : List String} (h : Apart keys keys') : Apart keys' keys :=
  ⟨h.right, h.left⟩

theorem apart_cons_cons {k : String} {keys keys' : List String} :
    Apart (k :: keys) (k :: keys') ↔ Apart keys keys' := by
  constructor
  · intro h
    exact ⟨fun hPrefix => h.left (List.cons_prefix_cons.2 ⟨rfl, hPrefix⟩),
      fun hPrefix => h.right (List.cons_prefix_cons.2 ⟨rfl, hPrefix⟩)⟩
  · intro h
    exact ⟨fun hPrefix => h.left (List.cons_prefix_cons.1 hPrefix).2,
      fun hPrefix => h.right (List.cons_prefix_cons.1 hPrefix).2⟩

theorem Apart.head_ne {k : String} {keys : List String} (h : Apart [key] (k :: keys)) :
    k ≠ key := by
  rintro rfl
  exact h.left (List.cons_prefix_cons.2 ⟨rfl, List.nil_prefix⟩)

/-- The walk to a node under a key is the walk to its parent, with a change under the key. -/
theorem alter_concat (now : Instant) (f : Node → Node) (path : List String) (key : String)
    (n : Node) :
    n.alter now f (path ++ [key])
      = n.alter now (Node.mapChild key fun c => f (c.stamp now)) path := by
  induction path generalizing n with
  | nil => rfl
  | cons k path ih =>
    have hBelow : Node.alter now f (path ++ [key])
        = Node.alter now (Node.mapChild key fun c => f (c.stamp now)) path := funext ih
    rw [List.cons_append, alter, alter, hBelow]

/-- **Kinds**: an edit at the end of a walk changes no kind, but at what it works on and below. -/
theorem map_isDirectory_lookup?_alter (h : EditsUnder key g) (now : Instant)
    {path keys : List String} (hApart : ¬ path ++ [key] <+: keys) (n : Node) :
    ((n.alter now g path).lookup? keys).map isDirectory
      = (n.lookup? keys).map isDirectory := by
  -- Along the walk; the keys leave it at a child under another key, or end on it.
  induction path generalizing n keys with
  | nil =>
    cases keys with
    | nil => simp [lookup?, alter, h.keepsLabel.isDirectory]
    | cons k keys =>
      have hNe : k ≠ key := by
        rintro rfl
        exact hApart (List.cons_prefix_cons.2 ⟨rfl, List.nil_prefix⟩)
      simp [lookup?, alter, h.child? hNe]
  | cons first path ih =>
    cases keys with
    | nil => simp [lookup?, (h.keepsLabel.alter now (first :: path)).isDirectory]
    | cons k keys =>
      simp only [lookup?, alter, child?_mapChild, child?_stamp]
      by_cases hKey : k = first
      · subst hKey
        have hBelow : ¬ path ++ [key] <+: keys := fun hPrefix =>
          hApart (List.cons_prefix_cons.2 ⟨rfl, hPrefix⟩)
        cases n.child? k with
        | none => rfl
        | some c => simpa using ih hBelow c
      · cases n.child? k with
        | none => rfl
        | some c => simp [hKey]

/-- The edit at a node and a walk through another child of it commute. -/
theorem EditsUnder.alter_cons (h : EditsUnder key g) (now : Instant) {k : String} (hNe : k ≠ key)
    (g' : Node → Node) (path : List String) (n : Node) :
    (n.alter now g []).alter now g' (k :: path) = (n.alter now g' (k :: path)).alter now g [] := by
  simp only [alter, h.stamp, stamp_mapChild, h.mapChild hNe]

/-- **Edits at the ends of two walks** commute at one instant, up to the order of siblings. -/
theorem alter_comm (h : EditsUnder key g) (h' : EditsUnder key' g') (now : Instant)
    {path path' : List String} (hApart : Apart (path ++ [key]) (path' ++ [key'])) (n : Node) :
    ((n.alter now g path).alter now g' path').Reordered
      ((n.alter now g' path').alter now g path) := by
  -- Along both walks as long as they go together.
  induction path generalizing path' n with
  | nil =>
    cases path' with
    | nil =>
      have hNe : key ≠ key' := hApart.symm.head_ne
      simp only [alter, ← h.stamp, ← h'.stamp]
      exact h.comm h' hNe _
    | cons k path' => exact .of_eq (h.alter_cons now hApart.head_ne g' path' n)
  | cons k path ih =>
    cases path' with
    | nil => exact .of_eq (h'.alter_cons now hApart.symm.head_ne g path n).symm
    | cons k' path' =>
      by_cases hKey : k = k'
      · subst hKey
        have hBelow : Apart (path ++ [key]) (path' ++ [key']) := apart_cons_cons.1 hApart
        simp only [alter, stamp_mapChild, mapChild_mapChild]
        apply reordered_mapChild
        intro c
        exact ih hBelow c
      · simp only [alter, stamp_mapChild]
        exact .of_eq (mapChild_comm hKey _ _ _)

end Node

end TreeShell.Tree
