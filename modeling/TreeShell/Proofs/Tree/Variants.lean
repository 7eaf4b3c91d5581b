import Mathlib.Data.List.Perm.Basic
import Mathlib.Logic.Relation
import Mathlib.Tactic.Common
import TreeShell.Proofs.Json.Spelling
import TreeShell.Proofs.Tree.Document

/-!
# Saved states written otherwise

The members of the object of a state or of a node may stand in any order, among others that the
reader does not know, and an empty content, no children and an empty path may be left out.  The
order of the members of a `children` object is that of the children, and stays.

`NodeVariant` and `StateVariant` have one constructor for each of these changes to a value, and
one for a change to the value of a node further inside.  Each change keeps the state that the
value holds, and so any number of them does, in whatever text the value then stands.

## Layers

- `IsData`, `NodeVariant.isData`: a node that is written otherwise is still data;
- `valuesOf_perm`, `valuesOf_between`: what a change makes of the members with a name;
- `readOrElse_permute`, `readOrElse_drop`, `readOrElse_replace`: and of what is read of them;
- `Retells`, `NodeVariant.ofJson?`: what it makes of a node;
- `StateVariant.ofJson?`, `State.load?_of_variant`: and of a state and its text.
-/

namespace TreeShell

open TreeShell.Json TreeShell.Time TreeShell.Tree

/-! ## Data -/

namespace Json

/-- Whether a reader that may begin `limit` arrays and objects takes a value for data. -/
def IsData (limit : Nat) (v : Json) : Prop :=
  v.fits limit = true ∧ v.isPlain = true

theorem membersFit_iff {limit : Nat} {ms : List (Literal × Json)} :
    membersFit limit ms = true ↔ ∀ m ∈ ms, m.2.fits limit = true := by
  induction ms with
  | nil => simp [membersFit]
  | cons m ms ih => simp [membersFit, ih]

theorem membersPlain_iff {ms : List (Literal × Json)} :
    membersPlain ms = true ↔ ∀ m ∈ ms, m.1.isSome = true ∧ m.2.isPlain = true := by
  induction ms with
  | nil => simp [membersPlain]
  | cons m ms ih => simp [membersPlain, ih]

theorem isData_object_iff {limit : Nat} {ms : List (Literal × Json)} :
    IsData limit (.object ms) ↔
      0 < limit ∧ ∀ m ∈ ms, m.1.isSome = true ∧ m.2.IsData (limit - 1) := by
  simp only [IsData, fits, isPlain, membersFit_iff, membersPlain_iff, Bool.and_eq_true,
    decide_eq_true_eq, and_assoc]
  constructor
  · rintro ⟨hLimit, hFits, hPlain⟩
    exact ⟨hLimit, fun m hm => ⟨(hPlain m hm).1, hFits m hm, (hPlain m hm).2⟩⟩
  · rintro ⟨hLimit, h⟩
    exact ⟨hLimit, fun m hm => (h m hm).2.1, fun m hm => ⟨(h m hm).1, (h m hm).2.2⟩⟩

end Json

namespace Tree

theorem dataNode?_eq_some_iff {depth : Nat} {v : Json} {n : Node} :
    dataNode? depth v = some n ↔ v.IsData (maxNesting - depth) ∧ Node.ofJson? v = some n := by
  simp [dataNode?, IsData]

/-! ## Changes to a value -/

/-- The names of the members of a node. -/
def nodeNames : List String :=
  ["name", "type", "content", "children", "createdAt", "modifiedAt"]

/-- The names of the members that a node cannot be without. -/
def requiredNames : List String :=
  ["name", "type", "createdAt", "modifiedAt"]

/-- The names of the members of a state. -/
def stateNames : List String :=
  ["root", "currentPath"]

/-- A change to the value of a node, read where `limit` more arrays and objects may begin. -/
inductive NodeVariant : Nat → Json → Json → Prop where
  | permute {limit : Nat} {ms ms' : List (Literal × Json)} (h : ms.Perm ms') :
      NodeVariant limit (.object ms) (.object ms')
  /-- A further member that is none of a node. -/
  | insert {limit : Nat} {before after : List (Literal × Json)} {name : String} {v : Json}
      (hName : name ∉ nodeNames) (hData : v.IsData (limit - 1)) :
      NodeVariant limit (.object (before ++ after)) (.object (before ++ member name v :: after))
  | dropContent {limit : Nat} {before after : List (Literal × Json)} :
      NodeVariant limit (.object (before ++ member "content" (textJson "") :: after))
        (.object (before ++ after))
  | dropChildren {limit : Nat} {before after : List (Literal × Json)} :
      NodeVariant limit (.object (before ++ member "children" (.object []) :: after))
        (.object (before ++ after))
  /-- A change to a child, two objects further inside. -/
  | child {limit : Nat} {before after first rest : List (Literal × Json)} {key : Literal}
      {v v' : Json} (h : NodeVariant (limit - 2) v v') :
      NodeVariant limit
        (.object (before ++ member "children" (.object (first ++ (key, v) :: rest)) :: after))
        (.object (before ++ member "children" (.object (first ++ (key, v') :: rest)) :: after))

/-- A change to the value of a state. -/
inductive StateVariant : Json → Json → Prop where
  | permute {ms ms' : List (Literal × Json)} (h : ms.Perm ms') :
      StateVariant (.object ms) (.object ms')
  /-- A further member that is none of a state. -/
  | insert {before after : List (Literal × Json)} {name : String} {v : Json}
      (hName : name ∉ stateNames) :
      StateVariant (.object (before ++ after)) (.object (before ++ member name v :: after))
  | dropPath {before after : List (Literal × Json)} :
      StateVariant (.object (before ++ member "currentPath" (textJson "") :: after))
        (.object (before ++ after))
  /-- A change to the root. -/
  | root {before after : List (Literal × Json)} {v v' : Json}
      (h : NodeVariant (maxNesting - 1) v v') :
      StateVariant (.object (before ++ member "root" v :: after))
        (.object (before ++ member "root" v' :: after))

/-- A node that is written otherwise nests no deeper than a reader allows. -/
theorem NodeVariant.isData {limit : Nat} {v v' : Json} (h : NodeVariant limit v v')
    (hData : v.IsData limit) : v'.IsData limit := by
  induction h with
  | permute hPerm =>
    rw [isData_object_iff] at hData ⊢
    exact ⟨hData.1, fun m hm => hData.2 m (hPerm.mem_iff.2 hm)⟩
  | @insert _ before after name w hName hNew =>
    simp only [isData_object_iff, List.forall_mem_append, List.forall_mem_cons] at hData ⊢
    exact ⟨hData.1, hData.2.1, ⟨rfl, hNew⟩, hData.2.2⟩
  | dropContent | dropChildren =>
    simp only [isData_object_iff, List.forall_mem_append, List.forall_mem_cons] at hData ⊢
    exact ⟨hData.1, hData.2.1, hData.2.2.2⟩
  | child _ ih =>
    -- The object of the children stands between the node and the child.
    simp only [isData_object_iff, List.forall_mem_append, List.forall_mem_cons, member,
      Nat.sub_sub] at hData ⊢
    obtain ⟨hLimit, hBefore, ⟨hName, hInner, hFirst, ⟨hKey, hChild⟩, hRest⟩, hAfter⟩ := hData
    exact ⟨hLimit, hBefore, ⟨hName, hInner, hFirst, ⟨hKey, ih hChild⟩, hRest⟩, hAfter⟩

/-! ## The members with a name -/

section Values

variable {name other : String} {ms ms' before after : List (Literal × Json)} {v w : Json}

theorem valuesOf_append :
    valuesOf name (before ++ after) = valuesOf name before ++ valuesOf name after :=
  List.filterMap_append ..

theorem valuesOf_member_cons_self :
    valuesOf name (member name v :: after) = v :: valuesOf name after := by
  simp [valuesOf, member]

theorem valuesOf_member_cons_of_ne (h : name ≠ other) :
    valuesOf name (member other v :: after) = valuesOf name after := by
  simp [valuesOf, member, h.symm]

/-- A member under another name does not matter. -/
theorem valuesOf_between_of_ne (h : name ≠ other) :
    valuesOf name (before ++ member other v :: after) = valuesOf name (before ++ after) := by
  rw [valuesOf_append, valuesOf_append, valuesOf_member_cons_of_ne h]

/-- When a name occurs once, its member can be replaced and taken away. -/
theorem valuesOf_between (h : valuesOf name (before ++ member name v :: after) = [w]) (v' : Json) :
    w = v ∧ valuesOf name (before ++ member name v' :: after) = [v'] ∧
      valuesOf name (before ++ after) = [] := by
  simp only [valuesOf_append, valuesOf_member_cons_self] at h ⊢
  rcases List.append_eq_singleton_iff.1 h with ⟨hBefore, hHere⟩ | ⟨-, hHere⟩
  · obtain ⟨rfl, hAfter⟩ := List.cons.inj hHere
    simp [hBefore, hAfter]
  · contradiction

/-- A further member under none of some names does not matter to them. -/
theorem valuesOf_insert_of_notMem {names : List String} (hName : other ∉ names) :
    ∀ known ∈ names, valuesOf known (before ++ member other v :: after)
      = valuesOf known (before ++ after) :=
  fun _ hKnown => valuesOf_between_of_ne (ne_of_mem_of_not_mem hKnown hName)

/-- A name that occurs at most once has the same value in any order of the members. -/
theorem valuesOf_perm (h : ms.Perm ms') (hFew : (valuesOf name ms).length ≤ 1) :
    valuesOf name ms' = valuesOf name ms := by
  have hValues : (valuesOf name ms).Perm (valuesOf name ms') := h.filterMap _
  cases hOf : valuesOf name ms with
  | nil =>
    rw [hOf] at hValues
    exact hValues.nil_eq.symm
  | cons v vs =>
    obtain rfl : vs = [] := by
      rw [hOf] at hFew
      simpa using hFew
    rw [hOf] at hValues
    exact (List.singleton_perm.1 hValues).symm

end Values

/-! ## Reading members -/

section Reading

variable {α : Type} {missing x : α} {f : Json → Option α} {name : String}
  {ms ms' before after : List (Literal × Json)} {v v' : Json}

/-- What is read of a member that must occur once. -/
def readOnce (f : Json → Option α) (name : String) (ms : List (Literal × Json)) : Option α :=
  match valuesOf name ms with
  | [v] => f v
  | _ => none

/-- What is read of a member that may be missing. -/
def readOrElse (missing : α) (f : Json → Option α) (name : String)
    (ms : List (Literal × Json)) : Option α :=
  match valuesOf name ms with
  | [] => some missing
  | [v] => f v
  | _ => none

theorem readOnce_of_keeps (hKeeps : ∀ v, valuesOf name ms = [v] → valuesOf name ms' = [v])
    (h : readOnce f name ms = some x) : readOnce f name ms' = some x := by
  unfold readOnce at h
  split at h
  · rename_i v hOne
    rw [readOnce, hKeeps v hOne]
    exact h
  · contradiction

theorem readOrElse_of_eq (hSame : valuesOf name ms' = valuesOf name ms)
    (h : readOrElse missing f name ms = some x) : readOrElse missing f name ms' = some x := by
  rwa [readOrElse, hSame]

theorem readOrElse_permute (hPerm : ms.Perm ms') (h : readOrElse missing f name ms = some x) :
    readOrElse missing f name ms' = some x := by
  have hFew : (valuesOf name ms).length ≤ 1 := by
    unfold readOrElse at h
    split at h
    · rename_i hNone
      simp [hNone]
    · rename_i v hOne
      simp [hOne]
    · contradiction
  exact readOrElse_of_eq (valuesOf_perm hPerm hFew) h

/-- A member that is there and can be read is the only one under its name. -/
theorem readOrElse_between
    (h : readOrElse missing f name (before ++ member name v :: after) = some x) :
    valuesOf name (before ++ member name v :: after) = [v] ∧ f v = some x := by
  unfold readOrElse at h
  split at h
  · rename_i hNone
    simp [valuesOf_append, valuesOf_member_cons_self] at hNone
  · rename_i w hOne
    obtain ⟨rfl, -, -⟩ := valuesOf_between hOne w
    exact ⟨hOne, h⟩
  · contradiction

/-- What is filled in may be left out. -/
theorem readOrElse_drop (hFilled : f v = some missing)
    (h : readOrElse missing f name (before ++ member name v :: after) = some x) :
    readOrElse missing f name (before ++ after) = some x := by
  obtain ⟨hOne, hRead⟩ := readOrElse_between h
  obtain ⟨-, -, hNone⟩ := valuesOf_between hOne v
  rw [readOrElse, hNone, ← hRead, hFilled]

theorem readOrElse_replace (hAlike : ∀ x, f v = some x → f v' = some x)
    (h : readOrElse missing f name (before ++ member name v :: after) = some x) :
    readOrElse missing f name (before ++ member name v' :: after) = some x := by
  obtain ⟨hOne, hRead⟩ := readOrElse_between h
  obtain ⟨-, hReplaced, -⟩ := valuesOf_between hOne v'
  rw [readOrElse, hReplaced]
  exact hAlike x hRead

end Reading

/-! ## Nodes -/

/-- The children that the value of a member holds. -/
def heldChildren? : Json → Option (List (String × Node))
  | .object members => childrenOf [] members
  | _ => none

/-- The children that members hold; none when no member is for them. -/
def childrenOrNone? (ms : List (Literal × Json)) : Option (List (String × Node)) :=
  readOrElse [] heldChildren? "children" ms

theorem childrenIn_eq_map (ms : List (Literal × Json)) :
    childrenIn ms = (valuesOf "children" ms).map heldChildren? := by
  induction ms with
  | nil => rfl
  | cons m ms ih =>
    obtain ⟨k, v⟩ := m
    by_cases hKey : k = some "children"
    · have hValues : valuesOf "children" ((k, v) :: ms) = v :: valuesOf "children" ms := by
        simp [valuesOf, hKey]
      rw [hValues, List.map_cons, ← ih, hKey]
      cases v <;> rfl
    · have hValues : valuesOf "children" ((k, v) :: ms) = valuesOf "children" ms := by
        simp [valuesOf, hKey]
      rw [hValues, ← ih]
      simp [childrenIn, hKey]

/-- What a node is made of. -/
theorem ofJson?_object_eq_some_iff {ms : List (Literal × Json)} {n : Node} :
    Node.ofJson? (.object ms) = some n ↔
      ∃ name created modified, oneText? "name" ms = some name ∧
        oneInstant? "createdAt" ms = some created ∧
        oneInstant? "modifiedAt" ms = some modified ∧
        ((oneKind? ms = some .file ∧ ∃ content, textOrEmpty? "content" ms = some content ∧
            n = .file name content created modified) ∨
          (oneKind? ms = some .directory ∧ ∃ cs, childrenOrNone? ms = some cs ∧
            n = .directory name cs created modified)) := by
  rw [Node.ofJson?, childrenIn_eq_map]
  simp only [assembleNode, Option.bind_eq_bind, Option.bind_eq_some_iff]
  constructor
  · rintro ⟨name, hName, created, hCreated, modified, hModified, kind, hKind, h⟩
    refine ⟨name, created, modified, hName, hCreated, hModified, ?_⟩
    cases kind with
    | file =>
      obtain ⟨content, hContent, hNode⟩ := Option.bind_eq_some_iff.1 h
      exact .inl ⟨hKind, content, hContent, (Option.some.inj hNode).symm⟩
    | directory =>
      refine .inr ⟨hKind, ?_⟩
      -- Nothing is said of the children, or something once, or more than once.
      rw [childrenOrNone?, readOrElse]
      rcases hValues : valuesOf "children" ms with _ | ⟨v, _ | ⟨w, vs⟩⟩
      · rw [hValues] at h
        exact ⟨[], rfl, (Option.some.inj h).symm⟩
      · rw [hValues] at h
        obtain ⟨cs, hChildren, hNode⟩ := Option.bind_eq_some_iff.1 h
        exact ⟨cs, hChildren, (Option.some.inj hNode).symm⟩
      · rw [hValues] at h
        contradiction
  · rintro ⟨name, created, modified, hName, hCreated, hModified, h⟩
    refine ⟨name, hName, created, hCreated, modified, hModified, ?_⟩
    rcases h with ⟨hKind, content, hContent, rfl⟩ | ⟨hKind, cs, hChildren, rfl⟩
    · exact ⟨.file, hKind, by simp [hContent]⟩
    · refine ⟨.directory, hKind, ?_⟩
      rw [childrenOrNone?, readOrElse] at hChildren
      rcases hValues : valuesOf "children" ms with _ | ⟨v, _ | ⟨w, vs⟩⟩
      · rw [hValues] at hChildren
        simpa using hChildren
      · rw [hValues] at hChildren
        simp [show heldChildren? v = some cs from hChildren]
      · rw [hValues] at hChildren
        contradiction

/-- Whether other members tell all that is read of some members of a node. -/
structure Retells (ms ms' : List (Literal × Json)) : Prop where
  once : ∀ name ∈ requiredNames, ∀ v, valuesOf name ms = [v] → valuesOf name ms' = [v]
  content : ∀ text, textOrEmpty? "content" ms = some text → textOrEmpty? "content" ms' = some text
  children : ∀ cs, childrenOrNone? ms = some cs → childrenOrNone? ms' = some cs

theorem Retells.ofJson? {ms ms' : List (Literal × Json)} {n : Node} (h : Retells ms ms')
    (hNode : Node.ofJson? (.object ms) = some n) : Node.ofJson? (.object ms') = some n := by
  -- Name, kind and instants are each a member that must occur once.
  have hOnce : ∀ {α : Type} {f : Json → Option α} {x : α}, ∀ name ∈ requiredNames,
      readOnce f name ms = some x → readOnce f name ms' = some x :=
    fun name hName => readOnce_of_keeps (h.once name hName)
  rw [ofJson?_object_eq_some_iff] at hNode ⊢
  obtain ⟨name, created, modified, hName, hCreated, hModified, hRest⟩ := hNode
  refine ⟨name, created, modified, hOnce "name" (by decide) hName,
    hOnce "createdAt" (by decide) hCreated, hOnce "modifiedAt" (by decide) hModified, ?_⟩
  rcases hRest with ⟨hKind, content, hContent, rfl⟩ | ⟨hKind, cs, hChildren, rfl⟩
  · exact .inl ⟨hOnce "type" (by decide) hKind, content, h.content content hContent, rfl⟩
  · exact .inr ⟨hOnce "type" (by decide) hKind, cs, h.children cs hChildren, rfl⟩

section Retelling

variable {ms ms' before after first rest : List (Literal × Json)} {cs : List (String × Node)}
  {key : Literal} {v v' : Json}

theorem childrenOf_append (cs : List (String × Node)) (ms ms' : List (Literal × Json)) :
    childrenOf cs (ms ++ ms') = (childrenOf cs ms).bind fun cs => childrenOf cs ms' := by
  induction ms generalizing cs with
  | nil => simp [childrenOf]
  | cons m ms ih =>
    obtain ⟨_ | key, v⟩ := m
    · simp [childrenOf]
    · rw [List.cons_append, childrenOf, childrenOf]
      cases Node.ofJson? v with
      | none => rfl
      | some n => exact ih _

/-- A child that is told otherwise is the same child, at the same place. -/
theorem heldChildren?_replace (hChild : ∀ n, Node.ofJson? v = some n → Node.ofJson? v' = some n)
    (h : heldChildren? (.object (first ++ (key, v) :: rest)) = some cs) :
    heldChildren? (.object (first ++ (key, v') :: rest)) = some cs := by
  rw [heldChildren?, childrenOf_append, Option.bind_eq_some_iff] at h ⊢
  obtain ⟨before, hFirst, hRest⟩ := h
  refine ⟨before, hFirst, ?_⟩
  cases key with
  | none => contradiction
  | some key =>
    rw [childrenOf] at hRest ⊢
    cases hNode : Node.ofJson? v with
    | none => simp [hNode] at hRest
    | some n =>
      rw [hNode] at hRest
      rw [hChild n hNode]
      exact hRest

theorem retells_permute (h : ms.Perm ms') : Retells ms ms' where
  once := by
    intro name _ v hOne
    rw [valuesOf_perm h (by simp [hOne]), hOne]
  content := fun _ => readOrElse_permute h
  children := fun _ => readOrElse_permute h

theorem retells_insert {name : String} (hName : name ∉ nodeNames) :
    Retells (before ++ after) (before ++ member name v :: after) := by
  have hSame : ∀ known ∈ nodeNames,
      valuesOf known (before ++ member name v :: after) = valuesOf known (before ++ after) :=
    valuesOf_insert_of_notMem hName
  have hRequired : ∀ known ∈ requiredNames, known ∈ nodeNames := by decide
  exact
    { once := fun known hKnown w hOne => (hSame known (hRequired known hKnown)).trans hOne
      content := fun _ => readOrElse_of_eq (hSame "content" (by decide))
      children := fun _ => readOrElse_of_eq (hSame "children" (by decide)) }

theorem retells_dropContent :
    Retells (before ++ member "content" (textJson "") :: after) (before ++ after) where
  once := by
    intro name hName w hOne
    rwa [valuesOf_between_of_ne (ne_of_mem_of_not_mem hName (by decide))] at hOne
  content := fun _ => readOrElse_drop rfl
  children := fun _ => readOrElse_of_eq (valuesOf_between_of_ne (by decide)).symm

/-- Members that differ under `children` alone tell the same when the children are the same. -/
theorem retells_of_children
    (hOther : ∀ name, name ≠ "children" → valuesOf name ms' = valuesOf name ms)
    (hChildren : ∀ cs, childrenOrNone? ms = some cs → childrenOrNone? ms' = some cs) :
    Retells ms ms' where
  once := by
    intro name hName w hOne
    rwa [hOther name (ne_of_mem_of_not_mem hName (by decide))]
  content := fun _ => readOrElse_of_eq (hOther "content" (by decide))
  children := hChildren

end Retelling

/-- **Nodes** are read alike, however they are written. -/
theorem NodeVariant.ofJson? {limit : Nat} {v v' : Json} (h : NodeVariant limit v v') :
    ∀ n, Node.ofJson? v = some n → Node.ofJson? v' = some n := by
  -- From the node that is changed out to the node that is read.
  induction h with
  | permute hPerm => exact fun n => (retells_permute hPerm).ofJson?
  | insert hName _ => exact fun n => (retells_insert hName).ofJson?
  | dropContent => exact fun n => retells_dropContent.ofJson?
  | dropChildren =>
    refine fun n => (retells_of_children ?_ fun cs => readOrElse_drop rfl).ofJson?
    exact fun name hName => (valuesOf_between_of_ne hName).symm
  | child _ ih =>
    refine fun n => (retells_of_children ?_ fun cs => readOrElse_replace fun cs =>
      heldChildren?_replace ih).ofJson?
    intro name hName
    rw [valuesOf_between_of_ne hName, valuesOf_between_of_ne hName]

theorem NodeVariant.dataNode? {depth : Nat} {v v' : Json} {n : Node}
    (h : NodeVariant (maxNesting - depth) v v') (hNode : dataNode? depth v = some n) :
    dataNode? depth v' = some n := by
  rw [dataNode?_eq_some_iff] at hNode ⊢
  exact ⟨h.isData hNode.1, h.ofJson? n hNode.2⟩

/-! ## States -/

namespace State

theorem ofJson?_object_eq_some_iff {ms : List (Literal × Json)} {s : State} :
    State.ofJson? (.object ms) = some s ↔
      ∃ v, valuesOf "root" ms = [v] ∧ dataNode? 1 v = some s.root ∧
        textOrEmpty? "currentPath" ms = some s.currentPath ∧ ∀ m ∈ ms, m.1.isSome = true := by
  rw [State.ofJson?]
  constructor
  · intro h
    split at h
    · rename_i v hOne
      simp only [Option.bind_eq_bind, Option.bind_eq_some_iff] at h
      obtain ⟨root, hRoot, path, hPath, hNames⟩ := h
      split at hNames
      · rename_i hAll
        cases hNames
        exact ⟨v, hOne, hRoot, hPath, List.all_eq_true.1 hAll⟩
      · contradiction
    · contradiction
  · rintro ⟨v, hOne, hRoot, hPath, hNames⟩
    have hAll : (ms.all fun m => m.1.isSome) = true := List.all_eq_true.2 hNames
    simp [hOne, hRoot, hPath, hAll]

end State

/-- **States** are read alike, however they are written. -/
theorem StateVariant.ofJson? {v v' : Json} {s : State} (h : StateVariant v v')
    (hState : State.ofJson? v = some s) : State.ofJson? v' = some s := by
  cases h with
  | permute hPerm =>
    rw [State.ofJson?_object_eq_some_iff] at hState ⊢
    obtain ⟨w, hRoot, hNode, hPath, hNames⟩ := hState
    refine ⟨w, ?_, hNode, readOrElse_permute hPerm hPath,
      fun m hm => hNames m (hPerm.mem_iff.2 hm)⟩
    rw [valuesOf_perm hPerm (by simp [hRoot]), hRoot]
  | @insert before after name u hName =>
    have hSame : ∀ known ∈ stateNames,
        valuesOf known (before ++ member name u :: after) = valuesOf known (before ++ after) :=
      valuesOf_insert_of_notMem hName
    rw [State.ofJson?_object_eq_some_iff] at hState ⊢
    obtain ⟨w, hRoot, hNode, hPath, hNames⟩ := hState
    refine ⟨w, (hSame "root" (by decide)).trans hRoot, hNode,
      readOrElse_of_eq (hSame "currentPath" (by decide)) hPath, ?_⟩
    simp only [List.forall_mem_append, List.forall_mem_cons] at hNames ⊢
    exact ⟨hNames.1, rfl, hNames.2⟩
  | dropPath =>
    rw [State.ofJson?_object_eq_some_iff] at hState ⊢
    obtain ⟨w, hRoot, hNode, hPath, hNames⟩ := hState
    rw [valuesOf_between_of_ne (by decide)] at hRoot
    simp only [List.forall_mem_append, List.forall_mem_cons] at hNames ⊢
    exact ⟨w, hRoot, hNode, readOrElse_drop rfl hPath, hNames.1, hNames.2.2⟩
  | @root before after u u' hVariant =>
    rw [State.ofJson?_object_eq_some_iff] at hState ⊢
    obtain ⟨w, hRoot, hNode, hPath, hNames⟩ := hState
    obtain ⟨rfl, hReplaced, -⟩ := valuesOf_between hRoot u'
    -- The path is read off the other members.
    have hSame : valuesOf "currentPath" (before ++ member "root" u' :: after)
        = valuesOf "currentPath" (before ++ member "root" w :: after) := by
      rw [valuesOf_between_of_ne (by decide), valuesOf_between_of_ne (by decide)]
    refine ⟨u', hReplaced, hVariant.dataNode? hNode, readOrElse_of_eq hSame hPath, ?_⟩
    simp only [List.forall_mem_append, List.forall_mem_cons] at hNames ⊢
    exact hNames

theorem State.ofJson?_of_variant {v v' : Json} {s : State}
    (h : Relation.ReflTransGen StateVariant v v') (hState : State.ofJson? v = some s) :
    State.ofJson? v' = some s := by
  induction h with
  | refl => exact hState
  | tail _ hChange ih => exact hChange.ofJson? ih

/-- **Texts otherwise written**: when a text is read as a state, then so is every text of the
same value with members of the state or of nodes in another order, with others that are unknown,
without an empty content, empty children or an empty path, or with any number of these
changes. -/
theorem State.load?_of_variant {text text' : String} {v v' : Json} {s : State}
    (hLoad : State.load? text = some s) (hParse : Json.parse? text.toList = some v)
    (hVariant : Relation.ReflTransGen StateVariant v v') (hSpells : v'.Spells text'.toList) :
    State.load? text' = some s := by
  have hRead : State.ofJson? v = some s := by
    rwa [State.load?, hParse, Option.bind_eq_bind, Option.bind_some] at hLoad
  rw [State.load?, parse?_of_spells hSpells, Option.bind_eq_bind, Option.bind_some,
    State.ofJson?_of_variant hVariant hRead]

/-- When two files were made. -/
def spring : Instant := (Instant.ofFields? 2024 4 1 9 30 0 0).getD default

/-- When one of them was changed. -/
def autumn : Instant := (Instant.ofFields? 2024 10 1 9 30 0 500000000).getD default

/-- A state with a file that was changed, and one without content. -/
def twoFiles : State where
  root := .directory "root"
    [("a", .file "a" "é" spring autumn), ("b", .file "b" "" spring spring)] spring autumn
  currentPath := ""

/-- The members of a node for its name, its type and its stamps, with some between them. -/
def membersOf (name type : String) (between : List (Literal × Json))
    (modified : Instant) : List (Literal × Json) :=
  [member "name" (textJson name), member "type" (textJson type)] ++ between
    ++ [member "createdAt" (instantJson spring), member "modifiedAt" (instantJson modified)]

/-- The value of `twoFiles` with other values of the files. -/
def twoFilesWith (a b : Json) : Json :=
  .object
    [member "root" (.object (membersOf "root" "directory"
      [member "children" (.object [member "a" a, member "b" b])] autumn)),
      member "currentPath" (textJson "")]

/-- The value of `twoFiles` written otherwise: in the root the children come first; in `a` the
members stand the other way round, and one more is there; `b` lacks its content, and the state
its path; and the state has a note. -/
def twoFilesOtherwise : Json :=
  let a := Json.object (membersOf "a" "file"
    [member "content" (textJson "é"), member "mode" (.array [])] autumn).reverse
  let b := Json.object (membersOf "b" "file" [] spring)
  .object
    [member "note" (.array [.null]),
      member "root" (.object (member "children" (.object [member "a" a, member "b" b])
        :: membersOf "root" "directory" [] autumn))]

theorem variants_twoFiles :
    Relation.ReflTransGen StateVariant twoFiles.toJson twoFilesOtherwise := by
  -- A change inside a file, with the other one beside it.
  have hLeft : ∀ {a a' b : Json}, NodeVariant (maxNesting - 3) a a' →
      StateVariant (twoFilesWith a b) (twoFilesWith a' b) := fun h =>
    @StateVariant.root [] _ _ _ (@NodeVariant.child _ [_, _] _ [] _ _ _ _ h)
  have hRight : ∀ {a b b' : Json}, NodeVariant (maxNesting - 3) b b' →
      StateVariant (twoFilesWith a b) (twoFilesWith a b') := fun h =>
    @StateVariant.root [] _ _ _ (@NodeVariant.child _ [_, _] _ [_] [] _ _ _ h)
  let a := Json.object (membersOf "a" "file" [member "content" (textJson "é")] autumn)
  let aMode := Json.object (membersOf "a" "file"
    [member "content" (textJson "é"), member "mode" (.array [])] autumn)
  let aTurned := Json.object (membersOf "a" "file"
    [member "content" (textJson "é"), member "mode" (.array [])] autumn).reverse
  let b := Json.object (membersOf "b" "file" [member "content" (textJson "")] spring)
  let bare := Json.object (membersOf "b" "file" [] spring)
  let root := Json.object (member "children" (.object [member "a" aTurned, member "b" bare])
    :: membersOf "root" "directory" [] autumn)
  have hContent : StateVariant (twoFilesWith a b) (twoFilesWith a bare) :=
    hRight (@NodeVariant.dropContent _ [_, _] _)
  have hMode : StateVariant (twoFilesWith a bare) (twoFilesWith aMode bare) :=
    hLeft (@NodeVariant.insert _ [_, _, _] _ _ _ (by decide) ⟨rfl, rfl⟩)
  have hTurn : StateVariant (twoFilesWith aMode bare) (twoFilesWith aTurned bare) :=
    hLeft (.permute (List.reverse_perm _).symm)
  have hChildren : StateVariant (twoFilesWith aTurned bare)
      (.object [member "root" root, member "currentPath" (textJson "")]) :=
    @StateVariant.root [] _ _ _ (.permute (@List.perm_middle _ _ [_, _] _))
  have hPath : StateVariant (.object [member "root" root, member "currentPath" (textJson "")])
      (.object [member "root" root]) :=
    @StateVariant.dropPath [_] []
  have hNote : StateVariant (.object [member "root" root]) twoFilesOtherwise :=
    @StateVariant.insert [] _ _ _ (by decide)
  exact .tail (.tail (.tail (.tail (.tail (.single hContent) hMode) hTurn) hChildren) hPath) hNote

theorem everywhere_twoFiles {P : List String → Node → Prop} (hRoot : P [] twoFiles.root)
    (hA : P ["a"] (.file "a" "é" spring autumn)) (hB : P ["b"] (.file "b" "" spring spring)) :
    twoFiles.root.Everywhere P := by
  refine Node.everywhere_iff.2 ⟨hRoot, fun kc hMem => ?_⟩
  rcases List.mem_pair.1 hMem with rfl | rfl
  · exact Node.everywhere_of_entries_eq_nil rfl hA
  · exact Node.everywhere_of_entries_eq_nil rfl hB

theorem State.load?_of_variant_twoFiles :
    State.load? (String.ofList twoFilesOtherwise.render) = some twoFiles := by
  have hKeys : twoFiles.root.DistinctKeys :=
    everywhere_twoFiles (by decide) (by decide) (by decide)
  have hDepth : twoFiles.root.Within maxSavedDepth :=
    everywhere_twoFiles (by decide) (by decide) (by decide)
  have hParse : Json.parse? twoFiles.save.toList = some twoFiles.toJson := by
    rw [State.save, String.toList_ofList]
    exact parse?_render rfl
  have hSpells : twoFilesOtherwise.Spells (String.ofList twoFilesOtherwise.render).toList := by
    rw [String.toList_ofList]
    exact spells_render rfl
  exact State.load?_of_variant (State.load?_save hKeys hDepth) hParse variants_twoFiles hSpells

end Tree

end TreeShell
