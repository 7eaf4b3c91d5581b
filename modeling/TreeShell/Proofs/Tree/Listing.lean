import Mathlib.Data.List.Nodup
import Mathlib.Data.List.Perm.Basic
import Mathlib.Tactic.Common
import TreeShell.Proofs.Tree.Position

/-!
# Listings

The listing of a directory is its children in order: the directories in front of the files,
within a kind the names in ascending order of their code points, and children of one kind and one
name as they are kept (`Node.Listed`).  This determines the listing.  The kinds and names in it
depend on nothing but the kinds and names of the children.

## Layers

- `NoLater`: the order of texts by their code points, which is the one of `String`;
- `Node.listsBefore_iff`: what the test of the sort tells of two children;
- `Node.listed_of_listing?`: the listing is such an order of the children;
- `Node.Listed.unique`, `Node.Listed.map_label_eq`: what determines it.
-/

namespace TreeShell.Tree

/-! ## Texts in order -/

/-- Whether one list of characters comes no later than another: it is a beginning of the other, or
has the smaller code point where the two differ first. -/
inductive NoLater : List Char → List Char → Prop where
  | beginning (cs rest : List Char) : NoLater cs (cs ++ rest)
  | differ {c d : Char} (common rest rest' : List Char) (h : c.toNat < d.toNat) :
      NoLater (common ++ c :: rest) (common ++ d :: rest')

theorem NoLater.cons {cs ds : List Char} (h : NoLater cs ds) (c : Char) :
    NoLater (c :: cs) (c :: ds) := by
  cases h with
  | beginning cs rest => exact .beginning (c :: cs) rest
  | differ common rest rest' hLess => exact .differ (c :: common) rest rest' hLess

/-- The order of characters by their code points, taken to lists of them. -/
abbrev Earlier : List Char → List Char → Prop :=
  List.Lex fun c d => c.toNat < d.toNat

theorem earlier_cons_self_iff {c : Char} {cs ds : List Char} :
    Earlier (c :: cs) (c :: ds) ↔ Earlier cs ds := by
  simp [Earlier, List.cons_lex_cons_iff]

theorem NoLater.not_earlier {cs ds : List Char} (h : NoLater cs ds) : ¬ Earlier ds cs := by
  cases h with
  | beginning cs rest =>
    induction cs with
    | nil => exact List.not_lex_nil
    | cons c cs ih => rwa [List.cons_append, earlier_cons_self_iff]
  | @differ c d common rest rest' hLess =>
    induction common with
    | nil =>
      rw [List.nil_append, List.nil_append, Earlier, List.cons_lex_cons_iff]
      rintro (hMore | ⟨rfl, -⟩)
      · exact Nat.lt_asymm hLess hMore
      · exact Nat.lt_irrefl _ hLess
    | cons e common ih => rwa [List.cons_append, List.cons_append, earlier_cons_self_iff]

theorem noLater_of_not_earlier {cs ds : List Char} (h : ¬ Earlier ds cs) : NoLater cs ds := by
  -- Character by character, as long as both lists have the same.
  induction cs generalizing ds with
  | nil => exact .beginning [] ds
  | cons c cs ih =>
    cases ds with
    | nil => exact absurd .nil h
    | cons d ds =>
      rcases Nat.lt_trichotomy c.toNat d.toNat with hLess | hEq | hMore
      · exact .differ [] cs ds hLess
      · obtain rfl : c = d := Char.toNat_inj.1 hEq
        exact (ih fun hRest => h (earlier_cons_self_iff.2 hRest)).cons c
      · exact absurd (.rel hMore) h

/-- The order of texts is the one by code points. -/
theorem le_iff_noLater {a b : String} : a ≤ b ↔ NoLater a.toList b.toList :=
  ⟨noLater_of_not_earlier, NoLater.not_earlier⟩

namespace Node

/-! ## Children in order -/

/-- What a listing shows of a node: whether it is a directory, and its name. -/
def label (n : Node) : Bool × String :=
  (n.isDirectory, n.name)

/-- Whether a label may stand in front of another in a listing. -/
structure InFront (l l' : Bool × String) : Prop where
  directoryFirst : l'.1 = true → l.1 = true
  ascending : l.1 = l'.1 → NoLater l.2.toList l'.2.toList

theorem InFront.antisymm {l l' : Bool × String} (h : InFront l l') (h' : InFront l' l) :
    l = l' := by
  have hKind : l.1 = l'.1 := Bool.eq_iff_iff.2 ⟨h'.directoryFirst, h.directoryFirst⟩
  have hName : l.2 = l'.2 :=
    String.le_antisymm (le_iff_noLater.2 (h.ascending hKind))
      (le_iff_noLater.2 (h'.ascending hKind.symm))
  exact Prod.ext hKind hName

theorem listsBefore_iff {a b : Node} :
    a.listsBefore b = true ↔ InFront a.label b.label := by
  constructor
  · intro h
    unfold listsBefore at h
    split at h
    · rename_i hKind
      have hName : a.name ≤ b.name := of_decide_eq_true h
      exact ⟨fun hDirectory => hKind.trans hDirectory, fun _ => le_iff_noLater.1 hName⟩
    · rename_i hKind
      exact ⟨fun _ => h, fun hSame => absurd hSame hKind⟩
  · rintro ⟨hFirst, hAscending⟩
    unfold listsBefore
    split
    · rename_i hKind
      exact decide_eq_true (le_iff_noLater.2 (hAscending hKind))
    · rename_i hKind
      -- Of two kinds, the one in front is that of a directory.
      cases ha : a.isDirectory with
      | true => rfl
      | false =>
        cases hb : b.isDirectory with
        | true => exact ha.symm.trans (hFirst hb)
        | false => exact absurd (ha.trans hb.symm) hKind

theorem listsBefore_trans (a b c : Node) (hab : a.listsBefore b = true)
    (hbc : b.listsBefore c = true) : a.listsBefore c = true := by
  obtain ⟨hab₁, hab₂⟩ := listsBefore_iff.1 hab
  obtain ⟨hbc₁, hbc₂⟩ := listsBefore_iff.1 hbc
  refine listsBefore_iff.2 ⟨fun hc => hab₁ (hbc₁ hc), fun hac => ?_⟩
  -- Between two of one kind there is no other kind.
  have hKind : a.isDirectory = b.isDirectory :=
    Bool.eq_iff_iff.2 ⟨fun ha => hbc₁ (hac.symm.trans ha), hab₁⟩
  exact le_iff_noLater.1 (String.le_trans (le_iff_noLater.2 (hab₂ hKind))
    (le_iff_noLater.2 (hbc₂ (hKind.symm.trans hac))))

theorem listsBefore_total (a b : Node) : (a.listsBefore b || b.listsBefore a) = true := by
  unfold listsBefore
  by_cases hKind : a.isDirectory = b.isDirectory
  · simpa [hKind] using String.le_total a.name b.name
  · cases ha : a.isDirectory <;> cases hb : b.isDirectory <;> simp_all

/-! ## The listing of a directory -/

/-- The children of a node without their keys, as they are kept. -/
def childNodes (n : Node) : List Node :=
  n.entries.map Prod.snd

/-- Whether nodes are the children of a directory in the order of a listing. -/
structure Listed (d : Node) (nodes : List Node) : Prop where
  perm : nodes.Perm d.childNodes
  directoriesFirst : nodes.Pairwise fun a b => b.isDirectory = true → a.isDirectory = true
  ascending : nodes.Pairwise fun a b =>
    a.isDirectory = b.isDirectory → NoLater a.name.toList b.name.toList
  stable : ∀ l, nodes.filter (fun n => n.label = l) = d.childNodes.filter fun n => n.label = l

variable {d d' : Node} {nodes nodes' : List Node}

theorem listing?_eq_some_iff :
    d.listing? = some nodes ↔
      d.isDirectory = true ∧ nodes = d.childNodes.mergeSort listsBefore := by
  cases d with
  | file => simp [listing?, children?, isDirectory]
  | directory => simp [listing?, children?, isDirectory, childNodes, eq_comm]

/-- **Listings** have each child once, in order, and leave equal ones as they are kept. -/
theorem listed_of_listing? (h : d.listing? = some nodes) : d.Listed nodes := by
  obtain ⟨-, rfl⟩ := listing?_eq_some_iff.1 h
  have hPerm := List.mergeSort_perm d.childNodes listsBefore
  have hSorted : (d.childNodes.mergeSort listsBefore).Pairwise
      fun a b => InFront a.label b.label :=
    (List.pairwise_mergeSort listsBefore_trans listsBefore_total _).imp listsBefore_iff.1
  refine ⟨hPerm, hSorted.imp fun hFront => hFront.directoryFirst,
    hSorted.imp fun hFront => hFront.ascending, fun l => ?_⟩
  -- Children of one label are in order as they are kept, and so the sort keeps them as they are.
  have hSame : (d.childNodes.filter fun n => n.label = l).Pairwise
      fun a b => a.listsBefore b = true := by
    refine List.pairwise_of_forall_mem_list fun a ha b hb => ?_
    have hLabel : a.label = b.label :=
      (of_decide_eq_true (List.mem_filter.1 ha).2).trans
        (of_decide_eq_true (List.mem_filter.1 hb).2).symm
    have hEither := listsBefore_total a b
    rw [Bool.or_eq_true, listsBefore_iff, listsBefore_iff, hLabel, or_self] at hEither
    rwa [listsBefore_iff, hLabel]
  have hKept := (List.sublist_mergeSort listsBefore_trans listsBefore_total hSame
    List.filter_sublist).filter fun n => n.label = l
  rw [List.filter_filter] at hKept
  simp only [Bool.and_self] at hKept
  exact (hKept.eq_of_length (hPerm.filter _).length_eq.symm).symm

theorem Listed.pairwise_inFront (h : d.Listed nodes) :
    (nodes.map label).Pairwise InFront := by
  rw [List.pairwise_map]
  exact (h.directoriesFirst.and h.ascending).imp fun hBoth => ⟨hBoth.1, hBoth.2⟩

/-- **Labels**: what two listings show is the same when the directories have the same labels,
each as often. -/
theorem Listed.map_label_eq (h : d.Listed nodes) (h' : d'.Listed nodes')
    (hLabels : (d.childNodes.map label).Perm (d'.childNodes.map label)) :
    nodes.map label = nodes'.map label := by
  refine List.Perm.eq_of_pairwise (fun _ _ _ _ => InFront.antisymm) h.pairwise_inFront
    h'.pairwise_inFront ?_
  exact (h.perm.map label).trans (hLabels.trans (h'.perm.map label).symm)

/-- Lists in which the same values come in the same order, and the elements of each value as
well, are the same. -/
theorem eq_of_map_eq_of_filter_eq {as bs : List Node} (hMap : as.map label = bs.map label)
    (hFilter : ∀ l, as.filter (fun n => n.label = l) = bs.filter fun n => n.label = l) :
    as = bs := by
  induction as generalizing bs with
  | nil => exact (List.map_eq_nil_iff.1 hMap.symm).symm
  | cons a as ih =>
    cases bs with
    | nil => cases hMap
    | cons b bs =>
      obtain ⟨hLabel, hRest⟩ := List.cons.inj hMap
      -- Both heads are the first of their label.
      have hHead := hFilter a.label
      rw [List.filter_cons_of_pos (by simp), List.filter_cons_of_pos (by simp [hLabel])] at hHead
      obtain ⟨rfl, hTail⟩ := List.cons.inj hHead
      congr 1
      refine ih hRest fun l => ?_
      have hAll := hFilter l
      simp only [List.filter_cons] at hAll
      split at hAll
      · exact (List.cons.inj hAll).2
      · exact hAll

/-- Directories whose children have names of their own, and the same labels, have them each as
often. -/
theorem perm_map_label (hNames : (d.childNodes.map name).Nodup)
    (hNames' : (d'.childNodes.map name).Nodup)
    (hLabels : ∀ l, l ∈ d.childNodes.map label ↔ l ∈ d'.childNodes.map label) :
    (d.childNodes.map label).Perm (d'.childNodes.map label) := by
  have hNodup : ∀ {ns : List Node}, (ns.map name).Nodup → (ns.map label).Nodup := by
    intro ns hDistinct
    have hName : ns.map name = (ns.map label).map Prod.snd := by
      rw [List.map_map]
      rfl
    rw [hName] at hDistinct
    exact hDistinct.of_map _
  exact (List.perm_ext_iff_of_nodup (hNodup hNames) (hNodup hNames')).2 hLabels

/-- A directory has one listing. -/
theorem Listed.unique (h : d.Listed nodes) (h' : d.Listed nodes') : nodes = nodes' :=
  eq_of_map_eq_of_filter_eq (h.map_label_eq h' (.refl _)) fun l =>
    (h.stable l).trans (h'.stable l).symm

end Node

end TreeShell.Tree
